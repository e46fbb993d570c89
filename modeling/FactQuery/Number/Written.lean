import FactQuery.Text.DecimalDigit

/-!
# Numbers as they are written

A number is an optional sign, digits with at most one point among them, and at most one exponent.
Digits may be those of any script.  The parts are kept as written, so that a number can be stored
and shown without change, and each reader takes the longest part that stands at the front of a text.
-/

set_option autoImplicit false

namespace FactQuery.Number

open FactQuery.Text

def splitSign : List Char → List Char × List Char
  | [] => ([], [])
  | c :: rest => if c == '+' || c == '-' then ([c], rest) else ([], c :: rest)

structure Mantissa where
  sign : List Char
  whole : List Char
  /-- The digits behind the point, or nothing where there is no point. -/
  fraction : Option (List Char)
  deriving DecidableEq, Repr

namespace Mantissa

/-- A number needs at least one digit in front of its exponent. -/
def hasDigit (mantissa : Mantissa) : Bool :=
  !mantissa.whole.isEmpty || mantissa.fraction.any fun digits => !digits.isEmpty

def written (mantissa : Mantissa) : List Char :=
  mantissa.sign ++ mantissa.whole ++
    match mantissa.fraction with
    | some digits => '.' :: digits
    | none => []

def split (text : List Char) : Mantissa × List Char :=
  let sign := (splitSign text).1
  let unsigned := (splitSign text).2
  let whole := unsigned.takeWhile isDecimalDigit
  match unsigned.dropWhile isDecimalDigit with
  | '.' :: behind =>
    (⟨sign, whole, some (behind.takeWhile isDecimalDigit)⟩, behind.dropWhile isDecimalDigit)
  | behind => (⟨sign, whole, none⟩, behind)

end Mantissa

structure Exponent where
  marker : Char
  sign : List Char
  digits : List Char
  deriving DecidableEq, Repr

namespace Exponent

def written (exponent : Exponent) : List Char :=
  exponent.marker :: exponent.sign ++ exponent.digits

def split? : List Char → Option (Exponent × List Char)
  | [] => none
  | marker :: rest =>
    let sign := (splitSign rest).1
    let unsigned := (splitSign rest).2
    let digits := unsigned.takeWhile isDecimalDigit
    if (marker == 'e' || marker == 'E') && !digits.isEmpty then
      some (⟨marker, sign, digits⟩, unsigned.dropWhile isDecimalDigit)
    else none

end Exponent

end FactQuery.Number
