import FactQuery.Number.Binary64

/-!
# Shortest decimal text

A floating-point number is shown with the fewest significant digits that read back as the same
number, and with the digits nearest to it among those.  Places from 10 ^ -4 up to 10 ^ 15 are
written out; beyond them the text has an exponent of at least two digits.
-/

set_option autoImplicit false

namespace FactQuery.Number.Binary64

/-- The decimal place of the leading digit of a positive quotient. -/
def leadingPlace (numerator denominator : Nat) : Int :=
  if denominator ≤ numerator then ((Nat.toDigits 10 (numerator / denominator)).length : Int) - 1
  else
    let reached := (List.range 400).find? fun place => denominator ≤ numerator * Nat.pow 10 place
    Int.neg (reached.getD 400)

/-- The multiple of `10 ^ place` that reads back as a positive number.  Of the two on either side of
the number the nearer one is tried first, and of two equally near ones the even one.  Below a power
of two the numbers lie closer than above it, so the nearer one may fail where the other does not. -/
def digitsAt? (units : Nat) (place : Int) : Option Nat :=
  let numerator := units * Nat.pow 10 (-place).toNat
  let denominator := unitsPerOne * Nat.pow 10 place.toNat
  let below := numerator / denominator
  let nearer := roundQuotient numerator denominator
  let farther := if nearer = below then below + 1 else below
  [nearer, farther].find? fun digits => ofDecimal false digits place == .finite false units

/-- The fewest digits that read back as a positive number, with the place of the last of them.
Seventeen always suffice. -/
def shortestDigits (units : Nat) : Nat × Int :=
  let leading := leadingPlace units unitsPerOne
  let found := (List.range 17).findSome? fun (count : Nat) =>
    let place := leading - (count : Int)
    (digitsAt? units place).map fun digits => (digits, place)
  found.getD (0, 0)

def shortestPositive (units : Nat) : String :=
  let found := shortestDigits units
  let digits := (Nat.toDigits 10 found.1).reverse.dropWhile (· == '0') |>.reverse
  let leading := found.2 + (Nat.toDigits 10 found.1).length - 1
  if leading < -4 || 16 ≤ leading then
    let mantissa := digits.take 1 ++ if digits.length ≤ 1 then [] else '.' :: digits.drop 1
    let size := Nat.toDigits 10 leading.natAbs
    let exponent := if size.length < 2 then '0' :: size else size
    String.ofList (mantissa ++ ['e', if leading < 0 then '-' else '+'] ++ exponent)
  else if leading < 0 then
    String.ofList (['0', '.'] ++ List.replicate (leading.natAbs - 1) '0' ++ digits)
  else
    let wholeSize := leading.toNat + 1
    let padded := digits ++ List.replicate (wholeSize - digits.length) '0'
    let fraction := padded.drop wholeSize
    String.ofList (padded.take wholeSize ++ '.' :: if fraction.isEmpty then ['0'] else fraction)

def shortest : Binary64 → String
  | .infinite negative => if negative then "-inf" else "inf"
  | .finite negative units =>
    (if negative then "-" else "") ++ if units = 0 then "0.0" else shortestPositive units

end FactQuery.Number.Binary64
