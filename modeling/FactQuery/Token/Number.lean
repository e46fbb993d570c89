import FactQuery.Grammar.Layout
import FactQuery.Number.Written

/-!
# Number tokens

Three kinds of token follow from the parts that are there: a double has an exponent, a decimal has a
digit behind its point, an integer has neither point nor exponent.
-/

set_option autoImplicit false

namespace FactQuery.Token

open FactQuery.Text FactQuery.Grammar FactQuery.Number

def scanDouble : Scanner := fun text =>
  let mantissa := (Mantissa.split text).1
  if mantissa.hasDigit then
    (Exponent.split? (Mantissa.split text).2).map fun found =>
      (mantissa.written ++ found.1.written, found.2)
  else none

def scanDecimal : Scanner := fun text =>
  let mantissa := (Mantissa.split text).1
  if mantissa.fraction.any fun digits => !digits.isEmpty then
    some (mantissa.written, (Mantissa.split text).2)
  else none

/-- The scanner of an integer.  A point behind the digits is left where it is. -/
def scanInteger : Scanner := fun text =>
  let sign := (splitSign text).1
  let unsigned := (splitSign text).2
  let digits := unsigned.takeWhile isDecimalDigit
  if digits.isEmpty then none else some (sign ++ digits, unsigned.dropWhile isDecimalDigit)

def numberText (scan : Scanner) : Parser String := do
  let token ← lexeme scan
  return String.ofList token

end FactQuery.Token
