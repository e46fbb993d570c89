/-!
# Binary floating point

A finite number of the 64-bit binary format is a whole multiple of `2 ^ -1074`, so sign and multiple
say which one it is, and comparisons need integers only.  `ofDecimal` rounds a decimal number to the
nearest such number, a tie to the even significand, and past the largest of them to infinity.
-/

set_option autoImplicit false

namespace FactQuery.Number

inductive Binary64 where
  /-- A multiple of `2 ^ -1074`, with the sign kept for zero too. -/
  | finite (negative : Bool) (units : Nat)
  | infinite (negative : Bool)
  deriving DecidableEq, Repr

/-- A quotient rounded to the nearest whole number, a tie to the even one. -/
def roundQuotient (numerator denominator : Nat) : Nat :=
  let quotient := numerator / denominator
  let remainder := numerator % denominator
  if 2 * remainder < denominator then quotient
  else if denominator < 2 * remainder then quotient + 1
  else quotient + quotient % 2

namespace Binary64

/-- A quotient of units rounded to 53 significant bits. -/
def roundUnits (numerator denominator : Nat) : Nat :=
  let spare := Nat.pow 2 ((numerator / denominator).log2 - 52)
  roundQuotient numerator (denominator * spare) * spare

def unitsPerOne : Nat := Nat.pow 2 1074

/-- The number of units in `2 ^ 1024`, where the finite numbers end. -/
def unitLimit : Nat := Nat.pow 2 2098

/-- The number nearest to `digits * 10 ^ exponent`.  Beyond some four hundred decimal places the
result is infinite or zero whatever the digits are, so no power of that size is computed. -/
def ofDecimal (negative : Bool) (digits : Nat) (exponent : Int) : Binary64 :=
  if digits = 0 then .finite negative 0
  else if 400 < exponent then .infinite negative
  else if exponent < -(digits.log2 + 401 : Int) then .finite negative 0
  else
    let numerator := digits * Nat.pow 10 exponent.toNat * unitsPerOne
    let units := roundUnits numerator (Nat.pow 10 (-exponent).toNat)
    if units < unitLimit then .finite negative units else .infinite negative

def infinitySign : Binary64 → Int
  | .finite _ _ => 0
  | .infinite true => -1
  | .infinite false => 1

def signedUnits : Binary64 → Int
  | .finite true units => -units
  | .finite false units => units
  | .infinite _ => 0

def fractionRange : Nat := Nat.pow 2 52

def signBit (negative : Bool) : Nat :=
  if negative then Nat.pow 2 63 else 0

/-- The sign bit, the eleven exponent bits and the 52 fraction bits, read as one number.  The
leading bit of a normal significand is not stored; added to the fraction it raises the exponent by
one. -/
def bits : Binary64 → Nat
  | .infinite negative => signBit negative + 2047 * fractionRange
  | .finite negative units =>
    let spare := units.log2 - 52
    signBit negative + (spare * fractionRange + units / Nat.pow 2 spare)

end Binary64

end FactQuery.Number
