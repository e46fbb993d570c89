import FactQuery.Number.Numeral

/-!
# The order of values

Numbers compare by value, an integer against a floating-point number exactly: on the scale of
`2 ^ -1074` both are integers, and the infinities lie outside.  Texts compare by code point.
-/

set_option autoImplicit false

namespace FactQuery.Number

namespace Quantity

/-- The side of the finite numbers on which a number lies. -/
def side : Quantity → Int
  | .integer _ => 0
  | .binary value => value.infinitySign

/-- A finite number as a multiple of `2 ^ -1074`. -/
def scaled : Quantity → Int
  | .integer value => value * Binary64.unitsPerOne
  | .binary value => value.signedUnits

def less (first second : Quantity) : Bool :=
  first.side < second.side || (first.side == second.side && first.scaled < second.scaled)

def equal (first second : Quantity) : Bool :=
  first.side == second.side && first.scaled == second.scaled

end Quantity

namespace Comparand

def less : Comparand → Comparand → Bool
  | .number first, .number second => first.less second
  | .text first, .text second => first < second
  | _, _ => false

def equal : Comparand → Comparand → Bool
  | .number first, .number second => first.equal second
  | .text first, .text second => first == second
  | _, _ => false

def order (first second : Comparand) : Ordering :=
  if second.less first then .gt else if first.less second then .lt else .eq

end Comparand

def compareValues (left right : String) : Except UnreadableNumeral Ordering := do
  let pair ← coercePair left right
  return pair.1.order pair.2

end FactQuery.Number
