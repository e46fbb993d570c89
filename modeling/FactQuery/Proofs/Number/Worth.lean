import FactQuery.Number.Order
import Mathlib.Algebra.Order.Field.Rat
import Mathlib.Data.Rat.Cast.Order
import Mathlib.Data.Sum.Order
import Mathlib.Order.WithBot

/-!
# What numbers are worth

A quantity is a rational number or one of the two infinities.  An integer is worth itself, a finite
floating-point number its units of `2 ^ -1074`, and one quantity is less than another exactly if it
is worth less: nothing is rounded when the two kinds meet.
-/

set_option autoImplicit false

namespace FactQuery.Number

/-- The rational numbers, with an infinity at each end. -/
abbrev Worth : Type :=
  WithBot (WithTop ℚ)

namespace Quantity

/-- A finite number of units. -/
def worthOfUnits (units : Int) : Worth :=
  ((units / Binary64.unitsPerOne : ℚ) : WithTop ℚ)

def worth : Quantity → Worth
  | .integer value => ((value : ℚ) : WithTop ℚ)
  | .binary (.finite negative units) => worthOfUnits (if negative then -units else units)
  | .binary (.infinite true) => ⊥
  | .binary (.infinite false) => ⊤

theorem unitsPerOne_pos : (0 : ℚ) < Binary64.unitsPerOne := by
  have positive : 0 < Binary64.unitsPerOne := by decide +kernel
  exact_mod_cast positive

theorem worthOfUnits_lt_iff {first second : Int} :
    worthOfUnits first < worthOfUnits second ↔ first < second := by
  rw [worthOfUnits, worthOfUnits, WithBot.coe_lt_coe, WithTop.coe_lt_coe,
    div_lt_div_iff_of_pos_right unitsPerOne_pos, Int.cast_lt]

theorem worthOfUnits_lt_top (units : Int) : worthOfUnits units < ⊤ :=
  WithBot.coe_lt_coe.2 (WithTop.coe_lt_top _)

theorem bot_lt_worthOfUnits (units : Int) : ⊥ < worthOfUnits units :=
  WithBot.bot_lt_coe _

theorem worth_cases (quantity : Quantity) :
    (quantity.side = 0 ∧ quantity.worth = worthOfUnits quantity.scaled) ∨
      (quantity.side = -1 ∧ quantity.scaled = 0 ∧ quantity.worth = ⊥) ∨
        (quantity.side = 1 ∧ quantity.scaled = 0 ∧ quantity.worth = ⊤) := by
  cases quantity with
  | integer value =>
      refine Or.inl ⟨rfl, ?_⟩
      rw [worth, worthOfUnits, scaled, Int.cast_mul, Int.cast_natCast,
        mul_div_cancel_right₀ _ unitsPerOne_pos.ne']
  | binary value =>
      cases value with
      | finite negative units => cases negative <;> exact Or.inl ⟨rfl, rfl⟩
      | infinite negative =>
          cases negative with
          | true => exact Or.inr (Or.inl ⟨rfl, rfl, rfl⟩)
          | false => exact Or.inr (Or.inr ⟨rfl, rfl, rfl⟩)

theorem less_iff (first second : Quantity) :
    first.less second = true ↔ first.worth < second.worth := by
  unfold less
  rcases first.worth_cases with ⟨side, worth⟩ | ⟨side, none, worth⟩ | ⟨side, none, worth⟩ <;>
    rcases second.worth_cases with
      ⟨otherSide, other⟩ | ⟨otherSide, noneToo, other⟩ | ⟨otherSide, noneToo, other⟩ <;>
    simp [worthOfUnits_lt_iff, worthOfUnits_lt_top, bot_lt_worthOfUnits, *]

theorem worthOfUnits_injective {first second : Int} :
    worthOfUnits first = worthOfUnits second ↔ first = second := by
  constructor
  · intro same
    refine le_antisymm (not_lt.1 fun above => ?_) (not_lt.1 fun below => ?_)
    · exact (worthOfUnits_lt_iff.2 above).ne same.symm
    · exact (worthOfUnits_lt_iff.2 below).ne same
  · exact congrArg worthOfUnits

theorem equal_iff (first second : Quantity) :
    first.equal second = true ↔ first.worth = second.worth := by
  unfold equal
  rcases first.worth_cases with ⟨side, worth⟩ | ⟨side, none, worth⟩ | ⟨side, none, worth⟩ <;>
    rcases second.worth_cases with
      ⟨otherSide, other⟩ | ⟨otherSide, noneToo, other⟩ | ⟨otherSide, noneToo, other⟩ <;>
    simp [worthOfUnits_injective, (worthOfUnits_lt_top _).ne, (worthOfUnits_lt_top _).ne',
      (bot_lt_worthOfUnits _).ne, (bot_lt_worthOfUnits _).ne', *]

end Quantity

end FactQuery.Number
