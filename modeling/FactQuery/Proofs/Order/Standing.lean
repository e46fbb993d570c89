import FactQuery.Evaluation.Order
import FactQuery.Proofs.Number.Worth
import Mathlib.Data.String.Basic

/-!
# Where rows stand

The values of a column are compared as numbers or as texts, whichever both are, so the comparison is
no order where a column mixes the two.  Where it does not, every place of a row has a standing in
one linear order: nothing at the bottom, then numbers by what they are worth, then texts.  Two rows
compare by their standings under the first condition that tells them apart.
-/

set_option autoImplicit false

namespace FactQuery

open Std (OrientedCmp TransCmp)
open FactQuery.Sparql FactQuery.Number

/-! ## Values -/

/-- The numbers by what they are worth, then the texts by code point. -/
abbrev Rank : Type :=
  Worth ⊕ₗ String

def Number.Comparand.rank : Comparand → Rank
  | .number quantity => toLex (Sum.inl quantity.worth)
  | .text value => toLex (Sum.inr value)

def rankOf (value : String) : Rank :=
  match coerce value with
  | .ok comparand => comparand.rank
  | .error _ => toLex (Sum.inr value)

/-- The standing of a place of a row: an empty one is below every value. -/
abbrev Standing : Type :=
  WithBot Rank

def standingOf : Option String → Standing
  | none => ⊥
  | some value => rankOf value

/-- All values are numerals that can be read, or none is a numeral. -/
def IsUniform (values : List String) : Prop :=
  (∀ value ∈ values, isNumeral value = true ∧ (coerce value).isOk = true) ∨
    ∀ value ∈ values, isNumeral value = false

instance (values : List String) : Decidable (IsUniform values) :=
  inferInstanceAs (Decidable (_ ∨ _))

theorem coerce_of_isNumeral {value : String} (numeral : isNumeral value = true)
    (readable : (coerce value).isOk = true) : ∃ quantity, coerce value = .ok (.number quantity) := by
  obtain ⟨found, whole⟩ := Option.isSome_iff_exists.1 numeral
  unfold coerce at readable ⊢
  rw [whole] at readable ⊢
  simp only at readable ⊢
  split at readable
  · contradiction
  · exact ⟨found.value, by simp [*]⟩

theorem coerce_of_not_isNumeral {value : String} (plain : isNumeral value = false) :
    coerce value = .ok (.text value) := by
  have none : Numeral.ofPadded? value = none := Option.not_isSome_iff_eq_none.1 (by
    simpa [isNumeral] using plain)
  unfold coerce
  rw [none]

/-- Two comparands are ordered as they rank, if each is less than the other where it ranks below. -/
theorem order_eq_compare {first second : Comparand}
    (less : first.less second = true ↔ first.rank < second.rank)
    (greater : second.less first = true ↔ second.rank < first.rank) :
    first.order second = compare first.rank second.rank := by
  unfold Comparand.order
  split
  · rename_i isGreater
    exact (compare_gt_iff_gt.2 (greater.1 isGreater)).symm
  · rename_i notGreater
    split
    · rename_i isLess
      exact (compare_lt_iff_lt.2 (less.1 isLess)).symm
    · rename_i notLess
      refine (compare_eq_iff_eq.2 (le_antisymm ?_ ?_)).symm
      · exact not_lt.1 fun above => notGreater (greater.2 above)
      · exact not_lt.1 fun below => notLess (less.2 below)

theorem less_number_iff {first second : Quantity} :
    (Comparand.number first).less (.number second) = true ↔
      (Comparand.number first).rank < (Comparand.number second).rank := by
  rw [Comparand.less, Quantity.less_iff, Comparand.rank, Comparand.rank, Sum.Lex.inl_lt_inl_iff]

theorem less_text_iff {first second : String} :
    (Comparand.text first).less (.text second) = true ↔
      (Comparand.text first).rank < (Comparand.text second).rank := by
  rw [Comparand.less, decide_eq_true_iff, Comparand.rank, Comparand.rank, Sum.Lex.inr_lt_inr_iff]

theorem compareValues_eq {values : List String} (uniform : IsUniform values) {left right : String}
    (isLeft : left ∈ values) (isRight : right ∈ values) :
    compareValues left right = .ok (compare (rankOf left) (rankOf right)) := by
  unfold compareValues coercePair rankOf
  rcases uniform with numerals | texts
  · obtain ⟨first, isFirst⟩ := coerce_of_isNumeral (numerals left isLeft).1 (numerals left isLeft).2
    obtain ⟨second, isSecond⟩ :=
      coerce_of_isNumeral (numerals right isRight).1 (numerals right isRight).2
    simp only [isFirst, isSecond, ok_bind]
    exact congrArg Except.ok (order_eq_compare less_number_iff less_number_iff)
  · simp only [coerce_of_not_isNumeral (texts left isLeft),
      coerce_of_not_isNumeral (texts right isRight), ok_bind]
    exact congrArg Except.ok (order_eq_compare less_text_iff less_text_iff)

theorem compare_coe (left right : Rank) :
    compare (left : Standing) (right : Standing) = compare left right := by
  rcases lt_trichotomy left right with below | rfl | above
  · rw [compare_lt_iff_lt.2 below, compare_lt_iff_lt.2 (WithBot.coe_lt_coe.2 below)]
  · rw [compare_eq_iff_eq.2 rfl, compare_eq_iff_eq.2 rfl]
  · rw [compare_gt_iff_gt.2 above, compare_gt_iff_gt.2 (WithBot.coe_lt_coe.2 above)]

/-! ## Rows -/

namespace Order

def column (rows : List Row) (name : String) : List String :=
  rows.filterMap fun row => Row.value? row name

/-- Each column that is ordered by holds numerals only, or none. -/
def AreUniform (conditions : List OrderCondition) (rows : List Row) : Prop :=
  ∀ condition ∈ conditions, IsUniform (column rows condition.variableName)

instance (conditions : List OrderCondition) (rows : List Row) :
    Decidable (AreUniform conditions rows) :=
  inferInstanceAs (Decidable (∀ condition ∈ conditions, _))

def standing (condition : OrderCondition) (row : Row) : Standing :=
  standingOf (Row.value? row condition.variableName)

def byStanding (condition : OrderCondition) (left right : Row) : Ordering :=
  if condition.descending then compare (standing condition right) (standing condition left)
  else compare (standing condition left) (standing condition right)

def byStandings : List OrderCondition → Row → Row → Ordering
  | [], _, _ => .eq
  | condition :: others, left, right =>
    (byStanding condition left right).then (byStandings others left right)

instance (condition : OrderCondition) : TransCmp (byStanding condition) := by
  unfold byStanding
  split
  · exact inferInstanceAs (TransCmp fun left right =>
      compareOn (standing condition) right left)
  · exact inferInstanceAs (TransCmp (compareOn (standing condition)))

instance transCmp_byStandings (conditions : List OrderCondition) :
    TransCmp (byStandings conditions) := by
  induction conditions with
  | nil => exact { eq_swap := rfl, isLE_trans := fun _ _ => rfl }
  | cons condition others inductionHypothesis =>
      exact inferInstanceAs (TransCmp (compareLex (byStanding condition) (byStandings others)))

theorem mem_column {rows : List Row} {row : Row} (inside : row ∈ rows) {name value : String}
    (found : Row.value? row name = some value) : value ∈ column rows name :=
  List.mem_filterMap.2 ⟨row, inside, found⟩

theorem compareOptional_eq {rows : List Row} {name : String} (uniform : IsUniform (column rows name))
    {left right : Row} (isLeft : left ∈ rows) (isRight : right ∈ rows) :
    compareOptional (Row.value? left name) (Row.value? right name) =
      .ok (compare (standingOf (Row.value? left name)) (standingOf (Row.value? right name))) := by
  cases leftValue : Row.value? left name with
  | none =>
      cases rightValue : Row.value? right name with
      | none => rfl
      | some other =>
          exact congrArg Except.ok (compare_lt_iff_lt.2 (WithBot.bot_lt_coe (rankOf other))).symm
  | some value =>
      cases rightValue : Row.value? right name with
      | none =>
          exact congrArg Except.ok (compare_gt_iff_gt.2 (WithBot.bot_lt_coe (rankOf value))).symm
      | some other =>
          rw [compareOptional, compareValues_eq uniform (mem_column isLeft leftValue)
            (mem_column isRight rightValue), standingOf, standingOf, compare_coe]

/-- Rows with uniform columns compare as they stand. -/
theorem compareRows_eq {conditions : List OrderCondition} {rows : List Row}
    (uniform : AreUniform conditions rows) {left right : Row} (isLeft : left ∈ rows)
    (isRight : right ∈ rows) :
    compareRows left right conditions = .ok (byStandings conditions left right) := by
  induction conditions with
  | nil => rfl
  | cons condition others inductionHypothesis =>
      obtain ⟨here, later⟩ := List.forall_mem_cons.1 uniform
      have swapped : compare (standing condition right) (standing condition left) =
          (compare (standing condition left) (standing condition right)).swap :=
        OrientedCmp.eq_swap
      rw [compareRows, compareOptional_eq here isLeft isRight, inductionHypothesis later,
        byStandings, byStanding, swapped]
      simp only [ok_bind, standing]
      cases compare (standingOf (Row.value? left condition.variableName))
        (standingOf (Row.value? right condition.variableName)) <;>
        cases condition.descending <;> rfl

end Order

end FactQuery
