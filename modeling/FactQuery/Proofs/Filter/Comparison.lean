import FactQuery.Evaluation.Filter
import FactQuery.Proofs.Order.Standing

/-!
# Filters and the order of values

A filter asks of two values what their order says.  Both read the values the same way, as two
numbers or as two texts, and of two values that can be read exactly one of less, equal and greater
holds: no number is incomparable, whichever kind it is and however large.
-/

set_option autoImplicit false

namespace FactQuery

open Std (OrientedCmp)
open FactQuery.Sparql FactQuery.Number

/-! ## Pairs of comparands -/

def Number.Comparand.AreAlike : Comparand → Comparand → Prop
  | .number _, .number _ => True
  | .text _, .text _ => True
  | _, _ => False

/-- Two readable values are seen as two numbers or as two texts, from either side the same. -/
theorem exists_coercePair {left right : String} (leftReadable : (coerce left).isOk = true)
    (rightReadable : (coerce right).isOk = true) :
    ∃ first second, first.AreAlike second ∧ coercePair left right = .ok (first, second) ∧
      coercePair right left = .ok (second, first) := by
  unfold coercePair
  cases isLeft : coerce left with
  | error fault => simp [isLeft, Except.isOk, Except.toBool] at leftReadable
  | ok first =>
      cases isRight : coerce right with
      | error fault => simp [isRight, Except.isOk, Except.toBool] at rightReadable
      | ok second =>
          cases first with
          | number one =>
              cases second with
              | number other => exact ⟨.number one, .number other, trivial, rfl, rfl⟩
              | text other => exact ⟨.text left, .text right, trivial, rfl, rfl⟩
          | text one => cases second <;> exact ⟨.text left, .text right, trivial, rfl, rfl⟩

section Alike

variable {first second : Comparand}

theorem Number.Comparand.AreAlike.less_iff (alike : first.AreAlike second) :
    first.less second = true ↔ first.rank < second.rank := by
  cases first <;> cases second
  · exact less_number_iff
  · exact alike.elim
  · exact alike.elim
  · exact less_text_iff

theorem Number.Comparand.AreAlike.symm (alike : first.AreAlike second) : second.AreAlike first := by
  cases first <;> cases second <;> exact alike

theorem Number.Comparand.AreAlike.equal_iff (alike : first.AreAlike second) :
    first.equal second = true ↔ first.rank = second.rank := by
  cases first <;> cases second
  · rw [Comparand.equal, Quantity.equal_iff, Comparand.rank, Comparand.rank, toLex_inj,
      Sum.inl.injEq]
  · exact alike.elim
  · exact alike.elim
  · rw [Comparand.equal, beq_iff_eq, Comparand.rank, Comparand.rank, toLex_inj, Sum.inr.injEq]

theorem Number.Comparand.AreAlike.order_eq (alike : first.AreAlike second) :
    first.order second = compare first.rank second.rank :=
  order_eq_compare alike.less_iff alike.symm.less_iff

end Alike

/-! ## What operators say of an order -/

/-- The spellings of comparisons, each with the orders of two values of which it is true. -/
def spelledOrders : List (String × List Ordering) :=
  [("<", [.lt]), ("=", [.eq]), ("==", [.eq]), (">", [.gt]), ("<=", [.lt, .eq]), (">=", [.gt, .eq]),
    ("!=", [.lt, .gt]), ("<>", [.lt, .gt])]

def signSpelling : Ordering → String
  | .lt => "<"
  | .eq => "="
  | .gt => ">"

theorem mem_signs (order : Ordering) : order ∈ [Ordering.lt, .eq, .gt] := by
  cases order <;> decide

theorem signSpelling_mem (order : Ordering) : (signSpelling order, [order]) ∈ spelledOrders := by
  cases order <;> decide

def Sparql.Comparison.orders : Comparison → List Ordering
  | .equal => [.eq]
  | .unequal => [.lt, .gt]
  | .less => [.lt]
  | .atMost => [.lt, .eq]
  | .greater => [.gt]
  | .atLeast => [.gt, .eq]

theorem isSome_ofOperator?_iff (operator : String) :
    (Comparison.ofOperator? operator).isSome = true ↔ operator ∈ spelledOrders.map Prod.fst := by
  simp only [Comparison.ofOperator?, spelledOrders, List.map_cons, List.map_nil, List.mem_cons,
    List.not_mem_nil, or_false, Bool.or_eq_true, beq_iff_eq]
  grind

theorem exists_comparison {operator : String} {orders : List Ordering}
    (spelled : (operator, orders) ∈ spelledOrders) :
    ∃ comparison, Comparison.ofOperator? operator = some comparison ∧ comparison.orders = orders := by
  simp only [spelledOrders, List.mem_cons, Prod.mk.injEq, List.not_mem_nil, or_false] at spelled
  rcases spelled with h | h | h | h | h | h | h | h <;> obtain ⟨rfl, rfl⟩ := h <;>
    exact ⟨_, rfl, rfl⟩

/-- A comparison is true of two comparands of one kind as it is of their order. -/
theorem holds_eq_contains {first second : Comparand} (alike : first.AreAlike second)
    (comparison : Comparison) :
    comparison.holds first second = comparison.orders.contains (first.order second) := by
  have less := alike.less_iff
  have greater := alike.symm.less_iff
  have equal := alike.equal_iff
  rw [alike.order_eq]
  rcases lt_trichotomy first.rank second.rank with below | same | above
  · have isLess := less.2 below
    have notGreater := Bool.eq_false_iff.2 fun found => below.not_gt (greater.1 found)
    have notEqual := Bool.eq_false_iff.2 fun found => below.ne (equal.1 found)
    rw [compare_lt_iff_lt.2 below]
    cases comparison <;> simp [Comparison.holds, Comparison.orders, isLess, notGreater, notEqual]
  · have notLess := Bool.eq_false_iff.2 fun found => (less.1 found).ne same
    have notGreater := Bool.eq_false_iff.2 fun found => (greater.1 found).ne same.symm
    have isEqual := equal.2 same
    rw [compare_eq_iff_eq.2 same]
    cases comparison <;> simp [Comparison.holds, Comparison.orders, notLess, notGreater, isEqual]
  · have notLess := Bool.eq_false_iff.2 fun found => above.not_gt (less.1 found)
    have isGreater := greater.2 above
    have notEqual := Bool.eq_false_iff.2 fun found => above.ne (equal.1 found).symm
    rw [compare_gt_iff_gt.2 above]
    cases comparison <;> simp [Comparison.holds, Comparison.orders, notLess, isGreater, notEqual]

/-! ## Filters -/

/-- An operand has a value in a row: a literal its own, a variable the one that it is bound to. -/
inductive HasValue (row : Row) : Node → String → Prop where
  | literal (value : String) (language datatype : Option String) :
      HasValue row (.term (.literal value language datatype)) value
  | variable {name value : String} (bound : Row.value? row name = some value) :
      HasValue row (.term (.variable name)) value

theorem HasValue.operandValue_eq {row : Row} {node : Node} {value : String}
    (has : HasValue row node value) : Filter.operandValue row node = .ok value := by
  cases has with
  | literal value language datatype => rfl
  | «variable» bound => simp only [Filter.operandValue, bound]

theorem holds_binary_eq {row : Row} {left right : Node} {leftValue rightValue operator : String}
    {comparison : Comparison} {first second : Comparand} (isLeft : HasValue row left leftValue)
    (isRight : HasValue row right rightValue)
    (known : Comparison.ofOperator? operator = some comparison)
    (read : coercePair leftValue rightValue = .ok (first, second)) :
    Filter.holds row (.binary operator left right) = .ok (comparison.holds first second) := by
  rw [Filter.holds, known]
  simp only [isLeft.operandValue_eq, isRight.operandValue_eq, read, ok_bind, Evaluation.ofNumeral]
  rfl

theorem compareValues_of_coercePair {left right : String} {first second : Comparand}
    (read : coercePair left right = .ok (first, second)) :
    compareValues left right = .ok (first.order second) := by
  rw [compareValues, read]
  rfl

theorem compareValues_self {value : String} (readable : (coerce value).isOk = true) :
    compareValues value value = .ok .eq := by
  obtain ⟨first, second, alike, read, readBack⟩ := exists_coercePair readable readable
  obtain ⟨rfl, _⟩ := Prod.mk.inj (Except.ok.inj (read.symm.trans readBack))
  rw [compareValues_of_coercePair read, alike.order_eq, compare_eq_iff_eq.2 rfl]

/-- Two values that can be read have an order, which turns round with them.  Every operator, however
spelled, is true of them in a filter exactly if it is true of that order, and exactly one of less,
equal and greater is. -/
theorem filters_follow_order {left right : String} (leftReadable : (coerce left).isOk = true)
    (rightReadable : (coerce right).isOk = true) :
    (∀ operator, (Comparison.ofOperator? operator).isSome = true ↔
      operator ∈ spelledOrders.map Prod.fst) ∧
    ∃ order, compareValues left right = .ok order ∧ compareValues right left = .ok order.swap ∧
      compareValues left left = .ok .eq ∧
      ∀ (row : Row) (leftNode rightNode : Node), HasValue row leftNode left →
        HasValue row rightNode right →
        (∀ spelling ∈ spelledOrders,
          ∀ asked ∈ [Node.binary spelling.1 leftNode rightNode,
            .filter (.binary spelling.1 leftNode rightNode)],
          Filter.holds row (Filter.condition asked) = .ok (spelling.2.contains order)) ∧
        ∃! operator, operator ∈ ["<", "=", ">"] ∧
          Filter.holds row (.binary operator leftNode rightNode) = .ok true := by
  obtain ⟨first, second, alike, read, readBack⟩ := exists_coercePair leftReadable rightReadable
  have turned : second.order first = (first.order second).swap := by
    rw [alike.order_eq, alike.symm.order_eq]
    exact OrientedCmp.eq_swap
  refine ⟨isSome_ofOperator?_iff, first.order second, compareValues_of_coercePair read, ?_,
    compareValues_self leftReadable, fun row leftNode rightNode isLeft isRight => ?_⟩
  · rw [compareValues_of_coercePair readBack, turned]
  have asked : ∀ {operator : String} {orders : List Ordering},
      (operator, orders) ∈ spelledOrders →
      Filter.holds row (.binary operator leftNode rightNode) =
        .ok (orders.contains (first.order second)) := by
    intro operator orders spelled
    obtain ⟨comparison, known, rfl⟩ := exists_comparison spelled
    rw [holds_binary_eq isLeft isRight known read, holds_eq_contains alike]
  constructor
  · intro spelling spelled node inside
    rcases List.mem_pair.1 inside with rfl | rfl
    · exact asked spelled
    · exact asked spelled
  · have askedSign : ∀ sign, Filter.holds row (.binary (signSpelling sign) leftNode rightNode) =
        .ok ([sign].contains (first.order second)) :=
      fun sign => asked (signSpelling_mem sign)
    have spellings : ["<", "=", ">"] = [Ordering.lt, .eq, .gt].map signSpelling := rfl
    rw [spellings]
    refine ⟨signSpelling (first.order second), ⟨?_, ?_⟩, ?_⟩
    · exact List.mem_map_of_mem (mem_signs _)
    · rw [askedSign, List.contains_cons, beq_self_eq_true, Bool.true_or]
    · rintro operator ⟨inside, isTrue⟩
      obtain ⟨sign, _, rfl⟩ := List.mem_map.1 inside
      rw [askedSign, Except.ok.injEq, List.contains_iff_mem, List.mem_singleton] at isTrue
      rw [isTrue]

/-- Two numerals whose texts stand in the other order, two that overflow, zeros of either sign, an
integer beside the nearest floating-point number, which it does not equal, and a numeral against a
text. -/
def comparedTexts : List (String × String × Ordering) :=
  [("9", "10", .lt), ("1e400", "2e999", .eq), ("-1e400", "1e400", .lt), ("-0.0", "0", .eq),
    ("9007199254740993", "9007199254740992.0", .gt), ("10", "9x", .lt)]

theorem filters_follow_order_exactly :
    compare "10" "9" = .lt ∧ ∀ pair ∈ comparedTexts,
      let row : Row := .ofList [("x", some pair.1)]
      let bound : Node := .term (.variable "x")
      let literal : Node := .term (.literal pair.2.1 none none)
      (coerce pair.1).isOk = true ∧ (coerce pair.2.1).isOk = true ∧
        compareValues pair.1 pair.2.1 = .ok pair.2.2 ∧
        compareValues pair.2.1 pair.1 = .ok pair.2.2.swap ∧
        ∀ spelling ∈ spelledOrders, Filter.holds row (.binary spelling.1 bound literal) =
          .ok (spelling.2.contains pair.2.2) := by
  have readable : ∀ pair ∈ comparedTexts,
      (coerce pair.1).isOk = true ∧ (coerce pair.2.1).isOk = true ∧
        (compareValues pair.1 pair.2.1).toOption = some pair.2.2 := by
    decide +kernel
  refine ⟨by decide, ?_⟩
  intro pair inside row bound literal
  obtain ⟨leftReadable, rightReadable, known⟩ := readable pair inside
  obtain ⟨_, order, ordered, turned, _, filters⟩ := filters_follow_order leftReadable rightReadable
  rw [ordered] at known
  obtain rfl : order = pair.2.2 := Option.some.inj known
  have asked := (filters row bound literal (.variable rfl) (.literal _ _ _)).1
  exact ⟨leftReadable, rightReadable, ordered, turned, fun spelling spelled =>
    asked spelling spelled (.binary spelling.1 bound literal) List.mem_cons_self⟩

end FactQuery
