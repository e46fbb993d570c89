import FactQuery.Proofs.Filter.Conjunction

/-!
# What a fault belongs to

A run that fails stops at the first part of the query that it cannot take: an entry of the group, a
position of a pattern or a condition of a filter.  Each part has a fault of its own, whatever the
facts are, apart from the values that a row gives to the operands of a condition.
-/

set_option autoImplicit false

namespace FactQuery

open FactQuery.Sparql FactQuery.Number

/-- The items in front of the first that fails are fine. -/
inductive FirstFault {α : Type} (fine : α → Prop) (fails : α → Fault → Prop) :
    List α → Fault → Prop where
  | here {item : α} {others : List α} {fault : Fault} (failsHere : fails item fault) :
      FirstFault fine fails (item :: others) fault
  | later {item : α} {others : List α} {fault : Fault} (fineHere : fine item)
      (behind : FirstFault fine fails others fault) : FirstFault fine fails (item :: others) fault

section FirstFault

variable {α : Type} {fine : α → Prop} {fails : α → Fault → Prop} {fault : Fault}

theorem FirstFault.exists_mem {items : List α} (first : FirstFault fine fails items fault) :
    ∃ item ∈ items, fails item fault := by
  induction first with
  | here failsHere => exact ⟨_, List.mem_cons_self, failsHere⟩
  | later _ _ inductionHypothesis =>
      obtain ⟨item, inside, failsLater⟩ := inductionHypothesis
      exact ⟨item, List.mem_cons_of_mem _ inside, failsLater⟩

theorem firstFault_nil : ¬FirstFault fine fails [] fault :=
  nofun

theorem firstFault_cons_iff {item : α} {others : List α} :
    FirstFault fine fails (item :: others) fault ↔
      fails item fault ∨ fine item ∧ FirstFault fine fails others fault := by
  constructor
  · rintro (failsHere | ⟨fineHere, behind⟩)
    · exact Or.inl failsHere
    · exact Or.inr ⟨fineHere, behind⟩
  · rintro (failsHere | ⟨fineHere, behind⟩)
    · exact .here failsHere
    · exact .later fineHere behind

end FirstFault

/-! ## Parts of a query -/

namespace Sparql.Node

def isMatchable : Node → Bool
  | .term (.variable _) => true
  | .term (.iri _) => true
  | .term (.literal _ _ _) => true
  | _ => false

def isComparand : Node → Bool
  | .term (.variable _) => true
  | .term (.literal _ _ _) => true
  | _ => false

def isComparison : Node → Bool
  | .binary operator left right =>
    (Comparison.ofOperator? operator).isSome && left.isComparand && right.isComparand
  | _ => false

/-- An entry that is neither a pattern nor a filter is told by its kind. -/
def FailsAsEntry (entry : Node) (fault : Fault) : Prop :=
  entry.isConjunct = false ∧ fault = .query (.unsupportedPattern entry.kind)

def termFault : Node → Fault
  | .term (.colonless name) => .colonless name
  | other => .query (.malformedTerm other.outline)

/-- What cannot be matched is told by its outline. -/
def FailsAsTerm (node : Node) (fault : Fault) : Prop :=
  node.isMatchable = false ∧ fault = node.termFault

/-- What has no value is told as it is written. -/
def operandFault (node : Node) : Fault :=
  if node.isWritable then .query (.unsupportedOperand node.text) else .unwritable

end Sparql.Node

def Sparql.Triple.isMatchable (pattern : TriplePattern) : Bool :=
  pattern.positions.all Node.isMatchable

namespace Filter

inductive OperandFails (row : Row) : Node → Fault → Prop where
  | unbound {name : String} (free : Row.value? row name = none) :
      OperandFails row (.term (.variable name)) (.query (.unboundVariable name))
  | unsupported {node : Node} (noComparand : node.isComparand = false) :
      OperandFails row node node.operandFault

/-- A condition that is no comparison, or a comparison with a side that fails. -/
inductive ConditionFails (row : Row) : Node → Fault → Prop where
  | expression {condition : Node}
      (noOperation : ∀ operator left right, condition ≠ .binary operator left right) :
      ConditionFails row condition (.query (.unsupportedExpression condition.kind))
  | operator {operator : String} {left right : Node}
      (unknown : Comparison.ofOperator? operator = none) :
      ConditionFails row (.binary operator left right) (.query (.unsupportedOperator operator))
  | left {operator : String} {left right : Node} {fault : Fault}
      (known : (Comparison.ofOperator? operator).isSome = true)
      (fails : OperandFails row left fault) :
      ConditionFails row (.binary operator left right) fault
  | right {operator : String} {left right : Node} {first : String} {fault : Fault}
      (known : (Comparison.ofOperator? operator).isSome = true)
      (value : operandValue row left = .ok first) (fails : OperandFails row right fault) :
      ConditionFails row (.binary operator left right) fault
  | numeral {operator : String} {left right : Node} {first second : String}
      {error : UnreadableNumeral} (known : (Comparison.ofOperator? operator).isSome = true)
      (value : operandValue row left = .ok first) (other : operandValue row right = .ok second)
      (unreadable : coercePair first second = .error error) :
      ConditionFails row (.binary operator left right) (.numeral error)

end Filter

/-! ## Entries and patterns -/

theorem planOf_eq_error_iff {group : Group} {error : QueryError} :
    planOf group = .error error ↔
      FirstFault (fun entry => Node.isConjunct entry = true) Node.FailsAsEntry group
        (.query error) := by
  induction group with
  | nil => exact ⟨nofun, nofun⟩
  | cons entry others inductionHypothesis =>
      rw [firstFault_cons_iff, ← inductionHypothesis]
      cases entry with
      | triples patterns =>
          simp [planOf, bind_eq_error_iff, Node.FailsAsEntry, Node.isConjunct, pure, Except.pure]
      | filter condition =>
          simp [planOf, bind_eq_error_iff, Node.FailsAsEntry, Node.isConjunct, pure, Except.pure]
      | _ => simp [planOf, Node.FailsAsEntry, Node.isConjunct, eq_comm]

theorem ResolvedTerm.ofNode_eq_error_iff {prefixes : PrefixTable} {node : Node} {fault : Fault} :
    ofNode prefixes node = .error fault ↔ node.FailsAsTerm fault := by
  cases node with
  | term value =>
      cases value <;>
        simp [ofNode, Node.FailsAsTerm, Node.isMatchable, Node.termFault, eq_comm]
  | _ => simp [ofNode, Node.FailsAsTerm, Node.isMatchable, Node.termFault, eq_comm]

theorem ResolvedTerm.exists_ofNode_iff (prefixes : PrefixTable) {node : Node} :
    (∃ resolved, ofNode prefixes node = .ok resolved) ↔ node.isMatchable = true := by
  cases node with
  | term value => cases value <;> simp [ofNode, Node.isMatchable]
  | _ => simp [ofNode, Node.isMatchable]

theorem ResolvedPattern.ofPattern_eq_error_iff {prefixes : PrefixTable} {pattern : TriplePattern}
    {fault : Fault} :
    ofPattern prefixes pattern = .error fault ↔
      FirstFault (fun node => Node.isMatchable node = true) Node.FailsAsTerm pattern.positions
        fault := by
  simp only [Triple.positions, firstFault_cons_iff, firstFault_nil, and_false, or_false,
    ← ResolvedTerm.exists_ofNode_iff prefixes, ← @ResolvedTerm.ofNode_eq_error_iff prefixes]
  simp [ofPattern, bind_eq_error_iff, pure, Except.pure]

theorem ResolvedPattern.exists_ofPattern_iff (prefixes : PrefixTable)
    {pattern : TriplePattern} :
    (∃ resolved, ofPattern prefixes pattern = .ok resolved) ↔
      pattern.isMatchable = true := by
  have split : pattern.isMatchable = true ↔ pattern.subject.isMatchable = true ∧
      pattern.predicate.isMatchable = true ∧ pattern.object.isMatchable = true := by
    simp [Triple.isMatchable, Triple.positions]
  simp only [split, ← ResolvedTerm.exists_ofNode_iff prefixes]
  constructor
  · rintro ⟨resolved, run⟩
    obtain ⟨subject, isSubject, run⟩ := bind_eq_ok_iff.mp run
    obtain ⟨predicate, isPredicate, run⟩ := bind_eq_ok_iff.mp run
    obtain ⟨object, isObject, -⟩ := bind_eq_ok_iff.mp run
    exact ⟨⟨subject, isSubject⟩, ⟨predicate, isPredicate⟩, ⟨object, isObject⟩⟩
  · rintro ⟨⟨subject, isSubject⟩, ⟨predicate, isPredicate⟩, ⟨object, isObject⟩⟩
    exact ⟨⟨subject, predicate, object⟩,
      by simp only [ofPattern, isSubject, isPredicate, isObject, ok_bind]; rfl⟩

theorem joinFrom_eq_error {facts : List Fact} {prefixes : PrefixTable} {stage : Joined}
    {patterns : List TriplePattern} {fault : Fault}
    (fails : joinFrom facts prefixes stage patterns = .error fault) :
    ∃ pattern ∈ patterns, ∃ node ∈ pattern.positions, Node.FailsAsTerm node fault := by
  induction patterns generalizing stage with
  | nil => cases fails
  | cons pattern others inductionHypothesis =>
      unfold joinFrom at fails
      split at fails
      · cases fails
      · rcases bind_eq_error_iff.1 fails with here | ⟨resolved, -, later⟩
        · exact ⟨pattern, List.mem_cons_self,
            (ResolvedPattern.ofPattern_eq_error_iff.1 here).exists_mem⟩
        · obtain ⟨other, inside, failing⟩ := inductionHypothesis later
          exact ⟨other, List.mem_cons_of_mem pattern inside, failing⟩

/-! ## Conditions -/

namespace Filter

variable {row : Row} {fault : Fault}

theorem operandValue_eq_error_iff {node : Node} :
    operandValue row node = .error fault ↔ OperandFails row node fault := by
  have unsupported : node.isComparand = false →
      (operandValue row node = .error fault ↔ OperandFails row node fault) := by
    intro noComparand
    have told : operandValue row node = .error node.operandFault := by
      cases node with
      | term value => cases value <;> first | rfl | cases noComparand
      | _ => rfl
    rw [told, Except.error.injEq]
    constructor
    · rintro rfl
      exact .unsupported noComparand
    · rintro (_ | _)
      · cases noComparand
      · rfl
  cases node with
  | term value =>
      cases value with
      | «variable» name =>
          cases found : Row.value? row name with
          | some value =>
              have known : operandValue row (.term (.variable name)) = .ok value := by
                simp only [operandValue, found]
              rw [known]
              refine ⟨nofun, ?_⟩
              rintro (free | noComparand)
              · rw [found] at free
                cases free
              · cases noComparand
          | none =>
              have missing : operandValue row (.term (.variable name)) =
                  .error (.query (.unboundVariable name)) := by
                simp only [operandValue, found]
              rw [missing, Except.error.injEq]
              constructor
              · rintro rfl
                exact .unbound found
              · rintro (_ | noComparand)
                · rfl
                · cases noComparand
      | literal text language datatype =>
          refine ⟨nofun, ?_⟩
          rintro (_ | noComparand)
          cases noComparand
      | _ => exact unsupported rfl
  | _ => exact unsupported rfl

theorem holds_eq_error_iff {condition : Node} :
    holds row condition = .error fault ↔ ConditionFails row condition fault := by
  constructor
  · intro fails
    cases condition with
    | binary operator left right =>
        cases comparison : Comparison.ofOperator? operator with
        | none =>
            simp only [holds, comparison] at fails
            cases fails
            exact .operator comparison
        | some sign =>
            have known : (Comparison.ofOperator? operator).isSome = true := by rw [comparison]; rfl
            simp only [holds, comparison] at fails
            rcases bind_eq_error_iff.1 fails with here | ⟨first, value, fails⟩
            · exact .left known (operandValue_eq_error_iff.1 here)
            rcases bind_eq_error_iff.1 fails with here | ⟨second, other, fails⟩
            · exact .right known value (operandValue_eq_error_iff.1 here)
            cases compared : coercePair first second with
            | ok pair =>
                rw [compared] at fails
                cases fails
            | error error =>
                rw [compared] at fails
                cases fails
                exact .numeral known value other compared
    | _ =>
        cases fails
        exact .expression nofun
  · intro fails
    cases fails with
    | expression noOperation =>
        cases condition with
        | binary operator left right => exact absurd rfl (noOperation operator left right)
        | _ => rfl
    | operator unknown => simp only [holds, unknown]
    | left known fails =>
        obtain ⟨comparison, known⟩ := Option.isSome_iff_exists.1 known
        simp only [holds, known, operandValue_eq_error_iff.2 fails, error_bind]
    | right known value fails =>
        obtain ⟨comparison, known⟩ := Option.isSome_iff_exists.1 known
        simp only [holds, known, value, operandValue_eq_error_iff.2 fails, ok_bind, error_bind]
    | numeral known value other unreadable =>
        obtain ⟨comparison, known⟩ := Option.isSome_iff_exists.1 known
        simp only [holds, known, value, other, unreadable, Evaluation.ofNumeral, ok_bind,
          error_bind]

theorem allHold_eq_error_iff {conditions : List Node} :
    allHold row conditions = .error fault ↔
      FirstFault (fun condition => holds row condition = .ok true) (ConditionFails row) conditions
        fault := by
  induction conditions with
  | nil =>
      constructor <;>
        · intro fails
          cases fails
  | cons condition others inductionHypothesis =>
      rw [firstFault_cons_iff, ← inductionHypothesis, ← holds_eq_error_iff, allHold,
        bind_eq_error_iff]
      refine or_congr Iff.rfl ⟨?_, ?_⟩
      · rintro ⟨verdict, decided, later⟩
        cases verdict with
        | true => exact ⟨decided, later⟩
        | false => cases later
      · rintro ⟨decided, later⟩
        exact ⟨true, decided, later⟩

theorem exists_of_apply {conditions : List Node} {rows : List Row}
    (fails : apply conditions rows = .error fault) :
    ∃ row ∈ rows, ∃ condition ∈ conditions, ConditionFails row condition fault := by
  induction rows with
  | nil => cases fails
  | cons row others inductionHypothesis =>
      rcases bind_eq_error_iff.1 fails with here | ⟨kept, -, fails⟩
      · exact ⟨row, List.mem_cons_self, (allHold_eq_error_iff.1 here).exists_mem⟩
      rcases bind_eq_error_iff.1 fails with later | ⟨rest, -, fails⟩
      · obtain ⟨other, inside, failing⟩ := inductionHypothesis later
        exact ⟨other, List.mem_cons_of_mem row inside, failing⟩
      · cases fails

end Filter

end FactQuery
