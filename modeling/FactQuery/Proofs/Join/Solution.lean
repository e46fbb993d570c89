import FactQuery.Evaluation.Join
import Mathlib.Data.List.Forall2

/-!
# Solutions of triple patterns

An assignment gives every variable a value.  It solves patterns by facts, one fact to a pattern, if
it makes each pattern read like its fact.  A row is a part of an assignment.  This file shows that
the join narrows rows exactly: a fact continues a row if and only if some assignment that continues
the row solves the pattern by the fact, and the new row then says no more than that.
-/

set_option autoImplicit false

namespace FactQuery

namespace Row

theorem value?_empty (name : String) : value? .empty name = none := rfl

theorem value?_bind (row : Row) (name value other : String) :
    value? (bind row name value) other = if other = name then some value else value? row other := by
  unfold value? bind
  rw [OrderedMap.find?_insert]
  split <;> rfl

end Row

abbrev Assignment : Type :=
  String → String

def ResolvedTerm.under (assignment : Assignment) : ResolvedTerm → String
  | .variable name => assignment name
  | .identifier value => value
  | .literal value _ _ => value

def ResolvedTerm.write (value : String) (row : Row) : ResolvedTerm → Row
  | .variable name => row.bind name value
  | _ => row

namespace Assignment

/-- The assignment gives the variables of a row the values that they have there. -/
def Continues (assignment : Assignment) (row : Row) : Prop :=
  ∀ name value, Row.value? row name = some value → assignment name = value

/-- The assignment makes a pattern read like a fact. -/
def Solves (assignment : Assignment) (pattern : ResolvedPattern) (fact : Fact) : Prop :=
  pattern.subject.under assignment = fact.subject ∧
    pattern.predicate.under assignment = fact.predicate ∧
      pattern.object.under assignment = fact.object

instance (assignment : Assignment) (pattern : ResolvedPattern) (fact : Fact) :
    Decidable (assignment.Solves pattern fact) :=
  inferInstanceAs (Decidable (_ ∧ _ ∧ _))

theorem continues_empty (assignment : Assignment) : assignment.Continues .empty := by
  intro name value bound
  rw [Row.value?_empty] at bound
  cases bound

def ofRow (row : Row) : Assignment := fun name =>
  (Row.value? row name).getD ""

theorem ofRow_continues (row : Row) : (ofRow row).Continues row := by
  intro name value bound
  rw [ofRow, bound, Option.getD_some]

/-- Binding a variable that had no other value asks for exactly one thing more. -/
theorem continues_bind {assignment : Assignment} {row : Row} {name value : String}
    (free : ∀ existing, Row.value? row name = some existing → existing = value) :
    assignment.Continues (row.bind name value) ↔
      assignment.Continues row ∧ assignment name = value := by
  constructor
  · intro continued
    have here : assignment name = value := by
      apply continued
      rw [Row.value?_bind, if_pos rfl]
    refine ⟨?_, here⟩
    intro other existing bound
    by_cases same : other = name
    · subst same
      rw [here, free existing bound]
    · apply continued
      rw [Row.value?_bind, if_neg same, bound]
  · rintro ⟨continued, here⟩ other existing bound
    rw [Row.value?_bind] at bound
    by_cases same : other = name
    · subst same
      rw [if_pos rfl] at bound
      rw [here]
      exact Option.some.inj bound
    · rw [if_neg same] at bound
      exact continued other existing bound

end Assignment

/-! ## One position -/

namespace ResolvedTerm

/-- What a row demands of a position is what every assignment that continues it has there. -/
theorem demand_of_continues {assignment : Assignment} {row : Row} (term : ResolvedTerm)
    (continued : assignment.Continues row) :
    (term.demand row).all (term.under assignment == ·) = true := by
  cases term with
  | «variable» name =>
      cases bound : Row.value? row name with
      | none => simp [demand, bound]
      | some value => simp [demand, bound, under, continued name value bound]
  | identifier value => simp [demand, under]
  | literal value datatype language => simp [demand, under]

theorem under_of_demand {term : ResolvedTerm} {row : Row} {value : String}
    (demanded : (term.demand row).all (value == ·) = true) (constant : term.isVariable = false)
    (assignment : Assignment) : term.under assignment = value := by
  cases term with
  | «variable» name => cases constant
  | identifier text =>
      have same : value = text := by simpa [demand] using demanded
      exact same.symm
  | literal text datatype language =>
      have same : value = text := by simpa [demand] using demanded
      exact same.symm

theorem bindTo_eq_write {term : ResolvedTerm} {row next : Row} {value : String}
    (bound : term.bindTo value row = some next) : next = term.write value row := by
  cases term with
  | «variable» name =>
      cases known : Row.value? row name with
      | none => simpa [bindTo, known, write, eq_comm] using bound
      | some existing =>
          by_cases same : existing = value
          · simpa [bindTo, known, same, write, eq_comm] using bound
          · simp [bindTo, known, same] at bound
  | identifier text => exact (Option.some.inj bound).symm
  | literal text datatype language => exact (Option.some.inj bound).symm

theorem continues_of_bindTo {term : ResolvedTerm} {row next : Row} {value : String}
    (bound : term.bindTo value row = some next)
    (constant : term.isVariable = false → ∀ assignment, term.under assignment = value)
    (assignment : Assignment) :
    assignment.Continues next ↔ assignment.Continues row ∧ term.under assignment = value := by
  cases term with
  | «variable» name =>
      have free : ∀ existing, Row.value? row name = some existing → existing = value := by
        intro existing known
        by_contra different
        simp [bindTo, known, different] at bound
      rw [bindTo_eq_write bound]
      exact Assignment.continues_bind free
  | identifier text =>
      have same : row = next := Option.some.inj bound
      simp [← same, constant rfl]
  | literal text datatype language =>
      have same : row = next := Option.some.inj bound
      simp [← same, constant rfl]

theorem exists_bindTo {term : ResolvedTerm} {row : Row} {assignment : Assignment} {value : String}
    (continued : assignment.Continues row) (solved : term.under assignment = value) :
    ∃ next, term.bindTo value row = some next ∧ assignment.Continues next := by
  cases term with
  | «variable» name =>
      have free : ∀ existing, Row.value? row name = some existing → existing = value :=
        fun existing known => (continued name existing known).symm.trans solved
      refine ⟨row.bind name value, ?_, (Assignment.continues_bind free).mpr ⟨continued, solved⟩⟩
      cases known : Row.value? row name with
      | none => simp only [bindTo, known]
      | some existing => simp only [bindTo, known, free existing known, if_true]
  | identifier text => exact ⟨row, rfl, continued⟩
  | literal text datatype language => exact ⟨row, rfl, continued⟩

end ResolvedTerm

/-! ## One pattern -/

namespace ResolvedPattern

def isCandidate (pattern : ResolvedPattern) (row : Row) (fact : Fact) : Bool :=
  (pattern.subject.demand row).all (fact.subject == ·) &&
    (pattern.predicate.demand row).all (fact.predicate == ·) &&
      (pattern.object.demand row).all (fact.object == ·)

def meet (pattern : ResolvedPattern) (row : Row) (fact : Fact) : Option Row :=
  if pattern.isCandidate row fact then pattern.extend row fact else none

def write (pattern : ResolvedPattern) (fact : Fact) (row : Row) : Row :=
  pattern.object.write fact.object
    (pattern.predicate.write fact.predicate (pattern.subject.write fact.subject row))

theorem continuations_eq_filterMap (pattern : ResolvedPattern) (facts : List Fact) (row : Row) :
    pattern.continuations facts row = facts.filterMap (pattern.meet row) := by
  unfold continuations candidates matchFacts
  rw [List.filterMap_filter]
  rfl

theorem continues_of_meet {pattern : ResolvedPattern} {row next : Row} {fact : Fact}
    (met : pattern.meet row fact = some next) :
    next = pattern.write fact row ∧ ∀ assignment : Assignment,
      (assignment.Continues next ↔
        assignment.Continues row ∧ assignment.Solves pattern fact) := by
  unfold meet at met
  split at met
  case isFalse => cases met
  case isTrue candidate =>
    simp only [isCandidate, Bool.and_eq_true] at candidate
    obtain ⟨⟨subjectMet, predicateMet⟩, objectMet⟩ := candidate
    obtain ⟨first, subjectBound, met⟩ := Option.bind_eq_some_iff.mp met
    obtain ⟨second, predicateBound, objectBound⟩ := Option.bind_eq_some_iff.mp met
    constructor
    · rw [ResolvedTerm.bindTo_eq_write objectBound, ResolvedTerm.bindTo_eq_write predicateBound,
        ResolvedTerm.bindTo_eq_write subjectBound]
      rfl
    · intro assignment
      rw [ResolvedTerm.continues_of_bindTo objectBound (ResolvedTerm.under_of_demand objectMet),
        ResolvedTerm.continues_of_bindTo predicateBound
          (ResolvedTerm.under_of_demand predicateMet),
        ResolvedTerm.continues_of_bindTo subjectBound (ResolvedTerm.under_of_demand subjectMet)]
      unfold Assignment.Solves
      tauto

/-- No solution is passed over. -/
theorem exists_meet {pattern : ResolvedPattern} {row : Row} {fact : Fact}
    {assignment : Assignment} (continued : assignment.Continues row)
    (solved : assignment.Solves pattern fact) : ∃ next, pattern.meet row fact = some next := by
  obtain ⟨subjectSolved, predicateSolved, objectSolved⟩ := solved
  have candidate : pattern.isCandidate row fact = true := by
    simp only [isCandidate, ← subjectSolved, ← predicateSolved, ← objectSolved,
      ResolvedTerm.demand_of_continues _ continued, Bool.and_self]
  obtain ⟨first, subjectBound, continued⟩ := ResolvedTerm.exists_bindTo continued subjectSolved
  obtain ⟨second, predicateBound, continued⟩ := ResolvedTerm.exists_bindTo continued predicateSolved
  obtain ⟨third, objectBound, _⟩ := ResolvedTerm.exists_bindTo continued objectSolved
  refine ⟨third, ?_⟩
  simp [meet, candidate, extend, subjectBound, predicateBound, objectBound]

end ResolvedPattern

/-! ## Several patterns -/

def writeAll (row : Row) : List ResolvedPattern → List Fact → Row
  | pattern :: patterns, fact :: facts => writeAll (pattern.write fact row) patterns facts
  | _, _ => row

/-- The row that patterns spell off a tuple of facts. -/
def rowOf (patterns : List ResolvedPattern) (tuple : List Fact) : Row :=
  writeAll .empty patterns tuple

def meetAll (row : Row) : List ResolvedPattern → List Fact → Option Row
  | [], [] => some row
  | pattern :: patterns, fact :: facts =>
    (pattern.meet row fact).bind fun next => meetAll next patterns facts
  | _, _ => none

/-- Some assignment makes every pattern read like its fact. -/
def Solvable (patterns : List ResolvedPattern) (tuple : List Fact) : Prop :=
  ∃ assignment : Assignment, List.Forall₂ assignment.Solves patterns tuple

theorem continues_of_meetAll {patterns : List ResolvedPattern} {tuple : List Fact} {row next : Row}
    (met : meetAll row patterns tuple = some next) :
    next = writeAll row patterns tuple ∧ ∀ assignment : Assignment,
      (assignment.Continues next ↔
        assignment.Continues row ∧ List.Forall₂ assignment.Solves patterns tuple) := by
  induction patterns generalizing row tuple with
  | nil =>
      cases tuple with
      | nil =>
          cases Option.some.inj met
          exact ⟨rfl, fun assignment => by simp⟩
      | cons fact facts => cases met
  | cons pattern patterns inductionHypothesis =>
      cases tuple with
      | nil => cases met
      | cons fact facts =>
          obtain ⟨middle, first, others⟩ := Option.bind_eq_some_iff.mp met
          obtain ⟨middleExact, middleContinues⟩ := ResolvedPattern.continues_of_meet first
          obtain ⟨nextExact, nextContinues⟩ := inductionHypothesis others
          subst middleExact
          refine ⟨nextExact, ?_⟩
          intro assignment
          rw [nextContinues, middleContinues, List.forall₂_cons, and_assoc]

theorem exists_meetAll {patterns : List ResolvedPattern} {tuple : List Fact} {row : Row}
    {assignment : Assignment} (continued : assignment.Continues row)
    (solved : List.Forall₂ assignment.Solves patterns tuple) :
    ∃ next, meetAll row patterns tuple = some next := by
  induction solved generalizing row with
  | nil => exact ⟨row, rfl⟩
  | @cons pattern fact patterns facts first others inductionHypothesis =>
      obtain ⟨middle, met⟩ := ResolvedPattern.exists_meet continued first
      have middleContinued : assignment.Continues middle :=
        ((ResolvedPattern.continues_of_meet met).2 assignment).mpr ⟨continued, first⟩
      obtain ⟨next, rest⟩ := inductionHypothesis middleContinued
      exact ⟨next, by simp only [meetAll, met, Option.bind_some, rest]⟩

/-- From the empty row a tuple leads to the row that it spells, or nowhere. -/
theorem meetAll_eq_some_iff {patterns : List ResolvedPattern} {tuple : List Fact} {row : Row} :
    meetAll .empty patterns tuple = some row ↔
      Solvable patterns tuple ∧ row = rowOf patterns tuple := by
  constructor
  · intro met
    obtain ⟨rowExact, rowContinues⟩ := continues_of_meetAll met
    have solved := (rowContinues (.ofRow row)).mp (Assignment.ofRow_continues row)
    exact ⟨⟨.ofRow row, solved.2⟩, rowExact⟩
  · rintro ⟨⟨assignment, solved⟩, rowExact⟩
    obtain ⟨next, met⟩ := exists_meetAll (Assignment.continues_empty assignment) solved
    rw [met, rowExact, (continues_of_meetAll met).1]
    rfl

/-- A tuple can be solved exactly if the row that it spells solves it. -/
theorem solvable_iff {patterns : List ResolvedPattern} {tuple : List Fact} :
    List.Forall₂ (Assignment.ofRow (rowOf patterns tuple)).Solves patterns tuple ↔
      Solvable patterns tuple := by
  constructor
  · intro solved
    exact ⟨_, solved⟩
  · intro solvable
    have met := meetAll_eq_some_iff.mpr ⟨solvable, rfl⟩
    exact (((continues_of_meetAll met).2 _).mp (Assignment.ofRow_continues _)).2

instance (patterns : List ResolvedPattern) (tuple : List Fact) :
    Decidable (Solvable patterns tuple) :=
  decidable_of_iff _ solvable_iff

theorem meetAll_empty (patterns : List ResolvedPattern) (tuple : List Fact) :
    meetAll .empty patterns tuple =
      if Solvable patterns tuple then some (rowOf patterns tuple) else none := by
  split
  case isTrue solvable => exact meetAll_eq_some_iff.mpr ⟨solvable, rfl⟩
  case isFalse unsolvable =>
    rw [Option.eq_none_iff_forall_ne_some]
    exact fun row met => unsolvable (meetAll_eq_some_iff.mp met).1

theorem value?_rowOf {patterns : List ResolvedPattern} {tuple : List Fact}
    {assignment : Assignment} (solved : List.Forall₂ assignment.Solves patterns tuple)
    {name value : String} (bound : Row.value? (rowOf patterns tuple) name = some value) :
    assignment name = value := by
  have met := meetAll_eq_some_iff.mpr ⟨⟨assignment, solved⟩, rfl⟩
  exact ((continues_of_meetAll met).2 assignment).mpr
    ⟨Assignment.continues_empty assignment, solved⟩ name value bound

end FactQuery
