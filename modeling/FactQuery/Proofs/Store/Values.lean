import FactQuery.Proofs.Evaluation.Domain
import FactQuery.Store
import Mathlib.Data.List.Induction

/-!
# The values of a predicate

The store lists the distinct objects of a predicate in the order in which they first come.  The
query for the distinct objects of that predicate has the same list as its one column: the join
makes a row of every fact of the predicate, and rows that show the same object are the same row.
-/

set_option autoImplicit false

namespace FactQuery

open FactQuery.Sparql

/-! ## First occurrences -/

/-- Every item once, in the order in which the items first come. -/
structure AreFirsts (items firsts : List String) : Prop where
  mem_iff : ∀ item, item ∈ firsts ↔ item ∈ items
  ordered : firsts.Pairwise fun one other => items.idxOf one < items.idxOf other

/-- The next item is the last of the first occurrences, unless it came before. -/
theorem areFirsts_eraseDups (items : List String) : AreFirsts items items.eraseDups := by
  refine ⟨fun item => List.mem_eraseDups, ?_⟩
  induction items using List.reverseRecOn with
  | nil => exact List.Pairwise.nil
  | append_singleton seen next inductionHypothesis =>
      have unchanged : ∀ item ∈ seen.eraseDups, (seen ++ [next]).idxOf item = seen.idxOf item := by
        intro item inside
        exact List.idxOf_append_of_mem (List.mem_eraseDups.1 inside)
      have kept : seen.eraseDups.Pairwise fun one other =>
          (seen ++ [next]).idxOf one < (seen ++ [next]).idxOf other := by
        refine inductionHypothesis.imp_of_mem ?_
        intro one other oneInside otherInside before
        rw [unchanged one oneInside, unchanged other otherInside]
        exact before
      rw [eraseDups_append_singleton]
      by_cases known : next ∈ seen
      · rw [if_pos known]
        exact kept
      · rw [if_neg known, List.pairwise_append]
        refine ⟨kept, List.pairwise_singleton _ _, ?_⟩
        intro one oneInside other isNext
        rw [List.mem_singleton] at isNext
        subst isNext
        have early := List.idxOf_lt_length_of_mem (List.mem_eraseDups.1 oneInside)
        rw [unchanged one oneInside, List.idxOf_append_of_notMem known]
        omega

/-- What is shown of different items is different, so the same items are repetitions. -/
theorem eraseDups_map {α β : Type} [BEq α] [LawfulBEq α] [BEq β] [LawfulBEq β] {display : α → β}
    (injective : Function.Injective display) (items : List α) :
    (items.map display).eraseDups = items.eraseDups.map display := by
  induction items using eraseDups_induction with
  | nil => rfl
  | cons item others inductionHypothesis =>
      have same : ∀ other, (!display other == display item) = !other == item := by
        intro other
        by_cases repeated : other = item
        · simp [repeated]
        · have different : display other ≠ display item := fun same => repeated (injective same)
          rw [beq_false_of_ne repeated, beq_false_of_ne different]
      rw [List.map_cons, List.eraseDups_cons, List.eraseDups_cons, List.map_cons,
        ← inductionHypothesis, List.filter_map]
      simp only [Function.comp_def, same]

/-! ## The query for the values -/

/-- The distinct objects of a predicate: `SELECT DISTINCT ?o` over the pattern `?s <p> ?o`. -/
def valuesQuery (prefixes : PrefixTable) (predicate : String) : Query :=
  ⟨prefixes, .select {
    variableNames := ["o"]
    group := [.triples [⟨.term (.variable "s"), .term (.iri (.full predicate)),
      .term (.variable "o")⟩]]
    distinct := true }⟩

def QueryResult.column (result : QueryResult) (name : String) : List (Option String) :=
  result.rows.map fun row => Row.value? row name

def objectRow (object : String) : Row :=
  .ofList [("o", some object)]

theorem value?_objectRow (object : String) : Row.value? (objectRow object) "o" = some object := rfl

theorem objectRow_injective : Function.Injective objectRow := by
  intro one other same
  have shown := congrArg (Row.value? · "o") same
  simp only [value?_objectRow] at shown
  exact Option.some.inj shown

theorem continuations_of_predicate (facts : List Fact) (predicate : String) :
    ResolvedPattern.continuations ⟨.variable "s", .identifier predicate, .variable "o"⟩ facts
        .empty =
      (matchFacts facts none (some predicate) none).map fun fact =>
        (Row.bind .empty "s" fact.subject).bind "o" fact.object := by
  have continued : ∀ fact, ResolvedPattern.extend
      ⟨.variable "s", .identifier predicate, .variable "o"⟩ .empty fact =
        some ((Row.bind .empty "s" fact.subject).bind "o" fact.object) := by
    intro fact
    simp [ResolvedPattern.extend, ResolvedTerm.bindTo, Row.value?_empty, Row.value?_bind]
  rw [ResolvedPattern.continuations, List.filterMap_congr fun fact _ => continued fact]
  exact congrFun List.filterMap_eq_map _

/-- The query has a row for each of the distinct objects. -/
theorem execute_valuesQuery (facts : List Fact) (prefixes : PrefixTable) (predicate : String) :
    ∃ result, execute facts (valuesQuery prefixes predicate) = .ok result ∧
      result.rows = (Store.valuesIn facts predicate).map objectRow := by
  let pattern : TriplePattern :=
    ⟨.term (.variable "s"), .term (.iri (.full predicate)), .term (.variable "o")⟩
  let select : Select :=
    { variableNames := ["o"], group := [.triples [pattern]], distinct := true }
  have resolves : ResolvedPattern.ofPattern prefixes pattern =
      .ok ⟨.variable "s", .identifier predicate, .variable "o"⟩ := rfl
  have joins : ∃ joined, joinPatterns facts prefixes [pattern] = .ok joined ∧
      joined.rows = _ := joinPatterns_single resolves
  obtain ⟨joined, run, rows⟩ := joins
  have planned : planOf select.group = .ok ([pattern], []) := rfl
  obtain ⟨result, success, thinned⟩ := @exists_run facts prefixes select _ _ _ _ planned run
    (apply_nil joined.rows) (sort_nil _)
  refine ⟨result, success, ?_⟩
  have objects : joined.rows.map (Row.project select.shown) =
      ((matchFacts facts none (some predicate) none).map Fact.object).map objectRow := by
    rw [rows, continuations_of_predicate, List.map_map, List.map_map]
    rfl
  have paged : ∀ found : List Row, select.page found = found := by
    intro found
    simp [Select.page, select, dropRows]
  rw [thinned, objects, Select.thinOut, paged, if_pos rfl, eraseDups_map objectRow_injective,
    Store.valuesIn_eq_matchFacts]

/-! ## Both lookups -/

/-- Whatever has been added to a store and loaded into it, its distinct values of a predicate are
the column of the query for them, and both are the first occurrences of the objects of the facts
that match the predicate. -/
theorem values_eq_column (store : Store) (prefixes : PrefixTable) (predicate : String) :
    ∃ values found result, (store.look (.valuesOf predicate)).1 = .values values ∧
      (store.look (.facts none (some predicate) none)).1 = .facts found ∧
      execute store.contents (valuesQuery prefixes predicate) = .ok result ∧
      result.variableNames = ["o"] ∧ result.column "o" = values.map some ∧
      AreFirsts (found.map Fact.object) values := by
  have settled : store.flush.settled = store.contents := by
    simp [Store.flush, Store.contents]
  obtain ⟨result, success, rows⟩ := execute_valuesQuery store.contents prefixes predicate
  refine ⟨_, _, result, rfl, rfl, success, variableNames_of_execute success, ?_, ?_⟩
  · rw [settled, QueryResult.column, rows, List.map_map]
    rfl
  · rw [Store.valuesIn_eq_matchFacts]
    exact areFirsts_eraseDups _

end FactQuery
