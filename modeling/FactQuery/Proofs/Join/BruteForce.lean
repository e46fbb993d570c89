import FactQuery.Evaluation.Select
import FactQuery.Proofs.Join.Solution

/-!
# The join is a brute-force search

Brute force goes through the tuples of places in the facts, one place to a pattern, in
lexicographic order.  It keeps a tuple if one assignment makes every pattern read like its fact and
every filter is true of it, and shows the requested variables.  A query without modifiers gives
exactly these rows: what the join narrows, binds early or leaves early is never visible.
-/

set_option autoImplicit false

namespace FactQuery

open FactQuery.Sparql

/-! ## Tuples of places -/

/-- The tuples of places below a bound, in lexicographic order. -/
def placeTuples (bound : Nat) : Nat → List (List (Fin bound))
  | 0 => [[]]
  | count + 1 =>
    (List.finRange bound).flatMap fun first => (placeTuples bound count).map (first :: ·)

theorem mem_placeTuples {bound count : Nat} {places : List (Fin bound)} :
    places ∈ placeTuples bound count ↔ places.length = count := by
  induction count generalizing places with
  | zero => simp [placeTuples]
  | succ count inductionHypothesis =>
      cases places with
      | nil => simp [placeTuples]
      | cons first others => simp [placeTuples, inductionHypothesis]

theorem placeTuples_sorted (bound count : Nat) : (placeTuples bound count).Pairwise (· < ·) := by
  induction count with
  | zero => simp [placeTuples]
  | succ count inductionHypothesis =>
      rw [placeTuples, List.pairwise_flatMap]
      constructor
      · intro first _
        rw [List.pairwise_map]
        exact inductionHypothesis.imp fun smaller => List.cons_lt_cons_self.mpr smaller
      · have increasing : (List.finRange bound).Pairwise (· < ·) := List.pairwise_lt_finRange bound
        refine increasing.imp ?_
        intro first second smaller left leftMember right rightMember
        obtain ⟨leftOthers, -, rfl⟩ := List.mem_map.mp leftMember
        obtain ⟨rightOthers, -, rfl⟩ := List.mem_map.mp rightMember
        exact List.Lex.rel smaller

def factsAt (facts : List Fact) (places : List (Fin facts.length)) : List Fact :=
  places.map facts.get

/-! ## The search -/

def conditionsOf (group : Group) : List Node :=
  group.filterMap fun
    | .filter condition => some condition
    | _ => none

def AllTrue (conditions : List Node) (row : Row) : Prop :=
  ∀ condition ∈ conditions, Filter.holds row condition = .ok true

/-- The patterns and the conditions all agree with a tuple of facts. -/
def IsAnswer (patterns : List ResolvedPattern) (conditions : List Node) (tuple : List Fact) : Prop :=
  Solvable patterns tuple ∧ AllTrue conditions (rowOf patterns tuple)

instance (conditions : List Node) (row : Row) : Decidable (AllTrue conditions row) :=
  inferInstanceAs (Decidable (∀ condition ∈ conditions, _ = _))

instance (patterns : List ResolvedPattern) (conditions : List Node) (tuple : List Fact) :
    Decidable (IsAnswer patterns conditions tuple) :=
  inferInstanceAs (Decidable (_ ∧ _))

def bruteForce (facts : List Fact) (patterns : List ResolvedPattern) (conditions : List Node)
    (shown : List String) : List Row :=
  let kept := (placeTuples facts.length patterns.length).filter fun places =>
    IsAnswer patterns conditions (factsAt facts places)
  kept.map fun places => Row.project shown (rowOf patterns (factsAt facts places))

/-! ## The join -/

/-- One more pattern ranges over one more place. -/
theorem flatMap_meet (facts : List Fact) (pattern : ResolvedPattern)
    (patterns : List ResolvedPattern) (row : Row) :
    ((pattern.continuations facts row).flatMap fun next =>
        (placeTuples facts.length patterns.length).filterMap fun places =>
          meetAll next patterns (factsAt facts places)) =
      (placeTuples facts.length (pattern :: patterns).length).filterMap fun places =>
        meetAll row (pattern :: patterns) (factsAt facts places) := by
  have enumerated : pattern.continuations facts row =
      (List.finRange facts.length).filterMap fun place => pattern.meet row (facts.get place) := by
    rw [pattern.continuations_eq_filterMap]
    conv_lhs => rw [← List.map_get_finRange facts]
    rw [List.filterMap_map]
    rfl
  rw [enumerated, List.length_cons, placeTuples, List.filterMap_flatMap]
  generalize List.finRange facts.length = candidates
  induction candidates with
  | nil => rfl
  | cons place others inductionHypothesis =>
      have headed : ∀ places, meetAll row (pattern :: patterns) (factsAt facts (place :: places)) =
          (pattern.meet row (facts.get place)).bind fun next =>
            meetAll next patterns (factsAt facts places) := fun _ => rfl
      rw [List.flatMap_cons, ← inductionHypothesis, List.filterMap_map, List.filterMap_cons]
      simp only [Function.comp_def, headed]
      cases pattern.meet row (facts.get place) with
      | none => simp
      | some next => simp only [Option.bind_some, List.flatMap_cons]

/-- Every row of a stage is continued by the tuples that lead on from it. -/
theorem joinFrom_rows (facts : List Fact) (prefixes : PrefixTable) (stage : Joined)
    {patterns : List TriplePattern} {resolved : List ResolvedPattern}
    (wellFormed : patterns.mapM (ResolvedPattern.ofPattern prefixes) = .ok resolved) :
    ∃ joined, joinFrom facts prefixes stage patterns = .ok joined ∧
      joined.rows = stage.rows.flatMap fun row =>
        (placeTuples facts.length resolved.length).filterMap fun places =>
          meetAll row resolved (factsAt facts places) := by
  induction patterns generalizing stage resolved with
  | nil =>
      cases Except.ok.inj wellFormed
      refine ⟨stage, rfl, ?_⟩
      simp [placeTuples, factsAt, meetAll]
  | cons pattern patterns inductionHypothesis =>
      rw [List.mapM_cons] at wellFormed
      obtain ⟨head, first, wellFormed⟩ := bind_eq_ok_iff.mp wellFormed
      obtain ⟨tail, others, split⟩ := bind_eq_ok_iff.mp wellFormed
      cases Except.ok.inj split
      unfold joinFrom
      cases rows : stage.rows with
      -- The join stops where no row is left, and nothing leads on from no row.
      | nil => exact ⟨stage, rfl, by simp [rows]⟩
      | cons row more =>
          obtain ⟨joined, run, found⟩ := inductionHypothesis (stage.step facts head) others
          refine ⟨joined, ?_, ?_⟩
          · simpa [first] using run
          · rw [found, ← rows]
            simp only [Joined.step, List.flatMap_assoc, flatMap_meet]

/-- The join finds the rows of the tuples that can be solved, in the order of the tuples. -/
theorem joinPatterns_rows (facts : List Fact) (prefixes : PrefixTable)
    {patterns : List TriplePattern} {resolved : List ResolvedPattern}
    (wellFormed : patterns.mapM (ResolvedPattern.ofPattern prefixes) = .ok resolved) :
    ∃ joined, joinPatterns facts prefixes patterns = .ok joined ∧
      joined.rows =
        ((placeTuples facts.length resolved.length).filter fun places =>
          Solvable resolved (factsAt facts places)).map fun places =>
            rowOf resolved (factsAt facts places) := by
  obtain ⟨joined, run, found⟩ := joinFrom_rows facts prefixes .start wellFormed
  refine ⟨joined, run, ?_⟩
  simp only [found, Joined.start, List.flatMap_cons, List.flatMap_nil, List.append_nil,
    meetAll_empty]
  rw [← List.filterMap_eq_map, List.filterMap_filter]
  simp

theorem joinPatterns_single {facts : List Fact} {prefixes : PrefixTable} {pattern : TriplePattern}
    {resolved : ResolvedPattern}
    (resolves : ResolvedPattern.ofPattern prefixes pattern = .ok resolved) :
    ∃ joined, joinPatterns facts prefixes [pattern] = .ok joined ∧
      joined.rows = resolved.continuations facts .empty := by
  refine ⟨Joined.start.step facts resolved, ?_, ?_⟩
  · rw [joinPatterns, joinFrom, resolves]
    rfl
  · simp [Joined.step, Joined.start]

/-! ## Plan, filters and modifiers -/

def Sparql.Node.isConjunct : Node → Bool
  | .triples _ => true
  | .filter _ => true
  | _ => false

def Sparql.Select.IsUnmodified (select : Select) : Prop :=
  select.distinct = false ∧ select.order = [] ∧ select.limit = none ∧ select.offset = none

theorem planOf_conjuncts {group : Group} (conjuncts : ∀ entry ∈ group, entry.isConjunct = true) :
    planOf group = .ok (patternsOf group, conditionsOf group) := by
  induction group with
  | nil => rfl
  | cons entry others inductionHypothesis =>
      have rest := inductionHypothesis fun other member =>
        conjuncts other (List.mem_cons_of_mem _ member)
      have here := conjuncts entry List.mem_cons_self
      cases entry with
      | triples patterns => simp [planOf, rest, patternsOf, conditionsOf, Node.patterns]
      | filter condition => simp [planOf, rest, patternsOf, conditionsOf, Node.patterns]
      | _ => cases here

/-- The conditions of a row that can all be evaluated decide together what each decides. -/
theorem allHold_iff {row : Row} {conditions : List Node} {verdict : Bool}
    (evaluated : Filter.allHold row conditions = .ok verdict) :
    verdict = true ↔ AllTrue conditions row := by
  induction conditions generalizing verdict with
  | nil =>
      cases Except.ok.inj evaluated
      simp [AllTrue]
  | cons condition others inductionHypothesis =>
      obtain ⟨first, holds, evaluated⟩ := bind_eq_ok_iff.mp evaluated
      cases first with
      | false =>
          cases Except.ok.inj evaluated
          simp [AllTrue, holds]
      | true =>
          rw [inductionHypothesis evaluated]
          simp [AllTrue, holds]

/-- Filters keep the rows of which all conditions are true, if none of them faults on the way. -/
theorem apply_eq_filter {conditions : List Node} {rows : List Row}
    (evaluated : ∀ row ∈ rows, ∃ verdict, Filter.allHold row conditions = .ok verdict) :
    Filter.apply conditions rows = .ok (rows.filter fun row => AllTrue conditions row) := by
  induction rows with
  | nil => rfl
  | cons row others inductionHypothesis =>
      obtain ⟨verdict, here⟩ := evaluated row List.mem_cons_self
      have rest := inductionHypothesis fun other member =>
        evaluated other (List.mem_cons_of_mem _ member)
      have decided := allHold_iff here
      by_cases kept : AllTrue conditions row
      · have accepted : verdict = true := decided.mpr kept
        simp [Filter.apply, here, rest, kept, accepted]
      · have rejected : verdict = false := by
          rw [Bool.eq_false_iff]
          exact fun accepted => kept (decided.mp accepted)
        simp [Filter.apply, here, rest, kept, rejected]

theorem apply_nil (rows : List Row) : Filter.apply [] rows = .ok rows := by
  induction rows with
  | nil => rfl
  | cons row others inductionHypothesis =>
      rw [Filter.apply, inductionHypothesis]
      rfl

theorem sort_nil (rows : List Row) : Order.sort [] rows = .ok rows := by
  have anyOrder : ∀ left right, Order.comesFirst [] left right = true := fun _ _ => rfl
  have sorted : rows.Pairwise fun left right => Order.comesFirst [] left right = true :=
    List.pairwise_of_forall anyOrder
  simp [Order.sort, Order.isReadable, List.mergeSort_of_pairwise sorted]
  rfl

theorem thinOut_unmodified {select : Select} (unmodified : select.IsUnmodified) (rows : List Row) :
    select.thinOut rows = rows := by
  obtain ⟨kept, -, unlimited, unskipped⟩ := unmodified
  simp [Select.thinOut, Select.page, kept, unlimited, unskipped, dropRows]

theorem exists_run {facts : List Fact} {prefixes : PrefixTable} {select : Select}
    {plan : List TriplePattern × List Node} {joined : Joined} {kept sorted : List Row}
    (planned : planOf select.group = .ok plan)
    (run : joinPatterns facts prefixes plan.1 = .ok joined)
    (filtered : Filter.apply plan.2 joined.rows = .ok kept)
    (ordered : Order.sort select.order (kept.map (Row.project select.shown)) = .ok sorted) :
    ∃ result, execute facts ⟨prefixes, .select select⟩ = .ok result ∧
      result.rows = select.thinOut sorted := by
  simp only [execute, Select.run, planned, Evaluation.ofQuery, ok_bind, run, filtered, ordered]
  exact ⟨_, rfl, rfl⟩

/-! ## The query -/

/-- A query of triple patterns and filters, without modifiers, gives exactly the rows of brute
force, provided that every term of its patterns can be resolved and that no condition faults on a
row it is asked of. -/
theorem execute_eq_bruteForce (facts : List Fact) (prefixes : PrefixTable) (select : Select)
    (resolved : List ResolvedPattern)
    (conjuncts : ∀ entry ∈ select.group, entry.isConjunct = true)
    (unmodified : select.IsUnmodified)
    (wellFormed :
      (patternsOf select.group).mapM (ResolvedPattern.ofPattern prefixes) = .ok resolved)
    (evaluated : ∀ places ∈ placeTuples facts.length resolved.length,
      Solvable resolved (factsAt facts places) →
        ∃ verdict, Filter.allHold (rowOf resolved (factsAt facts places))
          (conditionsOf select.group) = .ok verdict) :
    ∃ result, execute facts ⟨prefixes, .select select⟩ = .ok result ∧
      result.rows = bruteForce facts resolved (conditionsOf select.group) select.shown := by
  obtain ⟨joined, run, found⟩ := joinPatterns_rows facts prefixes wellFormed
  have evaluatedRows : ∀ row ∈ joined.rows,
      ∃ verdict, Filter.allHold row (conditionsOf select.group) = .ok verdict := by
    intro row member
    rw [found] at member
    obtain ⟨places, solvable, rfl⟩ := List.mem_map.mp member
    obtain ⟨enumerated, solvable⟩ := List.mem_filter.mp solvable
    exact evaluated places enumerated (by simpa using solvable)
  have filtered := apply_eq_filter evaluatedRows
  obtain ⟨result, success, rows⟩ := exists_run (planOf_conjuncts conjuncts) run filtered
    (unmodified.2.1 ▸ sort_nil _)
  refine ⟨result, success, ?_⟩
  rw [rows, thinOut_unmodified unmodified, found, bruteForce, List.filter_map, List.map_map,
    List.filter_filter]
  have bothWays : ∀ tuple, decide (IsAnswer resolved (conditionsOf select.group) tuple) =
      (decide (AllTrue (conditionsOf select.group) (rowOf resolved tuple)) &&
        decide (Solvable resolved tuple)) := by
    intro tuple
    rw [Bool.eq_iff_iff, Bool.and_eq_true, decide_eq_true_iff, decide_eq_true_iff,
      decide_eq_true_iff]
    exact and_comm
  simp only [bothWays, Function.comp_def]

/-- A variable that one pattern repeats, a fact that comes twice, empty values and a filter. -/
theorem execute_eq_bruteForce_repeated :
    let facts : List Fact := [⟨"", "p", "", none, none⟩, ⟨"a", "p", "a", none, none⟩,
      ⟨"", "p", "", none, none⟩]
    let name : Node := .term (.variable "x")
    let select : Select := {
      variableNames := ["x", "z"]
      group := [
        .triples [⟨name, .term (.iri (.prefixed "e" "")), name⟩],
        .filter (.binary "!=" name (.term (.literal "a" none none))),
        .triples [⟨name, .term (.variable "y"), .term (.literal "" none none)⟩]] }
    let row : Row := .ofList [("x", some ""), ("z", none)]
    ∃ result, execute facts ⟨.ofList [("e", "p")], .select select⟩ = .ok result ∧
      result.rows = [row, row, row, row] := by
  intro facts name select row
  let resolved : List ResolvedPattern := [⟨.variable "x", .identifier "p", .variable "x"⟩,
    ⟨.variable "x", .variable "y", .literal "" none none⟩]
  have search : bruteForce facts resolved (conditionsOf select.group) select.shown =
      [row, row, row, row] := by decide +kernel
  rw [← search]
  exact execute_eq_bruteForce facts (.ofList [("e", "p")]) select resolved (by decide)
    ⟨rfl, rfl, rfl, rfl⟩ rfl (by decide +kernel)

end FactQuery
