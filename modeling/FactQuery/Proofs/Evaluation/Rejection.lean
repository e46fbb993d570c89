import FactQuery.Proofs.Evaluation.Blame

/-!
# What rejects a query

A group is supported if it holds nothing but triple patterns of terms that can be matched and
filters that compare variables and literals.  An unsupported group never gives a row.  But whether
it is rejected is found out on the way: only an unsupported entry and the terms of the first pattern
are looked at on every store.  Later patterns and all filters are looked at only while there are
rows, so on an empty store a query that cannot be run may look like one without answers.
-/

set_option autoImplicit false

namespace FactQuery

open FactQuery.Sparql

/-! ## Supported groups -/

/-- The group holds nothing that a run could not evaluate. -/
structure Sparql.IsSupported (group : Group) : Prop where
  conjuncts : ∀ entry ∈ group, entry.isConjunct = true
  patterns : ∀ pattern ∈ patternsOf group, pattern.isMatchable = true
  conditions : ∀ condition ∈ conditionsOf group, condition.isComparison = true

/-- What is rejected before any fact is looked at, and the fault that is told: an entry that is
neither a pattern nor a filter, a term of the first pattern that cannot be matched, or, where there
are no patterns, a condition on the row without values. -/
inductive Sparql.Rejects (group : Group) : Fault → Prop where
  | entry {fault : Fault}
      (first : FirstFault (fun entry => Node.isConjunct entry = true) Node.FailsAsEntry group
        fault) : Rejects group fault
  | term {pattern : TriplePattern} {others : List TriplePattern} {fault : Fault}
      (conjuncts : ∀ entry ∈ group, entry.isConjunct = true)
      (patterns : patternsOf group = pattern :: others)
      (first : FirstFault (fun node => Node.isMatchable node = true) Node.FailsAsTerm
        pattern.positions fault) : Rejects group fault
  | condition {fault : Fault} (conjuncts : ∀ entry ∈ group, entry.isConjunct = true)
      (noPattern : patternsOf group = [])
      (first : FirstFault (fun condition => Filter.holds .empty condition = .ok true)
        (Filter.ConditionFails .empty) (conditionsOf group) fault) : Rejects group fault

/-- The part of the group that a fault belongs to, in a run over some facts. -/
inductive Sparql.Blames (facts : List Fact) (prefixes : PrefixTable) (group : Group) :
    Fault → Prop where
  | entry {entry : Node} {fault : Fault} (inside : entry ∈ group)
      (fails : entry.FailsAsEntry fault) : Blames facts prefixes group fault
  | term {pattern : TriplePattern} {node : Node} {fault : Fault}
      (inside : pattern ∈ patternsOf group) (position : node ∈ pattern.positions)
      (fails : node.FailsAsTerm fault) : Blames facts prefixes group fault
  | condition {joined : Joined} {row : Row} {condition : Node} {fault : Fault}
      (join : joinPatterns facts prefixes (patternsOf group) = .ok joined)
      (found : row ∈ joined.rows) (inside : condition ∈ conditionsOf group)
      (fails : Filter.ConditionFails row condition fault) : Blames facts prefixes group fault

theorem exists_error_iff {ε α : Type} {outcome : Except ε α} :
    (∃ error, outcome = .error error) ↔ ¬∃ value, outcome = .ok value := by
  cases outcome with
  | ok value => simp
  | error error => simp

/-! ## Entries, patterns and conditions -/

theorem planOf_eq_ok {group : Group} {plan : List TriplePattern × List Node}
    (planned : planOf group = .ok plan) : ∀ entry ∈ group, entry.isConjunct = true := by
  induction group generalizing plan with
  | nil => simp
  | cons entry others inductionHypothesis =>
      cases entry with
      | triples patterns =>
          obtain ⟨rest, later, -⟩ := bind_eq_ok_iff.mp planned
          exact List.forall_mem_cons.2 ⟨rfl, inductionHypothesis later⟩
      | filter condition =>
          obtain ⟨rest, later, -⟩ := bind_eq_ok_iff.mp planned
          exact List.forall_mem_cons.2 ⟨rfl, inductionHypothesis later⟩
      | _ => cases planned

theorem planOf_cases (group : Group) :
    ((∀ entry ∈ group, entry.isConjunct = true) ∧
        planOf group = .ok (patternsOf group, conditionsOf group)) ∨
      (∃ entry ∈ group, entry.isConjunct = false) ∧ ∃ error, planOf group = .error error := by
  by_cases conjuncts : ∀ entry ∈ group, entry.isConjunct = true
  · exact Or.inl ⟨conjuncts, planOf_conjuncts conjuncts⟩
  · refine Or.inr ⟨by simpa using conjuncts, exists_error_iff.2 ?_⟩
    rintro ⟨plan, planned⟩
    exact conjuncts (planOf_eq_ok planned)

theorem Filter.isComparand_of_operandValue {row : Row} {node : Node} {value : String}
    (known : Filter.operandValue row node = .ok value) : node.isComparand = true := by
  cases node with
  | term kind =>
      cases kind with
      | «variable» name => rfl
      | literal text language datatype => rfl
      | _ => cases known
  | _ => cases known

theorem Filter.isComparison_of_holds {row : Row} {condition : Node} {verdict : Bool}
    (decided : Filter.holds row condition = .ok verdict) : condition.isComparison = true := by
  cases condition with
  | binary operator left right =>
      cases known : Comparison.ofOperator? operator with
      | none =>
          simp only [Filter.holds, known] at decided
          cases decided
      | some comparison =>
          simp only [Filter.holds, known] at decided
          obtain ⟨first, isFirst, decided⟩ := bind_eq_ok_iff.mp decided
          obtain ⟨second, isSecond, -⟩ := bind_eq_ok_iff.mp decided
          simp [Node.isComparison, known, isComparand_of_operandValue isFirst,
            isComparand_of_operandValue isSecond]
  | _ => cases decided

/-! ## Stages of a run -/

/-- A pattern that cannot be matched leaves no row, if the join gets past it. -/
theorem rows_of_joinFrom_unmatchable {facts : List Fact} {prefixes : PrefixTable}
    {stage joined : Joined} {patterns : List TriplePattern}
    (unmatchable : ∃ pattern ∈ patterns, pattern.isMatchable = false)
    (run : joinFrom facts prefixes stage patterns = .ok joined) : joined.rows = [] := by
  induction patterns generalizing stage with
  | nil => simp at unmatchable
  | cons pattern others inductionHypothesis =>
      unfold joinFrom at run
      split at run
      · rename_i noRow
        rw [← Except.ok.inj run]
        exact List.isEmpty_iff.1 noRow
      · obtain ⟨resolved, known, later⟩ := bind_eq_ok_iff.mp run
        have matchable := (ResolvedPattern.exists_ofPattern_iff prefixes).1 ⟨resolved, known⟩
        obtain ⟨faulty, inside, isFaulty⟩ := unmatchable
        rcases List.mem_cons.1 inside with rfl | behind
        · rw [isFaulty] at matchable
          contradiction
        · exact inductionHypothesis ⟨faulty, behind, isFaulty⟩ later

theorem joinFrom_noRow (facts : List Fact) (prefixes : PrefixTable) {stage : Joined}
    (noRow : stage.rows = []) (patterns : List TriplePattern) :
    joinFrom facts prefixes stage patterns = .ok stage := by
  cases patterns with
  | nil => rfl
  | cons pattern others => simp [joinFrom, noRow]

theorem step_noFact (stage : Joined) (pattern : ResolvedPattern) :
    (stage.step [] pattern).rows = [] := by
  simp [Joined.step, ResolvedPattern.continuations, ResolvedPattern.candidates, matchFacts]

/-- The first pattern is looked at on every store. -/
theorem joinPatterns_cons (facts : List Fact) (prefixes : PrefixTable) (first : TriplePattern)
    (others : List TriplePattern) :
    joinPatterns facts prefixes (first :: others) =
      (ResolvedPattern.ofPattern prefixes first >>= fun resolved =>
        joinFrom facts prefixes (Joined.start.step facts resolved) others) := rfl

theorem sort_noRow (conditions : List OrderCondition) : Order.sort conditions [] = .ok [] := by
  simp [Order.sort]
  rfl

theorem thinOut_noRow (select : Select) : select.thinOut [] = [] := by
  unfold Select.thinOut Select.page
  cases select.limit <;> simp [dropRows, takeRows]

theorem sort_singleton (conditions : List OrderCondition) (row : Row) :
    Order.sort conditions [row] = .ok [row] := by
  have noFault : Order.firstFault conditions [row] = .ok () := rfl
  unfold Order.sort
  rw [noFault, List.mergeSort_singleton]
  split <;> rfl

/-! ## Whole runs -/

variable {prefixes : PrefixTable} {select : Select}

theorem stages_of_execute {facts : List Fact} {result : QueryResult}
    (run : execute facts ⟨prefixes, .select select⟩ = .ok result) :
    (∀ entry ∈ select.group, entry.isConjunct = true) ∧ ∃ joined kept sorted,
      joinPatterns facts prefixes (patternsOf select.group) = .ok joined ∧
      Filter.apply (conditionsOf select.group) joined.rows = .ok kept ∧
      Order.sort select.order (kept.map (Row.project select.shown)) = .ok sorted ∧
      result.rows = select.thinOut sorted := by
  obtain ⟨plan, planned, run⟩ := bind_eq_ok_iff.mp run
  rcases planOf_cases select.group with ⟨conjuncts, known⟩ | ⟨-, error, fault⟩
  · rw [known] at planned
    cases Except.ok.inj planned
    obtain ⟨joined, found, run⟩ := bind_eq_ok_iff.mp run
    obtain ⟨kept, filtered, run⟩ := bind_eq_ok_iff.mp run
    obtain ⟨sorted, ordered, run⟩ := bind_eq_ok_iff.mp run
    rw [← Except.ok.inj run]
    exact ⟨conjuncts, joined, kept, sorted, found, filtered, ordered, rfl⟩
  · rw [fault] at planned
    cases planned

/-- An unsupported condition or pattern leaves no row to sort. -/
theorem kept_of_unsupported {facts : List Fact} {joined : Joined} {kept : List Row}
    (unsupported : ¬IsSupported select.group)
    (conjuncts : ∀ entry ∈ select.group, entry.isConjunct = true)
    (found : joinPatterns facts prefixes (patternsOf select.group) = .ok joined)
    (filtered : Filter.apply (conditionsOf select.group) joined.rows = .ok kept) : kept = [] := by
  obtain ⟨-, rfl⟩ := Filter.apply_eq_ok_iff.1 filtered
  by_cases matchable : ∀ pattern ∈ patternsOf select.group, pattern.isMatchable = true
  · rw [List.filter_eq_nil_iff]
    intro row _ all
    refine unsupported ⟨conjuncts, matchable, fun condition inside => ?_⟩
    exact Filter.isComparison_of_holds (decide_eq_true_iff.1 all condition inside)
  · have noRow : joined.rows = [] := rows_of_joinFrom_unmatchable (by simpa using matchable) found
    rw [noRow, List.filter_nil]

/-- An unsupported group has no answers on any store. -/
theorem rows_of_unsupported {facts : List Fact} {result : QueryResult}
    (unsupported : ¬IsSupported select.group)
    (run : execute facts ⟨prefixes, .select select⟩ = .ok result) : result.rows = [] := by
  obtain ⟨conjuncts, joined, kept, sorted, found, filtered, ordered, rows⟩ := stages_of_execute run
  rw [kept_of_unsupported unsupported conjuncts found filtered, List.map_nil, sort_noRow] at ordered
  rw [rows, ← Except.ok.inj ordered, thinOut_noRow]

/-- A run that fails blames a part of the group, or a value that is to be sorted. -/
theorem execute_eq_error_cases {facts : List Fact} {fault : Fault}
    (fails : execute facts ⟨prefixes, .select select⟩ = .error fault) :
    Blames facts prefixes select.group fault ∨
      (∀ entry ∈ select.group, entry.isConjunct = true) ∧ ∃ joined kept,
        joinPatterns facts prefixes (patternsOf select.group) = .ok joined ∧
        Filter.apply (conditionsOf select.group) joined.rows = .ok kept ∧
        Order.sort select.order (kept.map (Row.project select.shown)) = .error fault := by
  rcases bind_eq_error_iff.1 fails with fails | ⟨plan, planned, fails⟩
  · cases planned : planOf select.group with
    | ok plan =>
        rw [planned] at fails
        cases fails
    | error error =>
        rw [planned] at fails
        obtain ⟨entry, inside, failing⟩ := (planOf_eq_error_iff.1 planned).exists_mem
        rw [← Except.error.inj fails]
        exact Or.inl (.entry inside failing)
  rcases planOf_cases select.group with ⟨conjuncts, known⟩ | ⟨-, error, fault⟩
  · rw [known] at planned
    cases Except.ok.inj planned
    rcases bind_eq_error_iff.1 fails with fails | ⟨joined, join, fails⟩
    · obtain ⟨pattern, inside, node, position, failing⟩ := joinFrom_eq_error fails
      exact Or.inl (.term inside position failing)
    rcases bind_eq_error_iff.1 fails with fails | ⟨kept, filtered, fails⟩
    · obtain ⟨row, found, condition, inside, failing⟩ := Filter.exists_of_apply fails
      exact Or.inl (.condition join found inside failing)
    rcases bind_eq_error_iff.1 fails with fails | ⟨sorted, -, fails⟩
    · exact Or.inr ⟨conjuncts, joined, kept, join, filtered, fails⟩
    · cases fails
  · rw [fault] at planned
    cases planned

theorem blames_of_unsupported {facts : List Fact} {fault : Fault}
    (unsupported : ¬IsSupported select.group)
    (fails : execute facts ⟨prefixes, .select select⟩ = .error fault) :
    Blames facts prefixes select.group fault := by
  rcases execute_eq_error_cases fails with blamed | ⟨conjuncts, joined, kept, join, filtered, fails⟩
  · exact blamed
  · rw [kept_of_unsupported unsupported conjuncts join filtered, List.map_nil, sort_noRow] at fails
    cases fails

/-! ## Rejection -/

/-- What is rejected fails on every store with the fault of its first unsupported part. -/
theorem execute_of_rejects {fault : Fault} (rejects : Rejects select.group fault)
    (facts : List Fact) : execute facts ⟨prefixes, .select select⟩ = .error fault := by
  cases rejects with
  | entry first =>
      obtain ⟨entry, -, -, rfl⟩ := first.exists_mem
      simp only [execute, Select.run, planOf_eq_error_iff.2 first, Evaluation.ofQuery, error_bind]
  | term conjuncts patterns first =>
      simp only [execute, Select.run, planOf_conjuncts conjuncts, Evaluation.ofQuery, ok_bind,
        patterns, joinPatterns_cons, ResolvedPattern.ofPattern_eq_error_iff.2 first, error_bind]
  | condition conjuncts noPattern first =>
      have joined : joinPatterns facts prefixes (patternsOf select.group) = .ok .start := by
        rw [noPattern]
        rfl
      have filtered :
          Filter.apply (conditionsOf select.group) Joined.start.rows = .error fault := by
        simp only [Joined.start, Filter.apply, Filter.allHold_eq_error_iff.2 first, error_bind]
      simp only [execute, Select.run, planOf_conjuncts conjuncts, Evaluation.ofQuery, ok_bind,
        joined, filtered, error_bind]

/-- On an empty store nothing behind the first pattern is looked at. -/
theorem exists_execute_noFact {first : TriplePattern} {others : List TriplePattern}
    (conjuncts : ∀ entry ∈ select.group, entry.isConjunct = true)
    (patterns : patternsOf select.group = first :: others) (matchable : first.isMatchable = true) :
    ∃ result, execute [] ⟨prefixes, .select select⟩ = .ok result := by
  obtain ⟨resolved, known⟩ := (ResolvedPattern.exists_ofPattern_iff prefixes).2 matchable
  have noRow : (Joined.start.step [] resolved).rows = [] := step_noFact _ _
  have joined : joinPatterns [] prefixes (patternsOf select.group) =
      .ok (Joined.start.step [] resolved) := by
    rw [patterns, joinPatterns_cons, known, ok_bind, joinFrom_noRow _ _ noRow]
  have filtered : Filter.apply (conditionsOf select.group) (Joined.start.step [] resolved).rows =
      .ok [] := by
    rw [noRow]
    rfl
  obtain ⟨result, success, -⟩ :=
    exists_run (planOf_conjuncts conjuncts) joined filtered (sort_noRow select.order)
  exact ⟨result, success⟩

/-- Without patterns the conditions are asked of the row that gives no value. -/
theorem exists_execute_noPattern {verdict : Bool}
    (conjuncts : ∀ entry ∈ select.group, entry.isConjunct = true)
    (noPattern : patternsOf select.group = [])
    (decided : Filter.allHold .empty (conditionsOf select.group) = .ok verdict) :
    ∃ result, execute [] ⟨prefixes, .select select⟩ = .ok result := by
  have joined : joinPatterns [] prefixes (patternsOf select.group) = .ok .start := by
    rw [noPattern]
    rfl
  have filtered : Filter.apply (conditionsOf select.group) Joined.start.rows =
      .ok (if verdict then [.empty] else []) := by
    simp only [Joined.start, Filter.apply, decided, ok_bind]
    rfl
  have ordered : ∃ sorted, Order.sort select.order
      ((if verdict then [.empty] else []).map (Row.project select.shown)) = .ok sorted := by
    cases verdict with
    | true => exact ⟨_, sort_singleton _ _⟩
    | false => exact ⟨_, sort_noRow _⟩
  obtain ⟨sorted, ordered⟩ := ordered
  obtain ⟨result, success, -⟩ := exists_run (planOf_conjuncts conjuncts) joined filtered ordered
  exact ⟨result, success⟩

theorem exists_execute_of_not_rejects (prefixes : PrefixTable)
    (notRejected : ∀ fault, ¬Rejects select.group fault) :
    ∃ result, execute [] ⟨prefixes, .select select⟩ = .ok result := by
  rcases planOf_cases select.group with ⟨conjuncts, -⟩ | ⟨-, error, fails⟩
  · cases patterns : patternsOf select.group with
    | nil =>
        cases decided : Filter.allHold .empty (conditionsOf select.group) with
        | ok verdict => exact exists_execute_noPattern conjuncts patterns decided
        | error fault =>
            have first := Filter.allHold_eq_error_iff.1 decided
            exact absurd (.condition conjuncts patterns first) (notRejected fault)
    | cons first others =>
        cases resolved : ResolvedPattern.ofPattern prefixes first with
        | ok pattern =>
            have matchable := (ResolvedPattern.exists_ofPattern_iff prefixes).1 ⟨pattern, resolved⟩
            exact exists_execute_noFact conjuncts patterns matchable
        | error fault =>
            have failing := ResolvedPattern.ofPattern_eq_error_iff.1 resolved
            exact absurd (.term conjuncts patterns failing) (notRejected fault)
  · exact absurd (.entry (planOf_eq_error_iff.1 fails)) (notRejected (.query error))

/-- An unsupported query never gives a row, and where it fails it blames the part that it fails on.
It fails with one fault on every store, if that part is rejected before any fact is looked at, and
otherwise succeeds on an empty store. -/
theorem execute_unsupported (prefixes : PrefixTable) (select : Select)
    (unsupported : ¬IsSupported select.group) :
    (∀ facts result, execute facts ⟨prefixes, .select select⟩ = .ok result → result.rows = []) ∧
      (∀ facts fault, execute facts ⟨prefixes, .select select⟩ = .error fault →
        Blames facts prefixes select.group fault) ∧
      (∀ fault, Rejects select.group fault ↔
        ∀ facts, execute facts ⟨prefixes, .select select⟩ = .error fault) ∧
      ((∀ fault, ¬Rejects select.group fault) ↔
        ∃ result, execute [] ⟨prefixes, .select select⟩ = .ok result) := by
  refine ⟨fun _ _ => rows_of_unsupported unsupported, fun _ _ => blames_of_unsupported unsupported,
    fun fault => ⟨execute_of_rejects, fun fails => ?_⟩,
    exists_execute_of_not_rejects prefixes, ?_⟩
  · by_contra notRejected
    have others : ∀ other, ¬Rejects select.group other := by
      intro other rejects
      have same := (execute_of_rejects rejects []).symm.trans (fails [])
      rw [Except.error.inj same] at rejects
      exact notRejected rejects
    obtain ⟨result, success⟩ := exists_execute_of_not_rejects prefixes others
    rw [fails] at success
    contradiction
  · rintro ⟨result, success⟩ fault rejects
    rw [execute_of_rejects rejects] at success
    contradiction

/-- A blank node in the second pattern is told where a fact brings the run to it, and not on an
empty store.  An optional part is told on every store. -/
theorem execute_unsupported_blank :
    let triple : Node → TriplePattern := fun object =>
      ⟨.term (.variable "s"), .term (.iri (.full "p")), object⟩
    let select : Select := {
      variableNames := []
      group := [.triples [triple (.term (.variable "o")), triple (.term (.blank "b"))]] }
    let guarded : Select := { select with group := select.group ++ [.optional []] }
    ¬IsSupported select.group ∧ ¬IsSupported guarded.group ∧
      (∀ facts result, execute facts ⟨.empty, .select select⟩ = .ok result → result.rows = []) ∧
      execute [⟨"s", "p", "o", none, none⟩] ⟨.empty, .select select⟩ =
        .error (.query (.malformedTerm "BlankNode(label=\x27b\x27)")) ∧
      (∃ result, execute [] ⟨.empty, .select select⟩ = .ok result) ∧
      ∀ facts, execute facts ⟨.empty, .select guarded⟩ =
        .error (.query (.unsupportedPattern "OptionalPattern")) := by
  intro triple select guarded
  have unsupported : ¬IsSupported select.group := fun supported =>
    absurd (supported.patterns (triple (.term (.blank "b"))) (.tail _ (.head _))) (by decide)
  have unsupportedToo : ¬IsSupported guarded.group := fun supported =>
    absurd (supported.conjuncts (.optional []) (.tail _ (.head _))) (by decide)
  have notRejected : ∀ fault, ¬Rejects select.group fault := by
    rintro fault (first | ⟨-, patterns, first⟩ | ⟨-, noPattern, -⟩)
    · obtain ⟨entry, inside, isNone, -⟩ := first.exists_mem
      rw [List.mem_singleton.1 inside] at isNone
      contradiction
    · cases patterns
      obtain ⟨node, position, unmatchable, -⟩ := first.exists_mem
      have matchable : ∀ other ∈ (triple (.term (.variable "o"))).positions,
          Node.isMatchable other = true := List.all_eq_true.1 rfl
      rw [matchable node position] at unmatchable
      contradiction
    · contradiction
  have rejected : Rejects guarded.group (.query (.unsupportedPattern "OptionalPattern")) :=
    .entry (.later rfl (.here ⟨rfl, rfl⟩))
  obtain ⟨noRows, -, -, onEmpty⟩ := execute_unsupported .empty select unsupported
  exact ⟨unsupported, unsupportedToo, noRows, rfl, onEmpty.1 notRejected,
    ((execute_unsupported .empty guarded unsupportedToo).2.2.1 _).1 rejected⟩

/-- A filter that compares nothing is rejected where a row is found, and only there. -/
theorem execute_rejects_by_facts :
    ¬∀ (prefixes : PrefixTable) (select : Select), ¬IsSupported select.group →
      ∀ facts, ∃ error, execute facts ⟨prefixes, .select select⟩ = .error (.query error) := by
  intro always
  let sum : Node := .binary "+" (.term (.variable "o")) (.term (.literal "1" none none))
  let select : Select := {
    variableNames := ["s"]
    group := [.triples [⟨.term (.variable "s"), .term (.variable "p"), .term (.variable "o")⟩],
      .filter sum] }
  have unsupported : ¬IsSupported select.group := fun supported =>
    absurd (supported.conditions sum (.head _)) (by decide)
  have runs : (execute [] ⟨.empty, .select select⟩).isOk = true := by decide +kernel
  obtain ⟨error, fails⟩ := always .empty select unsupported []
  rw [fails] at runs
  contradiction

end FactQuery
