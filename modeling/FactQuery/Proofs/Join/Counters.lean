import FactQuery.Proofs.Evaluation.Domain
import Mathlib.Algebra.BigOperators.Group.Finset.Basic

/-!
# The counters of a join

A pattern looks up facts for every row that is there, and a fact that is looked up continues its row
unless it gives a variable two values.  The values that the row has were asked for when the fact was
looked up, so this can only happen where the pattern has a variable twice that no earlier pattern
has.  The counters of a join are sums over its patterns: one of the rows that each pattern leaves,
the other of the facts that it looked up.  Where no row is left, the patterns behind add nothing.
-/

set_option autoImplicit false

namespace FactQuery

open FactQuery.Sparql

/-! ## Conflicts -/

/-- Some variable is given a value here, and another one in the row or at another position. -/
def Clash (row : Row) (readings : List (ResolvedTerm × String)) : Prop :=
  ∃ name first second, (ResolvedTerm.variable name, first) ∈ readings ∧
    (Row.value? row name = some second ∨ (ResolvedTerm.variable name, second) ∈ readings) ∧
      first ≠ second

def bindAll (row : Row) : List (ResolvedTerm × String) → Option Row
  | [] => some row
  | (term, value) :: others => (term.bindTo value row).bind fun next => bindAll next others

/-- A value clashes in the row as it clashed at the position that it comes from. -/
theorem clash_bind_iff {row : Row} {name value : String} {others : List (ResolvedTerm × String)}
    (free : ∀ existing, Row.value? row name = some existing → existing = value) :
    Clash (row.bind name value) others ↔ Clash row ((.variable name, value) :: others) := by
  constructor
  · rintro ⟨other, first, second, here, there, different⟩
    refine ⟨other, first, second, List.mem_cons_of_mem _ here, ?_, different⟩
    rcases there with bound | there
    · rw [Row.value?_bind] at bound
      split at bound
      case isTrue same =>
        cases bound
        exact Or.inr (same ▸ List.mem_cons_self)
      case isFalse => exact Or.inl bound
    · exact Or.inr (List.mem_cons_of_mem _ there)
  · rintro ⟨other, first, second, here, there, different⟩
    have held : Row.value? (row.bind name value) name = some value := by
      rw [Row.value?_bind, if_pos rfl]
    rcases List.mem_cons.1 here with head | here
    · obtain ⟨sameTerm, rfl⟩ := Prod.mk.inj head
      cases sameTerm
      rcases there with bound | there
      · exact absurd (free second bound).symm different
      · rcases List.mem_cons.1 there with head | there
        · exact absurd (Prod.mk.inj head).2.symm different
        · exact ⟨name, second, _, there, Or.inl held, Ne.symm different⟩
    · refine ⟨other, first, second, here, ?_, different⟩
      rcases there with bound | there
      · by_cases same : other = name
        · subst same
          exact Or.inl (free second bound ▸ held)
        · exact Or.inl (by rw [Row.value?_bind, if_neg same, bound])
      · rcases List.mem_cons.1 there with head | there
        · obtain ⟨sameTerm, rfl⟩ := Prod.mk.inj head
          cases sameTerm
          exact Or.inl held
        · exact Or.inr there

/-- The positions cannot all be bound exactly if there is a clash. -/
theorem bindAll_eq_none_iff {row : Row} {readings : List (ResolvedTerm × String)} :
    bindAll row readings = none ↔ Clash row readings := by
  induction readings generalizing row with
  | nil => simp [bindAll, Clash]
  | cons reading others inductionHypothesis =>
      obtain ⟨term, value⟩ := reading
      cases term with
      | «variable» name =>
          by_cases free : ∀ existing, Row.value? row name = some existing → existing = value
          · have bound : (ResolvedTerm.variable name).bindTo value row =
                some (row.bind name value) := by
              cases known : Row.value? row name with
              | none => simp [ResolvedTerm.bindTo, known]
              | some existing => simp [ResolvedTerm.bindTo, known, free existing known]
            rw [bindAll, bound, Option.bind_some, inductionHypothesis, clash_bind_iff free]
          · push Not at free
            obtain ⟨existing, known, different⟩ := free
            have refused : (ResolvedTerm.variable name).bindTo value row = none := by
              simp [ResolvedTerm.bindTo, known, different]
            rw [bindAll, refused, Option.bind_none]
            exact iff_of_true rfl
              ⟨name, value, existing, List.mem_cons_self, Or.inl known, Ne.symm different⟩
      | identifier text =>
          change bindAll row others = none ↔ _
          rw [inductionHypothesis]
          simp [Clash]
      | literal text datatype language =>
          change bindAll row others = none ↔ _
          rw [inductionHypothesis]
          simp [Clash]

namespace ResolvedPattern

def readings (pattern : ResolvedPattern) (fact : Fact) : List (ResolvedTerm × String) :=
  [(pattern.subject, fact.subject), (pattern.predicate, fact.predicate),
    (pattern.object, fact.object)]

/-- The fact gives a variable of the pattern two values, or another one than the row. -/
def Conflicts (pattern : ResolvedPattern) (row : Row) (fact : Fact) : Prop :=
  Clash row (pattern.readings fact)

theorem extend_eq_none_iff {pattern : ResolvedPattern} {row : Row} {fact : Fact} :
    pattern.extend row fact = none ↔ pattern.Conflicts row fact := by
  have same : pattern.extend row fact = bindAll row (pattern.readings fact) := by
    simp [extend, readings, bindAll]
  rw [same, bindAll_eq_none_iff, Conflicts]

instance (pattern : ResolvedPattern) (row : Row) (fact : Fact) :
    Decidable (pattern.Conflicts row fact) :=
  decidable_of_iff _ extend_eq_none_iff

def conflicting (pattern : ResolvedPattern) (facts : List Fact) (row : Row) : List Fact :=
  (pattern.candidates facts row).filter fun fact => pattern.Conflicts row fact

/-- A fact that is looked up for a row continues the row or conflicts with it. -/
theorem length_candidates (pattern : ResolvedPattern) (facts : List Fact) (row : Row) :
    (pattern.candidates facts row).length =
      (pattern.continuations facts row).length + (pattern.conflicting facts row).length := by
  have dropped : ∀ fact, decide (pattern.Conflicts row fact) =
      !(pattern.extend row fact).isSome := by
    intro fact
    rw [Bool.eq_iff_iff, decide_eq_true_iff, ← extend_eq_none_iff]
    simp
  rw [continuations, conflicting, List.length_filterMap_eq_countP, ← List.countP_eq_length_filter,
    List.length_eq_countP_add_countP fun fact => (pattern.extend row fact).isSome]
  simp only [dropped, Bool.not_eq_true, Bool.decide_eq_false]

theorem length_lookups (pattern : ResolvedPattern) (facts : List Fact) (rows : List Row) :
    (rows.flatMap (pattern.candidates facts)).length =
      (rows.flatMap (pattern.continuations facts)).length +
        (rows.flatMap (pattern.conflicting facts)).length := by
  simp only [List.length_flatMap, length_candidates, List.sum_map_add]

/-! ## Repeated variables -/

theorem eq_of_mem_candidates {pattern : ResolvedPattern} {facts : List Fact} {row : Row}
    {fact : Fact} (lookedUp : fact ∈ pattern.candidates facts row) {name value bound : String}
    (reading : (.variable name, value) ∈ pattern.readings fact)
    (known : Row.value? row name = some bound) : value = bound := by
  have demanded := (List.mem_filter.1 lookedUp).2
  simp only [Bool.and_eq_true] at demanded
  obtain ⟨⟨subject, predicate⟩, object⟩ := demanded
  have asked : ∀ {term : ResolvedTerm} {text : String}, (term.demand row).all (text == ·) = true →
      (ResolvedTerm.variable name, value) = (term, text) → value = bound := by
    rintro term text met same
    obtain ⟨rfl, rfl⟩ := Prod.mk.inj same
    simpa [ResolvedTerm.demand, known] using met
  simp only [readings, List.mem_cons, List.not_mem_nil, or_false] at reading
  rcases reading with here | here | here
  · exact asked subject here
  · exact asked predicate here
  · exact asked object here

theorem count_variableNames (pattern : ResolvedPattern) (fact : Fact) (name : String) :
    (pattern.subject.variableNames ++ pattern.predicate.variableNames ++
        pattern.object.variableNames).count name =
      ((pattern.readings fact).filter fun reading => reading.1 = .variable name).length := by
  have single : ∀ term : ResolvedTerm, term.variableNames.count name =
      if term = .variable name then 1 else 0 := by
    intro term
    cases term <;> simp [ResolvedTerm.variableNames, List.count_singleton]
  rw [← List.countP_eq_length_filter, List.count_append, List.count_append, single, single, single]
  simp [readings, List.countP_cons]
  omega

/-- A fact that is looked up conflicts only where the pattern repeats a variable of which the row
knows nothing. -/
theorem repeats_of_conflicts {pattern : ResolvedPattern} {facts : List Fact} {row : Row}
    {fact : Fact} (lookedUp : fact ∈ pattern.candidates facts row)
    (conflict : pattern.Conflicts row fact) :
    ∃ name, Row.value? row name = none ∧
      1 < (pattern.subject.variableNames ++ pattern.predicate.variableNames ++
        pattern.object.variableNames).count name := by
  obtain ⟨name, first, second, here, there, different⟩ := conflict
  have unknown : Row.value? row name = none := by
    by_contra known
    obtain ⟨bound, known⟩ := Option.ne_none_iff_exists'.1 known
    have isFirst := eq_of_mem_candidates lookedUp here known
    rcases there with other | there
    · rw [known] at other
      exact different (isFirst.trans (Option.some.inj other))
    · exact different (isFirst.trans (eq_of_mem_candidates lookedUp there known).symm)
  have there : (ResolvedTerm.variable name, second) ∈ pattern.readings fact := by
    rcases there with bound | there
    · rw [unknown] at bound
      cases bound
    · exact there
  refine ⟨name, unknown, ?_⟩
  rw [count_variableNames pattern fact]
  have both : [(ResolvedTerm.variable name, first), (ResolvedTerm.variable name, second)] ⊆
      (pattern.readings fact).filter fun reading => reading.1 = .variable name := by
    simp [here, there]
  have distinct : [(ResolvedTerm.variable name, first),
      (ResolvedTerm.variable name, second)].Nodup := by
    simp [different]
  exact (List.subperm_of_subset distinct both).length_le

end ResolvedPattern

/-! ## Stages -/

theorem joinFrom_of_rows_eq_nil {facts : List Fact} {prefixes : PrefixTable} {stage : Joined}
    (ended : stage.rows = []) (patterns : List TriplePattern) :
    joinFrom facts prefixes stage patterns = .ok stage := by
  cases patterns with
  | nil => rfl
  | cons pattern others => rw [joinFrom, ended, List.isEmpty_nil, if_pos rfl]

theorem joinFrom_append (facts : List Fact) (prefixes : PrefixTable) (stage : Joined)
    (front back : List TriplePattern) :
    joinFrom facts prefixes stage (front ++ back) =
      (joinFrom facts prefixes stage front >>= fun middle =>
        joinFrom facts prefixes middle back) := by
  induction front generalizing stage with
  | nil => rfl
  | cons pattern others inductionHypothesis =>
      cases rows : stage.rows with
      | nil => rw [joinFrom_of_rows_eq_nil rows, joinFrom_of_rows_eq_nil rows, ok_bind,
          joinFrom_of_rows_eq_nil rows]
      | cons row more =>
          rw [List.cons_append, joinFrom, joinFrom, rows, List.isEmpty_cons]
          cases ResolvedPattern.ofPattern prefixes pattern with
          | error fault => rfl
          | ok resolved => exact inductionHypothesis _

theorem Joined.step_of_rows_eq_nil {stage : Joined} (ended : stage.rows = []) (facts : List Fact)
    (pattern : ResolvedPattern) : stage.step facts pattern = stage := by
  obtain ⟨rows, scanned, joined⟩ := stage
  obtain rfl : rows = [] := ended
  rfl

theorem joinFrom_singleton {facts : List Fact} {prefixes : PrefixTable} {pattern : TriplePattern}
    {resolved : ResolvedPattern}
    (resolves : ResolvedPattern.ofPattern prefixes pattern = .ok resolved) (stage : Joined) :
    joinFrom facts prefixes stage [pattern] = .ok (stage.step facts resolved) := by
  cases rows : stage.rows with
  | nil => rw [joinFrom_of_rows_eq_nil rows, Joined.step_of_rows_eq_nil rows]
  | cons row more =>
      rw [joinFrom, rows, List.isEmpty_cons, resolves]
      rfl

/-- The joins of the first patterns, for every number of them, and the patterns made ready. -/
structure AreStages (facts : List Fact) (prefixes : PrefixTable) (patterns : List TriplePattern)
    (stage : ℕ → Joined) (resolved : ℕ → ResolvedPattern) : Prop where
  join : ∀ count, joinPatterns facts prefixes (patterns.take count) = .ok (stage count)
  resolves : ∀ k (inside : k < patterns.length),
    ResolvedPattern.ofPattern prefixes patterns[k] = .ok (resolved k)

theorem exists_areStages (facts : List Fact) (prefixes : PrefixTable)
    {patterns : List TriplePattern}
    (matchable : ∀ pattern ∈ patterns, pattern.isMatchable = true) :
    ∃ stage resolved, AreStages facts prefixes patterns stage resolved := by
  have joins : ∀ count, ∃ joined,
      joinPatterns facts prefixes (patterns.take count) = .ok joined := by
    intro count
    exact exists_joinFrom facts prefixes .start fun pattern inside =>
      matchable pattern (List.mem_of_mem_take inside)
  have ready : ∀ k, ∃ resolved, ∀ inside : k < patterns.length,
      ResolvedPattern.ofPattern prefixes patterns[k] = .ok resolved := by
    intro k
    by_cases inside : k < patterns.length
    · obtain ⟨resolved, resolves⟩ := (ResolvedPattern.exists_ofPattern_iff prefixes).2
        (matchable patterns[k] (List.getElem_mem inside))
      exact ⟨resolved, fun _ => resolves⟩
    · exact ⟨⟨.variable "", .variable "", .variable ""⟩, fun absent => absurd absent inside⟩
  choose stage join using joins
  choose resolved resolves using ready
  exact ⟨stage, resolved, join, resolves⟩

section Stages

variable {facts : List Fact} {prefixes : PrefixTable} {patterns : List TriplePattern}
  {stage : ℕ → Joined} {resolved : ℕ → ResolvedPattern}

theorem AreStages.start (stages : AreStages facts prefixes patterns stage resolved) :
    stage 0 = .start :=
  (Except.ok.inj (stages.join 0)).symm

theorem AreStages.step (stages : AreStages facts prefixes patterns stage resolved) {k : ℕ}
    (inside : k < patterns.length) : stage (k + 1) = (stage k).step facts (resolved k) := by
  have run := stages.join (k + 1)
  have before := stages.join k
  rw [joinPatterns] at run before
  rw [List.take_succ_eq_append_getElem inside, joinFrom_append, before, ok_bind,
    joinFrom_singleton (stages.resolves k inside)] at run
  exact (Except.ok.inj run).symm

/-- After some patterns the counters are the sums over them. -/
theorem AreStages.counters (stages : AreStages facts prefixes patterns stage resolved) {count : ℕ}
    (within : count ≤ patterns.length) :
    (stage count).joined = ∑ k ∈ Finset.range count, (stage (k + 1)).rows.length ∧
      (stage count).scanned = (stage count).joined + ∑ k ∈ Finset.range count,
        ((stage k).rows.flatMap ((resolved k).conflicting facts)).length := by
  induction count with
  | zero => simp [stages.start, Joined.start]
  | succ count inductionHypothesis =>
      obtain ⟨joined, scanned⟩ := inductionHypothesis (by omega)
      have step := stages.step (Nat.lt_of_succ_le within)
      rw [Finset.sum_range_succ, Finset.sum_range_succ, ← joined, step]
      refine ⟨rfl, ?_⟩
      have lookups := (resolved count).length_lookups facts (stage count).rows
      simp only [Joined.step]
      omega

/-! ## Patterns that repeat only what is known -/

/-- Where a pattern has a variable twice, a pattern in front of it has the variable too. -/
def RepeatsOnlyKnown (patterns : List TriplePattern) : Prop :=
  ∀ k (inside : k < patterns.length), ∀ name ∈ patterns[k].variableNames,
    1 < (patterns[k].positions.filterMap Node.variableOf?).count name →
      ∃ earlier ∈ patterns.take k, name ∈ earlier.variableNames

instance (patterns : List TriplePattern) : Decidable (RepeatsOnlyKnown patterns) :=
  inferInstanceAs (Decidable (∀ k (_ : k < patterns.length), ∀ name ∈ _, _ → _))

theorem AreStages.conflicting_eq_nil (stages : AreStages facts prefixes patterns stage resolved)
    (known : RepeatsOnlyKnown patterns) {k : ℕ} (inside : k < patterns.length) :
    (stage k).rows.flatMap ((resolved k).conflicting facts) = [] := by
  rw [List.flatMap_eq_nil_iff]
  intro row isRow
  rw [ResolvedPattern.conflicting, List.filter_eq_nil_iff]
  intro fact lookedUp conflict
  obtain ⟨name, unknown, repeated⟩ :=
    ResolvedPattern.repeats_of_conflicts lookedUp (of_decide_eq_true conflict)
  rw [ResolvedPattern.variables_ofPattern (stages.resolves k inside)] at repeated
  have mentioned : name ∈ patterns[k].variableNames :=
    List.mem_eraseDups.2 (List.count_pos_iff.1 (by omega))
  obtain ⟨earlier, before, has⟩ := known k inside name mentioned repeated
  have binds := binds_joinPatterns (stages.join k) row isRow
  obtain ⟨value, bound⟩ := binds.exists_value?_iff.2
    (List.mem_eraseDups.2 (List.mem_flatMap.2 ⟨earlier, before, has⟩))
  rw [unknown] at bound
  cases bound

end Stages

/-! ## The counters -/

/-- A join of patterns that can be matched adds to the joined rows the rows that the joins of the
first one, the first two and so on up to all patterns have, whether or not it ends early, and to the
scanned rows as many and the facts that were looked up and dropped for a conflict.  None is dropped
if each variable that a pattern repeats is known from an earlier one. -/
theorem joinPatterns_counters (facts : List Fact) (prefixes : PrefixTable)
    {patterns : List TriplePattern}
    (matchable : ∀ pattern ∈ patterns, pattern.isMatchable = true) :
    ∃ stage resolved joined, AreStages facts prefixes patterns stage resolved ∧
      joinPatterns facts prefixes patterns = .ok joined ∧
      (∀ stats : Stats,
        (stats.addJoin joined.scanned joined.joined).rowsJoined = stats.rowsJoined +
          (∑ k ∈ Finset.range patterns.length, (stage (k + 1)).rows.length : ℕ) ∧
        (stats.addJoin joined.scanned joined.joined).rowsScanned = stats.rowsScanned +
          (∑ k ∈ Finset.range patterns.length, (stage (k + 1)).rows.length : ℕ) +
          (∑ k ∈ Finset.range patterns.length,
            ((stage k).rows.flatMap ((resolved k).conflicting facts)).length : ℕ)) ∧
      (RepeatsOnlyKnown patterns → joined.scanned = joined.joined) := by
  obtain ⟨stage, resolved, stages⟩ := exists_areStages facts prefixes matchable
  obtain ⟨made, scanned⟩ := stages.counters le_rfl
  have join := stages.join patterns.length
  rw [List.take_length] at join
  refine ⟨stage, resolved, stage patterns.length, stages, join, fun stats => ⟨?_, ?_⟩,
    fun known => ?_⟩
  · rw [Stats.addJoin, made]
  · simp only [Stats.addJoin, scanned, made, Int.natCast_add, Int.add_assoc]
  · have nothing : ∑ k ∈ Finset.range patterns.length,
        ((stage k).rows.flatMap ((resolved k).conflicting facts)).length = 0 := by
      refine Finset.sum_eq_zero fun k inside => ?_
      rw [stages.conflicting_eq_nil known (Finset.mem_range.1 inside), List.length_nil]
    omega

/-- Two facts of three conflict with a pattern that begins and ends in the same variable, and a
third pattern leaves no row for the fourth.  The same pattern behind one that has its variable drops
none. -/
theorem joinPatterns_counters_repeated :
    let name : String → Node := fun text => .term (.variable text)
    let facts : List Fact := [⟨"a", "p", "a", none, none⟩, ⟨"a", "p", "b", none, none⟩,
      ⟨"b", "q", "c", none, none⟩]
    let loop : TriplePattern := ⟨name "x", name "p", name "x"⟩
    let ending : List TriplePattern := [loop, ⟨name "x", name "q", name "y"⟩,
      ⟨name "y", .term (.iri (.full "r")), name "z"⟩, ⟨name "z", name "z", name "z"⟩]
    let informed : List TriplePattern := [⟨name "x", .term (.iri (.full "p")), name "y"⟩, loop]
    (∀ pattern ∈ ending, pattern.isMatchable = true) ∧
      (∃ stage resolved joined, AreStages facts .empty ending stage resolved ∧
        joinPatterns facts .empty ending = .ok joined ∧ joined.joined = 3 ∧ joined.scanned = 5 ∧
        ∑ k ∈ Finset.range ending.length, (stage (k + 1)).rows.length = 3 ∧
        ∑ k ∈ Finset.range ending.length,
          ((stage k).rows.flatMap ((resolved k).conflicting facts)).length = 2) ∧
      (∀ pattern ∈ informed, pattern.isMatchable = true) ∧ RepeatsOnlyKnown informed ∧
      ∃ joined, joinPatterns facts .empty informed = .ok joined ∧ joined.joined = 4 ∧
        joined.scanned = joined.joined := by
  intro name facts loop ending informed
  have matchable : ∀ pattern ∈ ending, pattern.isMatchable = true := by decide
  have matchableToo : ∀ pattern ∈ informed, pattern.isMatchable = true := by decide
  have known : RepeatsOnlyKnown informed := by decide
  have counted : ∀ patterns numbers, (joinPatterns facts .empty patterns).toOption.map
      (fun joined => (joined.joined, joined.scanned)) = some numbers →
      ∀ joined, joinPatterns facts .empty patterns = .ok joined →
        joined.joined = numbers.1 ∧ joined.scanned = numbers.2 := by
    rintro patterns numbers evaluated joined run
    rw [run] at evaluated
    obtain rfl := Option.some.inj evaluated
    exact ⟨rfl, rfl⟩
  obtain ⟨stage, resolved, joined, stages, run, sums, -⟩ :=
    joinPatterns_counters facts .empty matchable
  obtain ⟨-, -, joinedToo, -, runToo, -, none⟩ := joinPatterns_counters facts .empty matchableToo
  obtain ⟨isJoined, isScanned⟩ := counted ending (3, 5) (by decide +kernel) joined run
  obtain ⟨isJoinedToo, -⟩ := counted informed (4, 4) (by decide +kernel) joinedToo runToo
  obtain ⟨rowsJoined, rowsScanned⟩ := sums {}
  simp only [Stats.addJoin, isJoined, isScanned] at rowsJoined rowsScanned
  exact ⟨matchable, ⟨stage, resolved, joined, stages, run, isJoined, isScanned, by omega, by omega⟩,
    matchableToo, known, joinedToo, runToo, isJoinedToo, none known⟩

end FactQuery
