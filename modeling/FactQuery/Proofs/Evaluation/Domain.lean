import FactQuery.Proofs.Evaluation.Rejection
import FactQuery.Proofs.OrderedMap
import FactQuery.Proofs.Order.StableSort

/-!
# The variables that rows bind

Every row of a join gives a value to the variables of the patterns and to no others, in the order in
which the patterns name them.  So a column of a result is either full or empty, and a filter misses
only variables that no pattern has.
-/

set_option autoImplicit false

namespace FactQuery

open FactQuery.Sparql FactQuery.Number

/-! ## Names in the order of first appearance -/

section Repetitions

variable {α : Type} [BEq α] [LawfulBEq α]

theorem eraseDups_eraseDups (items : List α) : items.eraseDups.eraseDups = items.eraseDups := by
  induction items using eraseDups_induction with
  | nil => rfl
  | cons item others inductionHypothesis =>
      rw [List.eraseDups_cons, List.eraseDups_cons, filter_eraseDups, List.filter_filter]
      simp only [Bool.and_self, inductionHypothesis]

theorem eraseDups_append_eraseDups (items others : List α) :
    (items ++ others.eraseDups).eraseDups = (items ++ others).eraseDups := by
  rw [List.eraseDups_append, List.eraseDups_append, List.removeAll, List.removeAll,
    ← filter_eraseDups, ← filter_eraseDups, eraseDups_eraseDups]

end Repetitions

theorem eraseDups_append_singleton (seen : List String) (name : String) :
    (seen ++ [name]).eraseDups =
      if name ∈ seen then seen.eraseDups else seen.eraseDups ++ [name] := by
  rw [List.eraseDups_append, List.removeAll]
  by_cases known : name ∈ seen <;> simp [known, List.eraseDups_cons]

/-! ## Rows of a join -/

/-- The row has a value for each of these variables and for no other, in this order. -/
structure Row.Binds (names : List String) (row : Row) : Prop where
  keys : row.keys = names
  values : ∀ name ∈ names, ∃ value, row.find? name = some (some value)

def ResolvedTerm.variableNames : ResolvedTerm → List String
  | .variable name => [name]
  | _ => []

theorem Row.binds_empty : Row.Binds [] .empty :=
  ⟨rfl, by simp⟩

theorem Row.Binds.write {seen : List String} {row : Row} (binds : row.Binds seen.eraseDups)
    (value : String) (term : ResolvedTerm) :
    (term.write value row).Binds (seen ++ term.variableNames).eraseDups := by
  cases term with
  | «variable» name =>
      have names := eraseDups_append_singleton seen name
      constructor
      · rw [ResolvedTerm.write, Row.bind, OrderedMap.keys_insert, binds.keys,
          ResolvedTerm.variableNames, names]
        simp only [List.mem_eraseDups]
      · intro other inside
        rw [ResolvedTerm.write, Row.bind, OrderedMap.find?_insert]
        by_cases same : other = name
        · exact ⟨value, if_pos same⟩
        · rw [if_neg same]
          refine binds.values other ?_
          simpa [ResolvedTerm.variableNames, same] using inside
  | _ => simpa [ResolvedTerm.write, ResolvedTerm.variableNames] using binds

theorem ResolvedTerm.variableNames_ofNode {prefixes : PrefixTable} {node : Node}
    {term : ResolvedTerm} (resolved : ResolvedTerm.ofNode prefixes node = .ok term) :
    term.variableNames = node.variableOf?.toList := by
  cases node with
  | term value =>
      cases value <;> cases resolved <;> rfl
  | _ => cases resolved

theorem ResolvedPattern.variables_ofPattern {prefixes : PrefixTable} {pattern : TriplePattern}
    {resolved : ResolvedPattern}
    (known : ResolvedPattern.ofPattern prefixes pattern = .ok resolved) :
    resolved.subject.variableNames ++ resolved.predicate.variableNames ++
        resolved.object.variableNames = pattern.positions.filterMap Node.variableOf? := by
  obtain ⟨subject, isSubject, known⟩ := bind_eq_ok_iff.mp known
  obtain ⟨predicate, isPredicate, known⟩ := bind_eq_ok_iff.mp known
  obtain ⟨object, isObject, known⟩ := bind_eq_ok_iff.mp known
  cases Except.ok.inj known
  rw [ResolvedTerm.variableNames_ofNode isSubject, ResolvedTerm.variableNames_ofNode isPredicate,
    ResolvedTerm.variableNames_ofNode isObject, Triple.positions,
    List.filterMap_eq_flatMap_toList]
  simp

theorem ResolvedPattern.variableNames_ofPattern {prefixes : PrefixTable} {pattern : TriplePattern}
    {resolved : ResolvedPattern}
    (known : ResolvedPattern.ofPattern prefixes pattern = .ok resolved) :
    (resolved.subject.variableNames ++ resolved.predicate.variableNames ++
        resolved.object.variableNames).eraseDups = pattern.variableNames := by
  rw [variables_ofPattern known, Triple.variableNames]

/-- One pattern adds its variables behind those that the rows have. -/
theorem binds_extend {pattern : ResolvedPattern} {seen : List String} {row next : Row} {fact : Fact}
    (binds : row.Binds seen.eraseDups) (extended : pattern.extend row fact = some next) :
    next.Binds (seen ++ (pattern.subject.variableNames ++ pattern.predicate.variableNames ++
      pattern.object.variableNames)).eraseDups := by
  obtain ⟨first, subjectBound, extended⟩ := Option.bind_eq_some_iff.1 extended
  obtain ⟨second, predicateBound, objectBound⟩ := Option.bind_eq_some_iff.1 extended
  rw [ResolvedTerm.bindTo_eq_write objectBound, ResolvedTerm.bindTo_eq_write predicateBound,
    ResolvedTerm.bindTo_eq_write subjectBound, ← List.append_assoc, ← List.append_assoc]
  exact ((binds.write _ _).write _ _).write _ _

theorem binds_step {facts : List Fact} {prefixes : PrefixTable} {stage : Joined}
    {pattern : TriplePattern} {resolved : ResolvedPattern} {seen : List String}
    (known : ResolvedPattern.ofPattern prefixes pattern = .ok resolved)
    (bind : ∀ row ∈ stage.rows, row.Binds seen.eraseDups) :
    ∀ row ∈ (stage.step facts resolved).rows,
      row.Binds (seen ++ pattern.variableNames).eraseDups := by
  intro next inside
  obtain ⟨row, before, continued⟩ := List.mem_flatMap.1 inside
  obtain ⟨fact, -, extended⟩ := List.mem_filterMap.1 continued
  have binds := binds_extend (bind row before) extended
  rwa [← eraseDups_append_eraseDups, ResolvedPattern.variableNames_ofPattern known] at binds

/-- From a stage on, the rows come to have the variables of the patterns that follow.  Where the
join ends early there is no row. -/
theorem binds_joinFrom {facts : List Fact} {prefixes : PrefixTable} {stage joined : Joined}
    {patterns : List TriplePattern} {seen : List String}
    (bind : ∀ row ∈ stage.rows, row.Binds seen.eraseDups)
    (run : joinFrom facts prefixes stage patterns = .ok joined) :
    ∀ row ∈ joined.rows, row.Binds (seen ++ patterns.flatMap Triple.variableNames).eraseDups := by
  induction patterns generalizing stage seen with
  | nil =>
      cases Except.ok.inj run
      simpa using bind
  | cons pattern others inductionHypothesis =>
      unfold joinFrom at run
      split at run
      · rename_i noRow
        cases Except.ok.inj run
        simp [List.isEmpty_iff.1 noRow]
      · obtain ⟨resolved, known, later⟩ := bind_eq_ok_iff.mp run
        rw [List.flatMap_cons, ← List.append_assoc]
        exact inductionHypothesis (binds_step known bind) later

theorem binds_joinPatterns {facts : List Fact} {prefixes : PrefixTable} {joined : Joined}
    {patterns : List TriplePattern} (run : joinPatterns facts prefixes patterns = .ok joined) :
    ∀ row ∈ joined.rows, row.Binds (patterns.flatMap Triple.variableNames).eraseDups := by
  have start : ∀ row ∈ Joined.start.rows, row.Binds ([] : List String).eraseDups :=
    fun row inside => List.mem_singleton.1 inside ▸ Row.binds_empty
  exact binds_joinFrom start run

/-! ## Faults -/

theorem Sparql.Node.termFault_ne_unbound (node : Node) (name : String) :
    Fault.query (.unboundVariable name) ≠ node.termFault := by
  unfold Node.termFault
  split <;> nofun

theorem Filter.value?_of_operandFails {row : Row} {node : Node} {name : String}
    (fails : OperandFails row node (.query (.unboundVariable name))) :
    Row.value? row name = none := by
  generalize same : Fault.query (.unboundVariable name) = fault at fails
  cases fails with
  | unbound free =>
      cases same
      exact free
  | unsupported noComparand =>
      unfold Node.operandFault at same
      split at same <;> cases same

theorem Filter.value?_of_conditionFails {row : Row} {condition : Node} {name : String}
    (fails : ConditionFails row condition (.query (.unboundVariable name))) :
    Row.value? row name = none := by
  cases fails with
  | left _ fails => exact value?_of_operandFails fails
  | right _ _ fails => exact value?_of_operandFails fails

theorem Order.sort_cases (conditions : List OrderCondition) (rows : List Row) :
    Order.sort conditions rows = .ok (rows.mergeSort (Order.comesFirst conditions)) ∨
      ∃ error, Order.sort conditions rows = .error (.numeral error) := by
  unfold Order.sort
  split
  · cases Order.firstFault conditions rows with
    | ok value => exact Or.inl rfl
    | error error => exact Or.inr ⟨error, rfl⟩
  · exact Or.inl rfl

/-! ## Rows of a result -/

theorem Row.Binds.exists_value?_iff {names : List String} {row : Row} (binds : row.Binds names)
    {name : String} : (∃ value, Row.value? row name = some value) ↔ name ∈ names := by
  constructor
  · rintro ⟨value, found⟩
    by_contra outside
    rw [← binds.keys] at outside
    rw [Row.value?, OrderedMap.find?_eq_none_of_not_mem outside] at found
    cases found
  · intro inside
    obtain ⟨value, found⟩ := binds.values name inside
    exact ⟨value, by rw [Row.value?, found, Option.join_some]⟩

theorem mem_of_mem_takeRows {α : Type} {count : Int} {rows : List α} {row : α}
    (inside : row ∈ takeRows count rows) : row ∈ rows := by
  unfold takeRows at inside
  split at inside <;> exact List.mem_of_mem_take inside

theorem mem_of_mem_dropRows {α : Type} {count : Int} {rows : List α} {row : α}
    (inside : row ∈ dropRows count rows) : row ∈ rows := by
  unfold dropRows at inside
  split at inside <;> exact List.mem_of_mem_drop inside

theorem mem_of_mem_page {α : Type} {select : Select} {rows : List α} {row : α}
    (inside : row ∈ select.page rows) : row ∈ rows := by
  unfold Select.page at inside
  dsimp only at inside
  split at inside
  · exact mem_of_mem_dropRows (mem_of_mem_takeRows inside)
  · exact mem_of_mem_dropRows inside

theorem mem_of_mem_thinOut {select : Select} {rows : List Row} {row : Row}
    (inside : row ∈ select.thinOut rows) : row ∈ rows := by
  have paged := mem_of_mem_page inside
  split at paged
  · exact List.mem_eraseDups.1 paged
  · exact paged

theorem mem_of_mem_sort {conditions : List OrderCondition} {rows sorted : List Row} {row : Row}
    (ordered : Order.sort conditions rows = .ok sorted) (inside : row ∈ sorted) : row ∈ rows := by
  rcases Order.sort_cases conditions rows with merged | ⟨error, fails⟩
  · rw [← Except.ok.inj (merged.symm.trans ordered)] at inside
    exact (List.mergeSort_perm rows _).mem_iff.1 inside
  · rw [fails] at ordered
    cases ordered

/-- Every row of a result shows a row of the join. -/
theorem exists_shown {facts : List Fact} {prefixes : PrefixTable} {select : Select}
    {result : QueryResult} (run : execute facts ⟨prefixes, .select select⟩ = .ok result) {row : Row}
    (inside : row ∈ result.rows) :
    ∃ found : Row, found.Binds (variablesOf select.group) ∧
      row = Row.project select.shown found := by
  obtain ⟨-, joined, kept, sorted, join, filtered, ordered, rows⟩ := stages_of_execute run
  rw [rows] at inside
  have shown := mem_of_mem_sort ordered (mem_of_mem_thinOut inside)
  obtain ⟨found, isKept, rfl⟩ := List.mem_map.1 shown
  obtain ⟨-, rfl⟩ := Filter.apply_eq_ok_iff.1 filtered
  exact ⟨found, binds_joinPatterns join found (List.mem_of_mem_filter isKept), rfl⟩

theorem find?_project {names : List String} {row : Row} {name : String} (requested : name ∈ names) :
    (Row.project names row).find? name = some (Row.value? row name) :=
  OrderedMap.find?_ofList_map (Row.value? row) requested

theorem variableNames_of_execute {facts : List Fact} {prefixes : PrefixTable} {select : Select}
    {result : QueryResult} (run : execute facts ⟨prefixes, .select select⟩ = .ok result) :
    result.variableNames = select.shown := by
  obtain ⟨plan, -, run⟩ := bind_eq_ok_iff.mp run
  obtain ⟨joined, -, run⟩ := bind_eq_ok_iff.mp run
  obtain ⟨kept, -, run⟩ := bind_eq_ok_iff.mp run
  obtain ⟨sorted, -, run⟩ := bind_eq_ok_iff.mp run
  rw [← Except.ok.inj run]

/-- A column is full or empty, as its variable is in the patterns or not. -/
theorem columns_of_execute {facts : List Fact} {prefixes : PrefixTable} {select : Select}
    {result : QueryResult} (run : execute facts ⟨prefixes, .select select⟩ = .ok result)
    {name : String} (requested : name ∈ select.shown) :
    (name ∈ variablesOf select.group ∧
        ∀ row ∈ result.rows, ∃ value, row.find? name = some (some value)) ∨
      (name ∉ variablesOf select.group ∧ ∀ row ∈ result.rows, row.find? name = some none) := by
  by_cases known : name ∈ variablesOf select.group
  · refine Or.inl ⟨known, fun row inside => ?_⟩
    obtain ⟨found, binds, rfl⟩ := exists_shown run inside
    obtain ⟨value, bound⟩ := binds.exists_value?_iff.2 known
    exact ⟨value, by rw [find?_project requested, bound]⟩
  · refine Or.inr ⟨known, fun row inside => ?_⟩
    obtain ⟨found, binds, rfl⟩ := exists_shown run inside
    have absent : Row.value? found name = none := by
      rw [Option.eq_none_iff_forall_ne_some]
      exact fun value bound => known (binds.exists_value?_iff.1 ⟨value, bound⟩)
    rw [find?_project requested, absent]

theorem full_of_selectsAll {facts : List Fact} {prefixes : PrefixTable} {select : Select}
    {result : QueryResult} (run : execute facts ⟨prefixes, .select select⟩ = .ok result)
    (selectsAll : select.selectsAll = true) {row : Row} (inside : row ∈ result.rows)
    {pair : String × Option String} (held : pair ∈ row.pairs) : pair.2 ≠ none := by
  obtain ⟨found, binds, rfl⟩ := exists_shown run inside
  obtain ⟨name, requested, rfl⟩ := List.mem_map.1 (OrderedMap.mem_of_mem_ofList held)
  rw [Select.shown, if_pos selectsAll] at requested
  obtain ⟨value, bound⟩ := binds.exists_value?_iff.2 requested
  rw [bound]
  exact Option.some_ne_none value

/-- The fault of a missing variable comes from a filter, over a row of the join. -/
theorem not_mem_of_execute {facts : List Fact} {prefixes : PrefixTable} {select : Select}
    {name : String} (fails : execute facts ⟨prefixes, .select select⟩ =
      .error (.query (.unboundVariable name))) : name ∉ variablesOf select.group := by
  rcases execute_eq_error_cases fails with blamed | ⟨-, joined, kept, -, -, fails⟩
  · cases blamed with
    | entry inside failing => cases failing.2
    | term inside position failing => exact absurd failing.2 (Node.termFault_ne_unbound _ name)
    | condition join found inside failing =>
        intro known
        obtain ⟨value, bound⟩ := (binds_joinPatterns join _ found).exists_value?_iff.2 known
        rw [Filter.value?_of_conditionFails failing] at bound
        cases bound
  · rcases Order.sort_cases select.order (kept.map (Row.project select.shown)) with
      merged | ⟨error, numeral⟩
    · rw [merged] at fails
      cases fails
    · rw [numeral] at fails
      cases fails

theorem exists_joinFrom (facts : List Fact) (prefixes : PrefixTable) (stage : Joined)
    {patterns : List TriplePattern}
    (matchable : ∀ pattern ∈ patterns, pattern.isMatchable = true) :
    ∃ joined, joinFrom facts prefixes stage patterns = .ok joined := by
  induction patterns generalizing stage with
  | nil => exact ⟨stage, rfl⟩
  | cons pattern others inductionHypothesis =>
      rw [List.forall_mem_cons] at matchable
      unfold joinFrom
      split
      · exact ⟨stage, rfl⟩
      · obtain ⟨resolved, known⟩ := (ResolvedPattern.exists_ofPattern_iff prefixes).2 matchable.1
        rw [known]
        exact inductionHypothesis _ matchable.2

/-- Whatever the facts, every row of a join of patterns has the variables of the patterns as its
keys, in the order in which they first come, and a value for each.  So a requested variable has a
value in every row of a result or in none, SELECT * has no empty place, and only a variable outside
the patterns is missed by a filter. -/
theorem rows_bind_pattern_variables (facts : List Fact) (prefixes : PrefixTable) :
    (∀ patterns : List TriplePattern, (∀ pattern ∈ patterns, pattern.isMatchable = true) →
      ∃ joined, joinPatterns facts prefixes patterns = .ok joined ∧
        ∀ row ∈ joined.rows, row.Binds (variablesOf [.triples patterns])) ∧
    ∀ select : Select,
      (∀ result, execute facts ⟨prefixes, .select select⟩ = .ok result →
        (∀ name ∈ result.variableNames,
          (name ∈ variablesOf select.group ∧
            ∀ row ∈ result.rows, ∃ value, row.find? name = some (some value)) ∨
          (name ∉ variablesOf select.group ∧
            ∀ row ∈ result.rows, row.find? name = some none)) ∧
        (select.selectsAll = true → ∀ row ∈ result.rows, ∀ pair ∈ row.pairs, pair.2 ≠ none)) ∧
      ∀ name, execute facts ⟨prefixes, .select select⟩ =
        .error (.query (.unboundVariable name)) → name ∉ variablesOf select.group := by
  refine ⟨fun patterns matchable => ?_, fun select => ⟨fun result run => ⟨?_, ?_⟩, ?_⟩⟩
  · obtain ⟨joined, join⟩ := exists_joinFrom facts prefixes .start matchable
    refine ⟨joined, join, ?_⟩
    have alone : patternsOf [.triples patterns] = patterns := by
      simp [patternsOf, Node.patterns]
    rw [variablesOf, alone]
    exact binds_joinPatterns join
  · intro name requested
    rw [variableNames_of_execute run] at requested
    exact columns_of_execute run requested
  · intro selectsAll row inside pair held
    exact full_of_selectsAll run selectsAll inside held
  · intro name fails
    exact not_mem_of_execute fails

/-- Over a fact with an empty component: the row of a join, the row of a result, and the fault of a
filter on a variable that no pattern has. -/
theorem rows_bind_pattern_variables_empty_text :
    let facts : List Fact := [⟨"a", "p", "", none, none⟩]
    let pattern : TriplePattern :=
      ⟨.term (.variable "y"), .term (.iri (.full "p")), .term (.variable "x")⟩
    let condition : Node := .binary "=" (.term (.variable "z")) (.term (.variable "x"))
    let select : Select := { variableNames := ["x", "z"], group := [.triples [pattern]] }
    let filtered : Select := { select with group := [.triples [pattern], .filter condition] }
    (∃ joined, joinPatterns facts .empty [pattern] = .ok joined ∧
      joined.rows = [.ofList [("y", some "a"), ("x", some "")]] ∧
      ∀ row ∈ joined.rows, row.Binds ["y", "x"]) ∧
    (∃ result, execute facts ⟨.empty, .select select⟩ = .ok result ∧
      result.rows = [.ofList [("x", some ""), ("z", none)]] ∧
      (∀ row ∈ result.rows, ∃ value, row.find? "x" = some (some value)) ∧
      ∀ row ∈ result.rows, row.find? "z" = some none) ∧
    execute facts ⟨.empty, .select filtered⟩ = .error (.query (.unboundVariable "z")) ∧
      "z" ∉ variablesOf filtered.group := by
  intro facts pattern condition select filtered
  have matchable : ∀ other ∈ [pattern], Triple.isMatchable other = true := by decide
  have fails : execute facts ⟨.empty, .select filtered⟩ = .error (.query (.unboundVariable "z")) :=
    rfl
  refine ⟨?_, ?_, fails, ((rows_bind_pattern_variables facts .empty).2 filtered).2 "z" fails⟩
  · obtain ⟨joined, join, binds⟩ :=
      (rows_bind_pattern_variables facts .empty).1 [pattern] matchable
    refine ⟨joined, join, ?_, binds⟩
    rw [← Except.ok.inj join]
    rfl
  · obtain ⟨result, run, rows⟩ : ∃ result, execute facts ⟨.empty, .select select⟩ = .ok result ∧
        result.rows = [.ofList [("x", some ""), ("z", none)]] := ⟨_, rfl, by decide +kernel⟩
    have columns := (((rows_bind_pattern_variables facts .empty).2 select).1 result run).1
    rw [variableNames_of_execute run] at columns
    refine ⟨result, run, rows, ?_, ?_⟩
    · rcases columns "x" (by decide) with ⟨-, full⟩ | ⟨outside, -⟩
      · exact full
      · exact absurd (by decide) outside
    · rcases columns "z" (by decide) with ⟨inside, -⟩ | ⟨-, empty⟩
      · exact absurd inside (by decide)
      · exact empty

end FactQuery
