import FactQuery.Proofs.Evaluation.Faults
import FactQuery.Proofs.Join.BruteForce
import FactQuery.Proofs.Store.Lifecycle
import FactQuery.Proofs.TripleText.Document
import FactQuery.Proofs.TripleText.Query

/-!
# Data and queries agree on terms

A query whose group is one pattern without variables gives an empty row for each fact with the texts
of the pattern.  The fact that a written triple states has the texts that the same triple has as a
pattern, if each label stands for the same IRI on both sides, and so it is found once.
-/

set_option autoImplicit false

namespace FactQuery

open FactQuery.Sparql

/-! ## Patterns without variables -/

theorem ResolvedTerm.demand_of_constant {term : ResolvedTerm} (constant : term.isVariable = false)
    (row : Row) : term.demand row = some term.value := by
  cases term with
  | «variable» name => cases constant
  | identifier value => rfl
  | literal value datatype language => rfl

theorem ResolvedTerm.bindTo_of_constant {term : ResolvedTerm} (constant : term.isVariable = false)
    (value : String) (row : Row) : term.bindTo value row = some row := by
  cases term with
  | «variable» name => cases constant
  | identifier value => rfl
  | literal value datatype language => rfl

structure ResolvedPattern.IsConstant (pattern : ResolvedPattern) : Prop where
  subject : pattern.subject.isVariable = false
  predicate : pattern.predicate.isVariable = false
  object : pattern.object.isVariable = false

theorem ResolvedPattern.continuations_of_constant {pattern : ResolvedPattern}
    (constant : pattern.IsConstant) (facts : List Fact) (row : Row) :
    pattern.continuations facts row =
      (matchFacts facts (some pattern.subject.value) (some pattern.predicate.value)
        (some pattern.object.value)).map fun _ => row := by
  have kept : ∀ fact, pattern.extend row fact = some row := by
    intro fact
    simp [ResolvedPattern.extend, ResolvedTerm.bindTo_of_constant constant.subject,
      ResolvedTerm.bindTo_of_constant constant.predicate,
      ResolvedTerm.bindTo_of_constant constant.object]
  rw [ResolvedPattern.continuations, ResolvedPattern.candidates,
    ResolvedTerm.demand_of_constant constant.subject,
    ResolvedTerm.demand_of_constant constant.predicate,
    ResolvedTerm.demand_of_constant constant.object, List.filterMap_congr fun fact _ => kept fact]
  simp

/-- Such a pattern alone, with all that it binds requested, gives a row without columns for each of
its facts. -/
theorem execute_constant (facts : List Fact) {prefixes : PrefixTable} {pattern : TriplePattern}
    {resolved : ResolvedPattern}
    (resolves : ResolvedPattern.ofPattern prefixes pattern = .ok resolved)
    (constant : resolved.IsConstant) (unnamed : pattern.variableNames = []) :
    ∃ result, execute facts ⟨prefixes, .select
        { variableNames := [], group := [.triples [pattern]] }⟩ = .ok result ∧
      result.rows = (matchFacts facts (some resolved.subject.value)
        (some resolved.predicate.value) (some resolved.object.value)).map fun _ => .empty := by
  have joins : ∃ joined, joinPatterns facts prefixes [pattern] = .ok joined ∧
      joined.rows = resolved.continuations facts .empty := joinPatterns_single resolves
  obtain ⟨joined, run, rows⟩ := joins
  rw [ResolvedPattern.continuations_of_constant constant] at rows
  have unnamedShown : Select.shown { variableNames := [], group := [.triples [pattern]] } = [] := by
    simp [Select.shown, Select.selectsAll, variablesOf, patternsOf, Node.patterns, unnamed]
  have planned : planOf [.triples [pattern]] = .ok ([pattern], []) := rfl
  obtain ⟨result, success, sorted⟩ := @exists_run facts prefixes
    { variableNames := [], group := [.triples [pattern]] } _ _ _ _ planned run
    (apply_nil joined.rows) (sort_nil _)
  refine ⟨result, success, ?_⟩
  rw [sorted, thinOut_unmodified ⟨rfl, rfl, rfl, rfl⟩, unnamedShown, rows, List.map_map]
  rfl

namespace TripleText

/-! ## The pattern of a written triple -/

theorem ofNode_asTerm (prefixes : PrefixTable) (object : ObjectText) :
    ∃ resolved, ResolvedTerm.ofNode prefixes (.term object.asTerm) = .ok resolved ∧
      resolved.isVariable = false ∧ resolved.value = object.value prefixes := by
  cases object <;> exact ⟨_, rfl, rfl, rfl⟩

theorem variableNames_asPattern (statement : Statement) :
    statement.asPattern.variableNames = [] := by
  obtain ⟨subject, verb, object⟩ := statement
  cases object <;> rfl

/-- The query has a row for each fact with the texts that the triple states. -/
theorem execute_patternQuery (facts : List Fact) (declared : List (String × String))
    (statement : Statement) :
    ∃ result, execute facts (patternQuery declared statement) = .ok result ∧
      result.rows = (matchFacts facts (some (statement.fact (.ofList declared)).subject)
        (some (statement.fact (.ofList declared)).predicate)
        (some (statement.fact (.ofList declared)).object)).map fun _ => .empty := by
  obtain ⟨object, resolves, constant, value⟩ := ofNode_asTerm (.ofList declared) statement.object
  have pattern : ResolvedPattern.ofPattern (.ofList declared) statement.asPattern =
      .ok ⟨.identifier (statement.subject.expand (.ofList declared)),
        .identifier (statement.verb.asName.expand (.ofList declared)), object⟩ := by
    simp only [ResolvedPattern.ofPattern, Statement.asPattern, Triple.map, resolves]
    rfl
  have found := execute_constant facts pattern ⟨rfl, rfl, constant⟩
    (variableNames_asPattern statement)
  rw [value] at found
  exact found

/-! ## Tables that agree -/

section Tables

variable {first second : PrefixTable} (same : ∀ label, first.find? label = second.find? label)
include same

theorem expand_congr (name : Iri) : name.expand first = name.expand second := by
  cases name with
  | full value => rfl
  | «prefixed» label localPart => simp only [Iri.expand, same]

theorem isKnown_congr (name : Iri) : IsKnown first name ↔ IsKnown second name := by
  cases name with
  | full value => exact Iff.rfl
  | «prefixed» label localPart =>
      simp only [IsKnown, Iri.isDeclared, Iri.label?, Option.all_some, OrderedMap.contains, same]

theorem Statement.IsValid.congr {statement : Statement} (valid : statement.IsValid first) :
    statement.IsValid second := by
  obtain ⟨subject, verb, object⟩ := statement
  obtain ⟨isSubject, isVerb, isObject, notDirective⟩ := valid
  refine ⟨(isKnown_congr same subject).1 isSubject, ?_, ?_, notDirective⟩
  · cases verb with
    | resource name => exact (isKnown_congr same name).1 isVerb
    | a => trivial
  · cases object with
    | resource name => exact (isKnown_congr same name).1 isObject
    | quoted string suffix =>
        exact ⟨isObject.1, isObject.2.1, fun name typed =>
          (isKnown_congr same name).1 (isObject.2.2 name typed)⟩
    | number numeral => exact isObject
    | truth value => trivial

theorem fact_congr (statement : Statement) : statement.fact first = statement.fact second := by
  obtain ⟨subject, verb, object⟩ := statement
  have sameValue : object.value first = object.value second := by
    cases object with
    | resource name => exact expand_congr same name
    | _ => rfl
  simp only [Statement.fact, expand_congr same, sameValue, funext (expand_congr same)]

end Tables

/-! ## Loading and asking -/

theorem matchFacts_self (fact : Fact) :
    matchFacts [fact] (some fact.subject) (some fact.predicate) (some fact.object) = [fact] := by
  simp [matchFacts]

theorem loadData_documentText {directives : List Directive} {statement : Statement}
    (good : ∀ directive ∈ directives, IsDeclaration directive.pair)
    (valid : statement.IsValid (.ofList (directives.map Directive.pair))) :
    ∃ engine, Engine.start.loadData (some (documentText directives statement)) = (.ok 1, engine) ∧
      engine.store = ⟨[statement.fact (.ofList (directives.map Directive.pair))], [], .ready⟩ ∧
      engine.maxResults = none := by
  have told := tell_documentText good valid 0
  have stream : Store.streamOf (Turtle.tell 0 (documentText directives statement)) =
      [.yield (statement.fact (.ofList (directives.map Directive.pair)))] := by
    rw [told]
    rfl
  refine ⟨⟨⟨[statement.fact (.ofList (directives.map Directive.pair))], [], .ready⟩, none, none⟩,
    ?_, rfl, rfl⟩
  simp only [Engine.loadData, Engine.documentOf, Store.streamOfReading, stream]
  rfl

/-- A triple that has been loaded is found by a query for it: the document stores one fact, and the
same text between the braces of a query gives one row, without columns, if each label stands for the
same IRI on both sides. -/
theorem run_finds_loaded {directives : List Directive} {declared : List (String × String)}
    {statement : Statement}
    (areDirectives : ∀ directive ∈ directives, IsDeclaration directive.pair)
    (areDeclarations : ∀ pair ∈ declared, IsDeclaration pair)
    (same : ∀ label, (OrderedMap.ofList (directives.map Directive.pair)).find? label =
      (OrderedMap.ofList declared).find? label)
    (valid : statement.IsValid (.ofList declared)) :
    ∃ engine result,
      Engine.start.loadData (some (documentText directives statement)) = (.ok 1, engine) ∧
        engine.store.contents = [statement.fact (.ofList declared)] ∧
        engine.run (queryText declared statement) = .ok result ∧ result.rows = [.empty] := by
  have validData : statement.IsValid (.ofList (directives.map Directive.pair)) :=
    Statement.IsValid.congr (fun label => (same label).symm) valid
  obtain ⟨engine, loaded, store, unlimited⟩ := loadData_documentText areDirectives validData
  rw [fact_congr same] at store
  have contents : engine.store.contents = [statement.fact (.ofList declared)] := by
    rw [store]
    rfl
  have ready : engine.store.isReady = true := by
    rw [store]
    rfl
  obtain ⟨result, executed, rows⟩ := execute_patternQuery [statement.fact (.ofList declared)]
    declared statement
  rw [matchFacts_self] at rows
  refine ⟨engine, { result with rows := Engine.cutRows engine.maxResults result.rows }, loaded,
    contents, ?_, ?_⟩
  · rw [Engine.run_of_ofText ready (ofText_queryText areDeclarations valid), contents, executed]
    rfl
  · rw [unlimited, rows]
    rfl

/-- A long string with quotes and escapes in it, typed by a name without a label. -/
def sampleStatement : Statement where
  subject := .prefixed "ex" "s.1"
  verb := .a
  object := .quoted ⟨.long '\x22',
    [(0, .plain 'a'), (2, .letter 'n' '\n'), (0, .code ['0', '0', 'e', '9'] 'é')]⟩
    (some (.datatype (.prefixed "" "t")))

example : documentText [.marked ("", "http://d.org/"), .worded ("ex", "http://e.org/")]
    sampleStatement = "@prefix : <http://d.org/> .\nPREFIX ex: <http://e.org/>\n" ++
      "ex:s.1 a \"\"\"a\"\"\\n\\u00e9\"\"\"^^:t ." := by
  decide +kernel

theorem run_finds_loaded_string :
    let directives : List Directive :=
      [.marked ("", "http://d.org/"), .worded ("ex", "http://e.org/")]
    let declared : List (String × String) := [("ex", "http://e.org/"), ("", "http://d.org/")]
    (∀ directive ∈ directives, IsDeclaration directive.pair) ∧
      (∀ pair ∈ declared, IsDeclaration pair) ∧
      (∀ label, (OrderedMap.ofList (directives.map Directive.pair)).find? label =
        (OrderedMap.ofList declared).find? label) ∧
      sampleStatement.IsValid (.ofList declared) ∧
      ∃ engine result,
        Engine.start.loadData (some (documentText directives sampleStatement)) = (.ok 1, engine) ∧
          engine.store.contents = [sampleStatement.fact (.ofList declared)] ∧
          engine.run (queryText declared sampleStatement) = .ok result ∧
          result.rows = [.empty] := by
  intro directives declared
  have areDirectives : ∀ directive ∈ directives, IsDeclaration directive.pair := by decide +kernel
  have areDeclarations : ∀ pair ∈ declared, IsDeclaration pair := by decide +kernel
  have same : ∀ label, (OrderedMap.ofList (directives.map Directive.pair)).find? label =
      (OrderedMap.ofList declared).find? label := by
    intro label
    simp only [directives, declared, OrderedMap.ofList, List.map_cons, List.map_nil,
      List.foldl_cons, List.foldl_nil, Directive.pair, OrderedMap.find?_insert,
      OrderedMap.find?_empty]
    split <;> split <;> simp_all
  have valid : sampleStatement.IsValid (.ofList declared) := by
    refine ⟨⟨⟨by decide, by decide⟩, by decide⟩, trivial,
      ⟨⟨by decide, by decide, by decide⟩, ?_, ?_⟩, ?_⟩
    · rintro tag ⟨⟩
    · rintro name ⟨⟩
      exact ⟨⟨by decide, by decide⟩, by decide⟩
    · rintro ⟨label, named, _⟩
      exact absurd (Iri.prefixed.inj named).2 (by decide)
  exact ⟨areDirectives, areDeclarations, same, valid,
    run_finds_loaded areDirectives areDeclarations same valid⟩

end TripleText

end FactQuery
