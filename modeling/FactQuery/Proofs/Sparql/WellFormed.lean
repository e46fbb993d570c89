import FactQuery.Proofs.OrderedMap
import FactQuery.Proofs.Sparql.Operand
import FactQuery.Sparql.Reading

/-!
# What every parsed query looks like

Runs of triple patterns are neither empty nor next to each other, names are such as their tokens can
hold, and counts are natural numbers.
-/

set_option autoImplicit false

namespace FactQuery.Sparql

open FactQuery.Grammar FactQuery.Token

/-! ## Groups -/

def IsPattern (pattern : Triple Term) : Prop :=
  pattern.subject.IsWellFormed ∧ pattern.predicate.IsVerb ∧ pattern.object.IsWellFormed

/-- A run of patterns is not empty, and a filter is made of operands. -/
def Node.IsEntry : Node → Prop
  | .triples patterns =>
    patterns ≠ [] ∧ ∀ pattern ∈ patterns, ∃ terms, IsPattern terms ∧ pattern = terms.map Node.term
  | .filter condition => condition.HoldsOperands
  | _ => True

def Node.isRun : Node → Bool
  | .triples _ => true
  | _ => false

def IsMerged : Group → Prop
  | [] => True
  | first :: others => (first.isRun = true → (others.head?.any Node.isRun) = false) ∧ IsMerged others

theorem predicateObjects_yields : Yields predicateObjects fun pairs =>
    pairs ≠ [] ∧ ∀ pair ∈ pairs, pair.1.IsVerb ∧ pair.2.IsWellFormed := by
  have objects : Yields (Parser.separated1 (symbol ",") graphTerm) fun terms =>
      terms ≠ [] ∧ ∀ term ∈ terms, term.IsWellFormed := graphTerm_yields.separated1
  refine verb_yields.bind fun predicate isVerb => objects.bind fun terms areTerms => ?_
  refine Yields.pure ⟨by simpa using areTerms.1, ?_⟩
  intro pair inside
  obtain ⟨object, known, rfl⟩ := List.mem_map.1 inside
  exact ⟨isVerb, areTerms.2 object known⟩

theorem triplesSameSubject_yields : Yields triplesSameSubject fun patterns =>
    (Node.triples patterns).IsEntry := by
  refine graphTerm_yields.bind fun subject isSubject => ?_
  refine predicateObjects_yields.bind fun first areFirst => ?_
  have item : Yields (do symbol ";"; Parser.optional predicateObjects) fun group =>
      ∀ pairs, group = some pairs → pairs ≠ [] ∧
        ∀ pair ∈ pairs, pair.1.IsVerb ∧ pair.2.IsWellFormed :=
    Yields.after fun _ => predicateObjects_yields.optional
  refine item.many.bind fun others areOthers => Yields.pure ⟨?_, ?_⟩
  · simp [areFirst.1]
  · intro pattern inside
    obtain ⟨pair, known, rfl⟩ := List.mem_map.1 inside
    have good : pair.1.IsVerb ∧ pair.2.IsWellFormed := by
      rcases List.mem_append.1 known with inFirst | inOthers
      · exact areFirst.2 pair inFirst
      · obtain ⟨group, isOther, inGroup⟩ := List.mem_flatMap.1 inOthers
        cases group with
        | none => simp at inGroup
        | some pairs => exact (areOthers _ isOther pairs rfl).2 pair inGroup
    exact ⟨⟨subject, pair.1, pair.2⟩, ⟨isSubject, good.1, good.2⟩, rfl⟩

theorem filterClause_yields : Yields filterClause Node.IsEntry := by
  have condition : Yields (Parser.firstOf [parenthesised expression, functionCall expression])
      Node.HoldsOperands := by
    refine Yields.firstOf ?_
    simp only [List.forall_mem_cons]
    exact ⟨parenthesised_yields expression_ensures, functionCall_yields expression, by simp⟩
  exact Yields.after fun _ => condition.bind fun _ holds => Yields.after fun _ =>
    Yields.pure holds

theorem entry_yields (inner : Parser Group) : Yields (entry inner) Node.IsEntry := by
  refine Yields.firstOf ?_
  simp only [List.forall_mem_cons]
  refine ⟨filterClause_yields, ?_, ?_, ?_, by simp⟩
  · exact Yields.after fun _ => Yields.after fun _ => Yields.after fun _ => Yields.pure trivial
  · refine Yields.after fun alternatives => Yields.after fun _ => ?_
    split
    · exact Yields.pure trivial
    · exact Yields.pure trivial
  · exact triplesSameSubject_yields.bind fun _ isEntry => Yields.after fun _ =>
      Yields.pure isEntry

theorem eq_triples_of_isRun {entry : Node} (isRun : entry.isRun = true) :
    ∃ patterns, entry = .triples patterns := by
  cases entry with
  | triples patterns => exact ⟨patterns, rfl⟩
  | _ => contradiction

theorem mergeRuns_cons {first : Node} (notRun : first.isRun = false) (others : List Node) :
    mergeRuns (first :: others) = first :: mergeRuns others := by
  cases first with
  | triples patterns => contradiction
  | _ => rfl

/-- Merging keeps what holds of every entry, if it holds of a run made of two. -/
theorem mergeRuns_keeps {good : Node → Prop}
    (joins : ∀ patterns more, good (.triples patterns) → good (.triples more) →
      good (.triples (patterns ++ more)))
    {entries : List Node} (areGood : ∀ entry ∈ entries, good entry) :
    ∀ entry ∈ mergeRuns entries, good entry := by
  induction entries with
  | nil => simp [mergeRuns]
  | cons first others inductionHypothesis =>
      rw [List.forall_mem_cons] at areGood
      obtain ⟨isGood, areOthers⟩ := areGood
      have later := inductionHypothesis areOthers
      cases kind : first.isRun with
      | false =>
          rw [mergeRuns_cons kind, List.forall_mem_cons]
          exact ⟨isGood, later⟩
      | true =>
          obtain ⟨patterns, rfl⟩ := eq_triples_of_isRun kind
          rw [mergeRuns]
          split
          · rename_i more behind merged
            rw [merged, List.forall_mem_cons] at later
            rw [List.forall_mem_cons]
            exact ⟨joins patterns more isGood later.1, later.2⟩
          · rw [List.forall_mem_cons]
            exact ⟨isGood, later⟩

theorem isMerged_mergeRuns (entries : List Node) : IsMerged (mergeRuns entries) := by
  induction entries with
  | nil => trivial
  | cons first others inductionHypothesis =>
      cases kind : first.isRun with
      | false =>
          rw [mergeRuns_cons kind]
          refine ⟨fun isRun => ?_, inductionHypothesis⟩
          rw [kind] at isRun
          contradiction
      | true =>
          obtain ⟨patterns, rfl⟩ := eq_triples_of_isRun kind
          rw [mergeRuns]
          split
          · rename_i more behind merged
            rw [merged] at inductionHypothesis
            exact inductionHypothesis
          · rename_i noRun
            refine ⟨fun _ => ?_, inductionHypothesis⟩
            cases later : mergeRuns others with
            | nil => rfl
            | cons next behind =>
                cases nextKind : next.isRun with
                | false => simpa using nextKind
                | true =>
                    obtain ⟨more, rfl⟩ := eq_triples_of_isRun nextKind
                    exact absurd later (noRun more behind)

theorem isEntry_append {patterns more : List TriplePattern}
    (isEntry : (Node.triples patterns).IsEntry) (isMore : (Node.triples more).IsEntry) :
    (Node.triples (patterns ++ more)).IsEntry := by
  refine ⟨by simp [isEntry.1], ?_⟩
  rw [List.forall_mem_append]
  exact ⟨isEntry.2, isMore.2⟩

def IsGroup (group : Group) : Prop :=
  (∀ entry ∈ group, entry.IsEntry) ∧ IsMerged group

theorem group_yields : Yields group IsGroup := by
  refine Ensures.yields (Ensures.nested fun inner _ => Yields.ensures ?_)
  exact Yields.after fun _ => (entry_yields inner).many.bind fun _ areEntries =>
    Yields.after fun _ => Yields.pure
      ⟨mergeRuns_keeps (fun _ _ => isEntry_append) areEntries, isMerged_mergeRuns _⟩

/-! ## Queries -/

def IsCount (count : Option Int) : Prop :=
  ∀ value, count = some value → ∃ number : Nat, value = number

structure Select.IsWellFormed (select : Select) : Prop where
  variableNames : ∀ name ∈ select.variableNames, IsVariableName name
  group : IsGroup select.group
  order : ∀ condition ∈ select.order, IsVariableName condition.variableName
  limit : IsCount select.limit
  offset : IsCount select.offset

def Form.IsWellFormed : Form → Prop
  | .select chosen => chosen.IsWellFormed
  | _ => True

def IsDeclaration (pair : String × String) : Prop :=
  IsLabel pair.1 ∧ IsIriText pair.2

instance (pair : String × String) : Decidable (IsDeclaration pair) :=
  inferInstanceAs (Decidable (_ ∧ _))

structure Query.IsWellFormed (query : Query) : Prop where
  prefixes : ∀ pair ∈ query.prefixes.pairs, IsDeclaration pair
  form : query.form.IsWellFormed

theorem countClause_yields (word : String) :
    Yields (countClause word) fun value => ∃ number : Nat, value = number :=
  Yields.after fun _ => Yields.after fun _ => Yields.pure ⟨_, rfl⟩

theorem limitOffset_yields : Yields limitOffset fun cut => IsCount cut.1 ∧ IsCount cut.2 := by
  have given : ∀ word, Yields (countClause word) fun value => IsCount (some value) := by
    intro word
    refine (countClause_yields word).mono fun value isNumber other same => ?_
    cases same
    exact isNumber
  have optionally : ∀ word, Yields (Parser.optional (countClause word)) IsCount :=
    fun word => (countClause_yields word).optional
  refine Yields.firstOf ?_
  simp only [List.forall_mem_cons]
  refine ⟨?_, ?_, by simp⟩
  · exact (given "LIMIT").bind fun _ isLimit => (optionally "OFFSET").bind fun _ isOffset =>
      Yields.pure ⟨isLimit, isOffset⟩
  · exact (given "OFFSET").bind fun _ isOffset => (optionally "LIMIT").bind fun _ isLimit =>
      Yields.pure ⟨isLimit, isOffset⟩

theorem orderClause_yields : Yields orderClause fun conditions =>
    ∀ condition ∈ conditions, IsVariableName condition.variableName := by
  have condition : Yields orderCondition fun condition =>
      IsVariableName condition.variableName := by
    refine Yields.firstOf ?_
    simp only [List.forall_mem_cons]
    refine ⟨?_, ?_, ?_, by simp⟩
    · exact Yields.after fun _ => Yields.after fun _ => variableName_yields.bind fun _ isName =>
        Yields.after fun _ => Yields.pure isName
    · exact Yields.after fun _ => Yields.after fun _ => variableName_yields.bind fun _ isName =>
        Yields.after fun _ => Yields.pure isName
    · exact variableName_yields.map fun _ isName => isName
  exact Yields.after fun _ => Yields.after fun _ => condition.many1

theorem requestedVariables_yields : Yields requestedVariables fun names =>
    ∀ name ∈ names, IsVariableName name := by
  refine Yields.firstOf ?_
  simp only [List.forall_mem_cons]
  exact ⟨Yields.after fun _ => Yields.pure (by simp), variableName_yields.many1, by simp⟩

theorem selectForm_yields : Yields selectForm Form.IsWellFormed := by
  have whole : Yields whereGroup IsGroup := Yields.after fun _ => group_yields
  refine Yields.after fun _ => Yields.after fun _ => ?_
  refine requestedVariables_yields.bind fun names areNames => whole.bind fun body isGroup => ?_
  refine orderClause_yields.optional.bind fun order isOrder => ?_
  refine limitOffset_yields.optional.bind fun cut isCut => Yields.pure ?_
  refine ⟨areNames, isGroup, ?_, ?_, ?_⟩
  · cases order with
    | none => simp
    | some conditions => exact isOrder conditions rfl
  · cases cut with
    | none => intro value same; cases same
    | some pair => exact (isCut pair rfl).1
  · cases cut with
    | none => intro value same; cases same
    | some pair => exact (isCut pair rfl).2

theorem prefixDeclaration_yields : Yields prefixDeclaration IsDeclaration :=
  Yields.after fun _ => prefixLabel_yields.bind fun _ isLabel =>
    iriRef_yields.bind fun _ isText => Yields.pure ⟨isLabel, isText⟩

theorem query_yields : Yields query Query.IsWellFormed := by
  have form : Yields (Parser.firstOf [selectForm, askForm]) Form.IsWellFormed := by
    refine Yields.firstOf ?_
    simp only [List.forall_mem_cons]
    exact ⟨selectForm_yields, Yields.after fun _ => Yields.after fun _ => Yields.pure trivial,
      by simp⟩
  refine prefixDeclaration_yields.many.bind fun declared areDeclared => ?_
  refine form.bind fun found isForm => Yields.after fun _ => Yields.pure ⟨?_, isForm⟩
  exact fun pair inside => areDeclared pair (OrderedMap.mem_of_mem_ofList inside)

/-- What is read is what the grammar accepts with no label undeclared. -/
theorem Query.ofText_eq_ok_iff {text : String} {found : Query} :
    Query.ofText text = .ok found ↔ Query.parse text = .ok found ∧ found.undeclared? = none := by
  unfold Query.ofText
  rw [bind_eq_ok_iff]
  constructor
  · rintro ⟨parsed, parse, declared⟩
    split at declared
    · cases declared
    · rename_i noLabel
      cases declared
      exact ⟨parse, noLabel⟩
  · rintro ⟨parse, noLabel⟩
    refine ⟨found, parse, ?_⟩
    rw [noLabel]
    rfl

theorem Query.good_of_ofText {text : String} {found : Query} {good : Query → Prop}
    (yields : Yields query good) (read : Query.ofText text = .ok found) : good found := by
  obtain ⟨parse, _⟩ := Query.ofText_eq_ok_iff.1 read
  unfold Query.parse at parse
  simp only at parse
  split at parse
  · rename_i matched next run
    rw [← Except.ok.inj parse]
    exact yields _ matched next run
  · cases parse
  · cases parse

/-- Every query that is read from a text is well formed. -/
theorem Query.isWellFormed_of_ofText {text : String} {found : Query}
    (read : Query.ofText text = .ok found) : found.IsWellFormed :=
  Query.good_of_ofText query_yields read

end FactQuery.Sparql
