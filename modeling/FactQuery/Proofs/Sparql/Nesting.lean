import FactQuery.Proofs.Sparql.WellFormed

/-!
# Proper nesting

What a query that was read from a text holds is properly put together at every depth: groups inside
groups, optional parts and unions, and expressions inside brackets and calls.  Nothing that is built
from parts has too few of them, and every operator and function name is one that the grammar knows.
The grammar refers to itself, so the property passes from the levels inside to each level around
them.
-/

set_option autoImplicit false

namespace FactQuery.Sparql

open FactQuery.Grammar

/-! ## Proper nodes -/

def comparisonSpellings : List String :=
  ["<=", ">=", "!=", "<>", "==", "=", "<", ">"]

def arithmeticOperators : List String :=
  ["+", "-", "*", "/"]

/-- Capital letters, digits and underscores, with a letter in front. -/
def IsFunctionName (name : String) : Prop :=
  (name.toList.head?.any Char.isUpper) = true ∧
    ∀ c ∈ name.toList, (c.isUpper || c.isDigit || c == '_') = true

mutual

/-- The node and everything inside it have the parts that they need. -/
def Node.IsProper : Node → Prop
  | .term _ => True
  | .binary operator left right =>
    operator ∈ comparisonSpellings ++ arithmeticOperators ∧ left.IsProper ∧ right.IsProper
  | .logical .not operands => operands.length = 1 ∧ AreProper operands
  | .logical _ operands => 2 ≤ operands.length ∧ AreProper operands
  | .call name arguments => IsFunctionName name ∧ AreProper arguments
  | .filter condition => condition.IsProper
  | .triples patterns =>
    patterns ≠ [] ∧ ∀ pattern ∈ patterns, ∃ terms : Triple Term, pattern = terms.map Node.term
  | .group body => AreProper body ∧ IsMerged body
  | .optional body => AreProper body ∧ IsMerged body
  | .union alternatives => 2 ≤ alternatives.length ∧ AreProperGroups alternatives

def AreProper : List Node → Prop
  | [] => True
  | first :: others => first.IsProper ∧ AreProper others

def AreProperGroups : List (List Node) → Prop
  | [] => True
  | first :: others => (AreProper first ∧ IsMerged first) ∧ AreProperGroups others

end

/-- Proper entries, of which no two neighbours are runs of patterns. -/
def IsProperGroup (group : Group) : Prop :=
  AreProper group ∧ IsMerged group

theorem areProper_iff {nodes : List Node} : AreProper nodes ↔ ∀ node ∈ nodes, node.IsProper := by
  induction nodes with
  | nil => simp [AreProper]
  | cons node others inductionHypothesis =>
      rw [AreProper, inductionHypothesis, List.forall_mem_cons]

theorem areProperGroups_iff {groups : List Group} :
    AreProperGroups groups ↔ ∀ group ∈ groups, IsProperGroup group := by
  induction groups with
  | nil => simp [AreProperGroups]
  | cons group others inductionHypothesis =>
      rw [AreProperGroups, inductionHypothesis, List.forall_mem_cons, IsProperGroup]

theorem two_le_length {α : Type} {items : List α} (nonempty : items ≠ [])
    (several : ∀ single, items ≠ [single]) : 2 ≤ items.length := by
  cases items with
  | nil => exact absurd rfl nonempty
  | cons first others =>
      cases others with
      | nil => exact absurd rfl (several first)
      | cons second behind => simp

/-! ## Names and operators -/

theorem isUpper_toUpper_of_isAlpha {c : Char} (letter : c.isAlpha = true) :
    c.toUpper.isUpper = true := by
  have small : c.toNat < 128 := by
    have range := toNat_of_isAlpha letter
    omega
  exact of_forall_ascii (fun c => c.isAlpha = true → c.toUpper.isUpper = true)
    (by decide) small letter

theorem toUpper_of_isNameChar {c : Char} (isName : isNameChar c = true) :
    (c.toUpper.isUpper || c.toUpper.isDigit || c.toUpper == '_') = true := by
  rw [isNameChar, Char.isAlphanum, Bool.or_eq_true, Bool.or_eq_true, beq_iff_eq] at isName
  rcases isName with (letter | digit) | rfl
  · rw [isUpper_toUpper_of_isAlpha letter, Bool.true_or, Bool.true_or]
  · have small : c.toNat < 128 := by
      have range := toNat_of_isAlphanum (c := c) (by rw [Char.isAlphanum, digit, Bool.or_true])
      omega
    have stays : c.toUpper.isDigit = true :=
      of_forall_ascii (fun c => c.isDigit = true → c.toUpper.isDigit = true)
        (by decide) small digit
    rw [stays, Bool.or_true, Bool.true_or]
  · decide

/-- A word of letters, digits and underscores makes a function name of its capitals. -/
theorem functionName_yields : Yields (lexeme (scanWord Char.isAlpha isNameChar)) fun token =>
    IsFunctionName (String.ofList (token.map Char.toUpper)) := by
  refine Yields.lexeme fun text token rest found => ?_
  cases text with
  | nil => contradiction
  | cons c behind =>
      rw [scanWord] at found
      split at found
      · rename_i starts
        obtain ⟨rfl, rfl⟩ := Prod.mk.inj (Option.some.inj found)
        have isName : isNameChar c = true := by
          rw [isNameChar, Char.isAlphanum, starts, Bool.true_or, Bool.true_or]
        rw [IsFunctionName, String.toList_ofList]
        refine ⟨?_, ?_⟩
        · rw [List.map_cons, List.head?_cons, Option.any_some]
          exact isUpper_toUpper_of_isAlpha starts
        · rw [List.forall_mem_map, List.forall_mem_cons]
          refine ⟨toUpper_of_isNameChar isName, fun other inside => ?_⟩
          exact toUpper_of_isNameChar (List.all_eq_true.1 List.all_takeWhile other inside)
      · contradiction

theorem oneOf_yields (tokens : List String) : Yields (oneOf tokens) fun token => token ∈ tokens := by
  refine Yields.firstOf fun parser inside => ?_
  obtain ⟨token, known, rfl⟩ := List.mem_map.1 inside
  exact Yields.after fun _ => Yields.pure known

/-! ## Expressions -/

theorem connected_proper {connective : Connective} {parser : Parser Node}
    (notNegation : connective ≠ .not) (each : Yields parser Node.IsProper) :
    Yields (connected connective parser) Node.IsProper := by
  refine each.separated1.bind fun operands found => ?_
  obtain ⟨nonempty, areGood⟩ := found
  split
  · exact Yields.pure (areGood _ (List.mem_singleton.2 rfl))
  · rename_i several
    have proper : 2 ≤ operands.length ∧ AreProper operands :=
      ⟨two_le_length nonempty several, areProper_iff.2 areGood⟩
    refine Yields.pure ?_
    cases connective with
    | not => exact absurd rfl notNegation
    | and => exact proper
    | or => exact proper

/-- A chain of proper operands under operators that the grammar knows. -/
theorem leftChain_proper {parser : Parser Node} {tokens : List String}
    (known : ∀ token ∈ tokens, token ∈ arithmeticOperators) (each : Yields parser Node.IsProper) :
    Yields (Parser.leftChain (oneOf tokens) .binary parser) Node.IsProper := by
  refine Yields.leftChain (oneOf_yields tokens) each ?_
  intro sign left right isToken leftGood rightGood
  exact ⟨List.mem_append_right _ (known sign isToken), leftGood, rightGood⟩

section Levels

variable {inner : Parser Node} (deeper : Yields inner Node.IsProper)

include deeper

theorem functionCall_proper : Yields (functionCall inner) Node.IsProper := by
  refine functionName_yields.bind fun name isName => Yields.after fun _ => ?_
  refine deeper.separated1.optional.bind fun found areGood => Yields.after fun _ => Yields.pure ?_
  refine ⟨isName, areProper_iff.2 ?_⟩
  cases found with
  | none => simp
  | some arguments => exact (areGood arguments rfl).2

theorem parenthesised_proper : Yields (parenthesised inner) Node.IsProper :=
  Yields.after fun _ => deeper.bind fun _ isGood => Yields.after fun _ => Yields.pure isGood

theorem operand_proper : Yields (operand inner) Node.IsProper := by
  have term : ∀ {α : Type} (parser : Parser α) (make : α → Term),
      Yields ((Node.term ∘ make) <$> parser) Node.IsProper :=
    fun parser make => Yields.after fun _ => Yields.pure trivial
  refine Yields.firstOf ?_
  simp only [List.forall_mem_cons]
  exact ⟨functionCall_proper deeper, term _ _, term _ id, term _ id, term _ id, term _ _,
    parenthesised_proper deeper, by simp⟩

theorem sum_proper : Yields (sum inner) Node.IsProper := by
  have products : Yields (product inner) Node.IsProper :=
    leftChain_proper (by simp [arithmeticOperators]) (operand_proper deeper)
  exact leftChain_proper (by simp [arithmeticOperators]) products

theorem comparison_proper : Yields (comparison inner) Node.IsProper := by
  have right : Yields (do
      let operator ← comparisonOperator
      let right ← sum inner
      return (operator, right)) fun behind =>
        behind.1 ∈ comparisonSpellings ∧ behind.2.IsProper :=
    (oneOf_yields _).bind fun operator known => (sum_proper deeper).bind fun node isGood =>
      Yields.pure ⟨known, isGood⟩
  refine (sum_proper deeper).bind fun left leftGood => right.optional.bind fun behind found => ?_
  cases behind with
  | none => exact Yields.pure leftGood
  | some pair =>
      obtain ⟨known, isGood⟩ := found pair rfl
      exact Yields.pure ⟨List.mem_append_left _ known, leftGood, isGood⟩

theorem negation_proper : Yields (negation inner) Node.IsProper := by
  refine Yields.after fun sign => (comparison_proper deeper).bind fun node isGood => ?_
  split
  · exact Yields.pure ⟨rfl, isGood, trivial⟩
  · exact Yields.pure isGood

end Levels

theorem expression_proper : Yields expression Node.IsProper := by
  refine Ensures.yields (Ensures.nested fun inner deeper => Yields.ensures ?_)
  have conjunctions : Yields (connected .and (negation inner)) Node.IsProper :=
    connected_proper (by decide) (negation_proper deeper.yields)
  exact connected_proper (by decide) conjunctions

/-! ## Groups -/

theorem filterClause_proper : Yields filterClause Node.IsProper := by
  have condition : Yields (Parser.firstOf [parenthesised expression, functionCall expression])
      Node.IsProper := by
    refine Yields.firstOf ?_
    simp only [List.forall_mem_cons]
    exact ⟨parenthesised_proper expression_proper, functionCall_proper expression_proper, by simp⟩
  exact Yields.after fun _ => condition.bind fun _ isGood => Yields.after fun _ =>
    Yields.pure isGood

theorem triplesBlock_proper : Yields triplesBlock Node.IsProper := by
  refine triplesSameSubject_yields.bind fun patterns isEntry => Yields.after fun _ => ?_
  refine Yields.pure ⟨isEntry.1, fun pattern inside => ?_⟩
  obtain ⟨terms, _, same⟩ := isEntry.2 pattern inside
  exact ⟨terms, same⟩

section Groups

variable {inner : Parser Group} (deeper : Yields inner IsProperGroup)

include deeper

theorem optionalPattern_proper : Yields (optionalPattern inner) Node.IsProper :=
  Yields.after fun _ => deeper.bind fun _ isGood => Yields.after fun _ => Yields.pure isGood

theorem groupOrUnion_proper : Yields (groupOrUnion inner) Node.IsProper := by
  refine deeper.separated1.bind fun alternatives found => Yields.after fun _ => ?_
  obtain ⟨nonempty, areGood⟩ := found
  split
  · exact Yields.pure (areGood _ (List.mem_singleton.2 rfl))
  · rename_i several
    exact Yields.pure ⟨two_le_length nonempty several, areProperGroups_iff.2 areGood⟩

theorem entry_proper : Yields (entry inner) Node.IsProper := by
  refine Yields.firstOf ?_
  simp only [List.forall_mem_cons]
  exact ⟨filterClause_proper, optionalPattern_proper deeper, groupOrUnion_proper deeper,
    triplesBlock_proper, by simp⟩

end Groups

theorem isProper_append {patterns more : List TriplePattern}
    (isProper : (Node.triples patterns).IsProper) (isMore : (Node.triples more).IsProper) :
    (Node.triples (patterns ++ more)).IsProper := by
  refine ⟨by simp [isProper.1], ?_⟩
  rw [List.forall_mem_append]
  exact ⟨isProper.2, isMore.2⟩

theorem group_proper : Yields group IsProperGroup := by
  refine Ensures.yields (Ensures.nested fun inner deeper => Yields.ensures ?_)
  refine Yields.after fun _ => (entry_proper deeper.yields).many.bind fun entries areGood => ?_
  refine Yields.after fun _ => Yields.pure ⟨areProper_iff.2 ?_, isMerged_mergeRuns entries⟩
  exact mergeRuns_keeps (fun _ _ => isProper_append) areGood

/-! ## Queries -/

def IsNatural (count : Option Int) : Prop :=
  ∀ value, count = some value → 0 ≤ value

def Form.IsProper : Form → Prop
  | .select chosen => IsProperGroup chosen.group ∧ IsNatural chosen.limit ∧ IsNatural chosen.offset
  | .ask body => IsProperGroup body
  | .unknown => False

theorem IsCount.isNatural {count : Option Int} (isCount : IsCount count) : IsNatural count := by
  intro value given
  obtain ⟨number, rfl⟩ := isCount value given
  exact Int.natCast_nonneg number

theorem isNatural_none : IsNatural none := by
  intro value given
  cases given

theorem form_proper : Yields (Parser.firstOf [selectForm, askForm]) Form.IsProper := by
  have whole : Yields whereGroup IsProperGroup := Yields.after fun _ => group_proper
  have select : Yields selectForm Form.IsProper := by
    refine Yields.after fun _ => Yields.after fun _ => Yields.after fun _ => ?_
    refine whole.bind fun body isGood => Yields.after fun _ => ?_
    refine limitOffset_yields.optional.bind fun cut areCounts => Yields.pure ⟨isGood, ?_⟩
    cases cut with
    | none => exact ⟨isNatural_none, isNatural_none⟩
    | some pair => exact ⟨(areCounts pair rfl).1.isNatural, (areCounts pair rfl).2.isNatural⟩
  refine Yields.firstOf ?_
  simp only [List.forall_mem_cons]
  refine ⟨select, ?_, by simp⟩
  exact Yields.after fun _ => whole.bind fun _ isGood => Yields.pure isGood

/-- Every query that is read from a text is properly put together at every depth, and asks for no
negative number of rows. -/
theorem Query.isProper_of_ofText {text : String} {found : Query}
    (read : Query.ofText text = .ok found) : found.form.IsProper := by
  have yields : Yields query fun found => found.form.IsProper :=
    Yields.after fun _ => form_proper.bind fun _ isGood => Yields.after fun _ => Yields.pure isGood
  exact Query.good_of_ofText yields read

/-- A query with a union around an optional part, two runs that become one, and a filter that mixes
connectives, a call and arithmetic. -/
def nestedQuery : String :=
  "SELECT ?s WHERE \x7b ?s ?p ?o . ?s <q> 1, 2 . " ++
    "FILTER(! ?o + 2 * 3 <> 4 && regex(?o, \"x\") || (bound(?s) && ?o == 1)) " ++
    "\x7b OPTIONAL \x7b ?a <p> ?o . ?a <q> ?o \x7d \x7d UNION \x7b ?a ?b ?c \x7d \x7d " ++
    "LIMIT 5 OFFSET 0"

theorem isProper_of_ofText_nested : ∃ found,
    Query.ofText nestedQuery = .ok found ∧
      found.group.map Node.kind = ["BasicGraphPattern", "Filter", "UnionPattern"] ∧
      found.form.IsProper := by
  have checked : (Query.ofText nestedQuery).toOption.map (fun found => found.group.map Node.kind) =
      some ["BasicGraphPattern", "Filter", "UnionPattern"] := by
    decide +kernel
  cases read : Query.ofText nestedQuery with
  | error error =>
      rw [read] at checked
      contradiction
  | ok found =>
      rw [read] at checked
      exact ⟨found, rfl, Option.some.inj checked, Query.isProper_of_ofText read⟩

end FactQuery.Sparql
