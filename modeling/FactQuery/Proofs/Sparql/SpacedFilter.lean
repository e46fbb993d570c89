import FactQuery.Proofs.Sparql.ExpressionRoundTrip
import FactQuery.Proofs.Sparql.Prefixes

/-!
# Filters are read back from their tokens

A filter is written with a blank between any two tokens and with no more brackets than its operators
need.  It is read wherever no full stop follows it, and a query that has nothing else in its group
is read as that filter.
-/

set_option autoImplicit false

namespace FactQuery.Sparql

open FactQuery.Text FactQuery.Grammar FactQuery.Token

variable {condition : Node}

/-! ## The clause -/

/-- With a blank in front of it, a filter is written as its tokens with a blank in front of each. -/
theorem spacedText_filter (condition : Node) :
    [' '] ++ (Node.filter condition).spacedText.toList =
      [' '] ++ "FILTER".toList ++ ([' '] ++ "(".toList ++
        (spaced condition.tokens ++ ([' '] ++ ")".toList))) := by
  have tokens : (Node.filter condition).tokens =
      "FILTER" :: "(" :: (condition.tokens ++ [")"]) := by
    rw [Node.tokens, List.cons_append, List.cons_append]
  have joined : [' '] ++ (Node.filter condition).spacedText.toList =
      spaced ("FILTER" :: "(" :: (condition.tokens ++ [")"])) := by
    rw [Node.spacedText, tokens]
    exact toList_intercalate_after " " (List.cons_ne_nil _ _)
  rw [joined, spaced_cons, spaced_cons, spaced_append]
  rfl

theorem filterClause_reads_spaced (isExpression : IsExpression condition) {rest : List Char}
    (noStop : Misses (symbol ".") rest) :
    Reads filterClause ([' '] ++ (Node.filter condition).spacedText.toList) (.filter condition)
      rest := by
  have inside : Reads expression (spaced condition.tokens) condition
      ([' '] ++ ")".toList ++ rest) := by
    refine Reads.nested_of_length fun levels enough => ?_
    have bare : textAt .disjunction condition = spaced condition.tokens :=
      textAt_bare (Nat.zero_le _)
    rw [← bare] at enough ⊢
    exact isExpression.isReadEverywhere.reads .disjunction levels enough _ (Ends.closing _ rest)
  have word : Reads (caselessKeyword "FILTER") ([' '] ++ "FILTER".toList) ()
      ([' '] ++ "(".toList ++ (spaced condition.tokens ++ ([' '] ++ ")".toList)) ++ rest) :=
    fun before => foldedWord_readsFrom (by decide) IsGap.space rfl rfl
  have stop : Reads optionalStop [] () rest := noStop.optional_none.bind_pure
  rw [spacedText_filter]
  exact word.bind ((parenthesised_reads inside).firstOf_here.bind_end stop.bind_pure)

/-! ## Characters and names -/

theorem tab_not_mem_textAt {place : Level} {node : Node} (noTab : '\t' ∉ spaced node.tokens) :
    '\t' ∉ textAt place node := by
  rcases Nat.lt_or_ge node.level.rank place.rank with loose | tight
  · rw [textAt_bracketed loose]
    simp [noTab]
  · rw [textAt_bare tight]
    exact noTab

theorem tab_not_mem_tokensAt {separator : String} {place : Level} {nodes : List Node}
    (inSeparator : '\t' ∉ separator.toList)
    (each : ∀ node ∈ nodes, '\t' ∉ spaced node.tokens) :
    '\t' ∉ spaced ([separator].intercalate (tokensAt place nodes)) := by
  cases nodes with
  | nil => simp [tokensAt, spaced]
  | cons first others =>
      rw [List.forall_mem_cons] at each
      rw [spaced_tokensAt, List.mem_append, not_or]
      refine ⟨tab_not_mem_textAt each.1, fun inside => ?_⟩
      obtain ⟨node, known, written⟩ := List.mem_flatMap.1 inside
      simp [inSeparator, tab_not_mem_textAt (each.2 node known)] at written

theorem IsExpression.tab_not_mem (isExpression : IsExpression condition) :
    '\t' ∉ spaced condition.tokens := by
  have inOperators : ∀ operator ∈ comparisonSpellings ++ arithmeticOperators,
      '\t' ∉ operator.toList := by
    decide
  have inConnectives : ∀ connective : Connective, '\t' ∉ connective.symbol.toList := by
    intro connective
    cases connective <;> decide
  induction isExpression with
  | term free =>
      obtain ⟨isOperand, plain⟩ := free.isOperand
      rw [spaced_term]
      simp [tab_not_mem_term isOperand.wellFormed plain]
  | call isName _ inArguments =>
      have outside : ('\t'.isUpper || '\t'.isDigit || '\t' == '_') = false := by decide
      have inName := not_mem_run isName.2 outside
      have inRow := @tab_not_mem_tokensAt "," .disjunction _ (by decide) inArguments
      rw [spaced_call]
      simp [inName, inRow]
  | binary known _ _ inLeft inRight =>
      rw [spaced_binary]
      simp [inOperators _ known, tab_not_mem_textAt inLeft, tab_not_mem_textAt inRight]
  | connected joins _ _ inOperands =>
      rw [tokens_connected joins]
      exact tab_not_mem_tokensAt (inConnectives _) inOperands
  | negation _ inOperand =>
      rw [spaced_negation]
      simp [tab_not_mem_textAt inOperand]

theorem IsExpression.full_of_mentions (isExpression : IsExpression condition) {name : Iri}
    (mentions : condition.Mentions name) : ∃ value, name = .full value := by
  induction isExpression with
  | term free =>
      cases mentions
      cases name with
      | full value => exact ⟨value, rfl⟩
      | «prefixed» label localPart => exact free.elim
  | call _ _ inArguments =>
      cases mentions with
      | argument inside deeper => exact inArguments _ inside deeper
  | binary _ _ _ inLeft inRight =>
      cases mentions with
      | left deeper => exact inLeft deeper
      | right deeper => exact inRight deeper
  | connected _ _ _ inOperands =>
      cases mentions with
      | operand inside deeper => exact inOperands _ inside deeper
  | negation _ inOperand =>
      cases mentions with
      | operand inside deeper =>
          cases List.mem_singleton.1 inside
          exact inOperand deeper

/-! ## The query -/

/-- The query that selects everything under one filter. -/
def filterQuery (condition : Node) : Query :=
  ⟨.ofList [], .select { variableNames := [], group := [.filter condition] }⟩

theorem undeclared?_filterQuery (isExpression : IsExpression condition) :
    (filterQuery condition).undeclared? = none := by
  have found : (filterQuery condition).names.find?
      (fun name => !name.isDeclared (filterQuery condition).prefixes) = none := by
    refine List.find?_eq_none.2 fun name inside => ?_
    obtain ⟨entry, isEntry, mentions⟩ := Query.mem_names_iff.1 inside
    cases List.mem_singleton.1 isEntry
    cases mentions with
    | condition deeper =>
        obtain ⟨value, rfl⟩ := isExpression.full_of_mentions deeper
        simp [Iri.isDeclared, Iri.label?]
  exact congrArg (Option.bind · Iri.label?) found

theorem filterQuery_text (condition : Node) :
    "SELECT * WHERE \x7b " ++ (Node.filter condition).spacedText ++ " \x7d" =
      String.ofList (everythingText [] ([' '] ++ (Node.filter condition).spacedText.toList)) := by
  have front : "SELECT * WHERE \x7b ".toList =
      "SELECT".toList ++ ([' ', '*'] ++ ([' '] ++ "WHERE".toList ++ ([' ', '\x7b'] ++ [' ']))) := by
    decide
  rw [← String.toList_inj, String.toList_append, String.toList_append, front]
  unfold everythingText
  simp only [String.toList_ofList, List.append_assoc, List.flatMap_nil, List.nil_append]
  rfl

/-- An expression in a filter, written with all its tokens apart and in brackets where its place
takes only what binds more tightly, is read as that very expression.  The filter is read behind a
blank wherever no full stop follows it, and alone in the group of a query. -/
theorem ofText_spacedText (isExpression : IsExpression condition) :
    (∀ rest, Misses (symbol ".") rest →
      Reads filterClause ([' '] ++ (Node.filter condition).spacedText.toList) (.filter condition)
        rest) ∧
    Query.ofText ("SELECT * WHERE \x7b " ++ (Node.filter condition).spacedText ++ " \x7d") =
      .ok (filterQuery condition) := by
  refine ⟨fun rest noStop => filterClause_reads_spaced isExpression noStop, ?_⟩
  have each : ∀ levels, ReadsEach (entry (Parser.nestedWithin groupRule levels))
      ([' '] ++ (Node.filter condition).spacedText.toList) [.filter condition] [' ', '\x7d'] := by
    intro levels
    have noStop : Misses (symbol ".") [' ', '\x7d'] :=
      @symbol_misses "." [' '] _ IsGap.space rfl rfl
    have clause := filterClause_reads_spaced isExpression noStop
    have ended : Misses (entry (Parser.nestedWithin groupRule levels)) [' ', '\x7d'] :=
      entry_misses_end levels IsGap.space []
    exact .single (by simp) clause.firstOf_here ended
  have noTab : '\t' ∉ [' '] ++ (Node.filter condition).spacedText.toList := by
    rw [spacedText_filter]
    simp [isExpression.tab_not_mem]
  have none : ∀ pair ∈ ([] : List (String × String)), IsDeclaration pair := by simp
  rw [filterQuery_text, Query.ofText_eq_ok_iff]
  exact ⟨Query.parse_of_readsFrom (tab_not_mem_everythingText none noTab)
    (query_readsFrom_everything none each), undeclared?_filterQuery isExpression⟩

/-- Differences on both sides of a difference, a comparison with a name, and a conjunction under a
negation. -/
def mixedCondition : Node :=
  .logical .or [
    .binary "<" (.binary "-" (.binary "-" (.term (.variable "a")) (.term (.variable "b")))
        (.binary "-" (.call "F" []) (.term (.literal "&& (" (some "en") none))))
      (.term (.iri (.full "http://e.org/c"))),
    .logical .not [.logical .and [.term (.variable "a"),
      .call "G" [.term (.variable "b"), .term (.variable "a")]]]]

theorem mixedCondition_spacedText : IsExpression mixedCondition ∧
    Reads filterClause ([' '] ++ (Node.filter mixedCondition).spacedText.toList)
      (.filter mixedCondition) [' ', '\x7d'] ∧
    Query.ofText ("SELECT * WHERE \x7b FILTER ( ?a - ?b - ( F ( ) - \x22&& (\x22@en ) < " ++
        "<http://e.org/c> || ! ( ?a && G ( ?b , ?a ) ) ) \x7d") =
      .ok (filterQuery mixedCondition) := by
  have isTag : IsTag "en" :=
    ⟨"en".toList, [], by decide, by decide, List.all_eq_true.1 (by decide), by decide⟩
  have string : IsExpression (.term (.literal "&& (" (some "en") none)) :=
    .term (readsBack_iff.2 ⟨⟨by simpa using isTag, by simp, by simp⟩, by decide⟩)
  have a : IsExpression (.term (.variable "a")) :=
    .term ⟨by decide, List.all_eq_true.1 (by decide)⟩
  have b : IsExpression (.term (.variable "b")) :=
    .term ⟨by decide, List.all_eq_true.1 (by decide)⟩
  have c : IsExpression (.term (.iri (.full "http://e.org/c"))) :=
    .term (by decide : IsIriText "http://e.org/c")
  have f : IsExpression (.call "F" []) :=
    .call ⟨by decide, List.all_eq_true.1 (by decide)⟩ (by simp)
  have g : IsExpression (.call "G" [.term (.variable "b"), .term (.variable "a")]) :=
    .call ⟨by decide, List.all_eq_true.1 (by decide)⟩ (by simp [a, b])
  have isExpression : IsExpression mixedCondition := by
    refine .connected (by decide) (by decide) ?_
    simp only [List.forall_mem_cons]
    refine ⟨?_, .negation ?_, by simp⟩
    · have minus : "-" ∈ comparisonSpellings ++ arithmeticOperators := by decide
      exact .binary (by decide) (.binary minus (.binary minus a b) (.binary minus f string)) c
    · exact .connected (by decide) (by decide) (by simp [a, g])
  have text : "SELECT * WHERE \x7b " ++ (Node.filter mixedCondition).spacedText ++ " \x7d" =
      "SELECT * WHERE \x7b FILTER ( ?a - ?b - ( F ( ) - \x22&& (\x22@en ) < " ++
        "<http://e.org/c> || ! ( ?a && G ( ?b , ?a ) ) ) \x7d" := by
    decide +kernel
  have noStop : Misses (symbol ".") [' ', '\x7d'] :=
    @symbol_misses "." [' '] _ IsGap.space rfl rfl
  obtain ⟨clause, query⟩ := ofText_spacedText isExpression
  rw [← text]
  exact ⟨isExpression, clause _ noStop, query⟩

end FactQuery.Sparql
