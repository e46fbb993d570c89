import FactQuery.Proofs.Grammar.Chains
import FactQuery.Proofs.Sparql.Precedence

/-!
# Expressions are read back from their tokens

The text of an expression is read as the expression, at its own level and at every looser one, and
in brackets at every level.  What stands behind a place is a token that binds more loosely than the
place, or a comma or bracket, and so none of the levels up to the place goes on there.
-/

set_option autoImplicit false

namespace FactQuery.Sparql

open FactQuery.Text FactQuery.Grammar FactQuery.Token

/-! ## Parsers by level -/

def parserAt (inner : Parser Node) : Level → Parser Node
  | .disjunction => connected .or (connected .and (negation inner))
  | .conjunction => connected .and (negation inner)
  | .negation => negation inner
  | .comparison => comparison inner
  | .sum => sum inner
  | .product => product inner
  | .operand => operand inner

/-! ## What stands behind a place -/

def Level.all : List Level :=
  [.disjunction, .conjunction, .negation, .comparison, .sum, .product, .operand]

/-- The tokens that can stand behind a place: the operators of looser levels, the comma, and the
bracket. -/
def Level.endings (place : Level) : List String :=
  [")", ","] ++ (Level.all.filter fun level => level.rank < place.rank).flatMap Level.operators

def Ends (place : Level) (rest : List Char) : Prop :=
  ∃ token ∈ place.endings, ∃ more, rest = ' ' :: (token.toList ++ more)

theorem Ends.of_mem {place : Level} {token : String} (known : token ∈ place.endings)
    (more : List Char) : Ends place ([' '] ++ token.toList ++ more) :=
  ⟨token, known, more, by simp⟩

theorem Ends.tighter {place : Level} {rest : List Char} (ends : Ends place rest) :
    Ends place.tighter rest := by
  obtain ⟨token, known, more, rfl⟩ := ends
  have larger : ∀ token ∈ place.endings, token ∈ place.tighter.endings := by
    cases place <;> decide
  exact ⟨token, larger token known, more, rfl⟩

theorem Level.head_endings {place : Level} {token : String} (known : token ∈ place.endings) :
    ∃ c others, token.toList = c :: others ∧ isLayoutStart c = false ∧ isSuffixFront c = false := by
  have each : (place.endings.all fun token => !token.toList.isEmpty &&
      token.toList.head?.all fun c => !isLayoutStart c && !isSuffixFront c) = true := by
    cases place <;> decide
  have good := List.all_eq_true.1 each token known
  cases letters : token.toList with
  | nil => simp [letters] at good
  | cons c others =>
      refine ⟨c, others, rfl, ?_⟩
      simpa [letters] using good

/-- The operators of a level and of tighter ones begin otherwise than what stands behind it. -/
theorem Level.head_operators {place level : Level} (le : place.rank ≤ level.rank)
    {token operator : String} (known : token ∈ place.endings)
    (isOperator : operator ∈ level.operators) :
    operator.toList ≠ [] ∧ operator.toList.head? ≠ token.toList.head? := by
  have each : place.rank ≤ level.rank → ∀ token ∈ place.endings, ∀ operator ∈ level.operators,
      operator.toList ≠ [] ∧ operator.toList.head? ≠ token.toList.head? := by
    cases place <;> cases level <;> decide
  exact each le token known operator isOperator

theorem Ends.refuses {place level : Level} {rest : List Char} (ends : Ends place rest)
    (le : place.rank ≤ level.rank) {operator : String} (isOperator : operator ∈ level.operators) :
    Misses (symbol operator) rest := by
  obtain ⟨token, known, more, rfl⟩ := ends
  obtain ⟨nonempty, different⟩ := Level.head_operators le known isOperator
  obtain ⟨d, behind, written, noLayout, _⟩ := Level.head_endings known
  rw [written] at different ⊢
  cases letters : operator.toList with
  | nil => exact absurd letters nonempty
  | cons c others =>
      rw [letters] at different
      have apart : c ≠ d := by simpa using different
      refine @symbol_misses operator [' '] _ IsGap.space (Stops.cons_iff.2 noLayout) ?_
      rw [letters]
      exact exactly_eq_none others _ apart

theorem Ends.refusesAll {place level : Level} {rest : List Char} (ends : Ends place rest)
    (le : place.rank ≤ level.rank) : Misses (oneOf level.operators) rest := by
  refine Misses.firstOf fun parser inside => ?_
  obtain ⟨operator, known, rfl⟩ := List.mem_map.1 inside
  exact (ends.refuses le known).bind

theorem Ends.term {place : Level} {rest : List Char} (ends : Ends place rest) : EndsTerm rest := by
  obtain ⟨token, known, more, rfl⟩ := ends
  obtain ⟨c, others, written, noLayout, noSuffix⟩ := Level.head_endings known
  rw [written]
  exact EndsTerm.space (Stops.cons_iff.2 noLayout) (Stops.cons_iff.2 noSuffix)

/-! ## Looser levels -/

def OpensOperand (text : List Char) : Prop :=
  ∃ c rest, text = ' ' :: c :: rest ∧ isLayoutStart c = false ∧ c ≠ '!'

theorem OpensOperand.append {text : List Char} (opens : OpensOperand text) (more : List Char) :
    OpensOperand (text ++ more) := by
  obtain ⟨c, rest, rfl, noLayout, noSign⟩ := opens
  exact ⟨c, rest ++ more, rfl, noLayout, noSign⟩

theorem OpensOperand.noSign {text : List Char} (opens : OpensOperand text) :
    Misses (symbol "!") text := by
  obtain ⟨c, rest, rfl, noLayout, noSign⟩ := opens
  exact @symbol_misses "!" [' '] _ IsGap.space (Stops.cons_iff.2 noLayout)
    (exactly_eq_none [] rest (Ne.symm noSign))

variable {inner : Parser Node} {node : Node} {text rest : List Char}

theorem reads_looser {place : Level} (reads : Reads (parserAt inner place.tighter) text node rest)
    (ends : Ends place rest) (opens : place = .negation → OpensOperand text) :
    Reads (parserAt inner place) text node rest := by
  cases place with
  | disjunction => exact connected_single reads (ends.refuses (Nat.le_refl _) (by decide))
  | conjunction => exact connected_single reads (ends.refuses (Nat.le_refl _) (by decide))
  | negation =>
      -- A text that begins with the sign would be taken for a negation of what follows.
      have noSign : Misses (symbol "!") (text ++ rest) := ((opens rfl).append rest).noSign
      exact noSign.optional_none.bind_nil reads.bind_pure
  | comparison =>
      have alone : Misses comparisonOperator rest := ends.refusesAll (Nat.le_refl _)
      exact reads.bind_end (alone.bind.optional_none.bind_end (Reads.pure node rest))
  | sum => exact reads.leftChain_single (ends.refusesAll (Nat.le_refl _))
  | product => exact reads.leftChain_single (ends.refusesAll (Nat.le_refl _))
  | operand => exact reads

theorem Level.rank_tighter {place level : Level} (looser : place.rank < level.rank) :
    place.tighter.rank = place.rank + 1 := by
  cases place <;> cases level <;> first | rfl | contradiction

theorem Level.eq_of_rank {place level : Level} (same : place.rank = level.rank) :
    place = level := by
  cases place <;> cases level <;> first | rfl | contradiction

theorem reads_at_looser {place level : Level} (le : place.rank ≤ level.rank)
    (reads : ∀ rest, Ends level rest → Reads (parserAt inner level) text node rest)
    (opens : Level.comparison.rank ≤ level.rank → OpensOperand text) (ends : Ends place rest) :
    Reads (parserAt inner place) text node rest := by
  obtain ⟨distance, far⟩ := Nat.exists_eq_add_of_le le
  induction distance generalizing place with
  | zero =>
      cases Level.eq_of_rank far.symm
      exact reads rest ends
  | succ distance inductionHypothesis =>
      have next := @Level.rank_tighter place level (by omega)
      refine reads_looser (inductionHypothesis (by omega) ends.tighter (by omega)) ends ?_
      rintro rfl
      have beyond : Level.comparison.rank = Level.negation.rank + 1 := rfl
      exact opens (by omega)

/-! ## Texts of tokens -/

def spaced (tokens : List String) : List Char :=
  tokens.flatMap fun token => ' ' :: token.toList

theorem spaced_cons (token : String) (tokens : List String) :
    spaced (token :: tokens) = [' '] ++ token.toList ++ spaced tokens := rfl

theorem spaced_append (front back : List String) :
    spaced (front ++ back) = spaced front ++ spaced back :=
  List.flatMap_append

def textAt (place : Level) (node : Node) : List Char :=
  spaced (bracketed place node node.tokens)

theorem textAt_bare {place : Level} (tight : place.rank ≤ node.level.rank) :
    textAt place node = spaced node.tokens := by
  rw [textAt, bracketed, if_neg (by omega)]

theorem textAt_bracketed {place : Level} (loose : node.level.rank < place.rank) :
    textAt place node = [' '] ++ "(".toList ++ (spaced node.tokens ++ ([' '] ++ ")".toList)) := by
  rw [textAt, bracketed, if_pos loose, List.cons_append, spaced_cons, spaced_append]
  rfl

theorem spaced_tokensAt (separator : String) (place : Level) (first : Node) (others : List Node) :
    spaced ([separator].intercalate (tokensAt place (first :: others))) =
      textAt place first ++
        others.flatMap fun node => [' '] ++ separator.toList ++ textAt place node := by
  induction others generalizing first with
  | nil => simp [tokensAt, textAt]
  | cons second others inductionHypothesis =>
      have later := inductionHypothesis second
      rw [List.flatMap_cons, List.append_assoc, ← later]
      simp only [tokensAt, textAt, List.intercalate_cons_cons]
      simp [spaced]

theorem length_textAt_le {separator : String} {place : Level} {nodes : List Node}
    (inside : node ∈ nodes) :
    (textAt place node).length ≤
      (spaced ([separator].intercalate (tokensAt place nodes))).length := by
  cases nodes with
  | nil => cases inside
  | cons first others =>
      rw [spaced_tokensAt, List.length_append]
      rcases List.mem_cons.1 inside with rfl | inOthers
      · omega
      · obtain ⟨front, behind, rfl⟩ := List.append_of_mem inOthers
        simp only [List.flatMap_append, List.flatMap_cons, List.length_append]
        omega

theorem spaced_term (value : Term) :
    spaced (Node.term value).tokens = [' '] ++ value.text.toList := by
  simp [Node.tokens, spaced]

theorem spaced_call (name : String) (arguments : List Node) :
    spaced (Node.call name arguments).tokens = [' '] ++ name.toList ++
      ([' '] ++ "(".toList ++ (spaced ([","].intercalate (tokensAt .disjunction arguments)) ++
        ([' '] ++ ")".toList))) := by
  rw [Node.tokens, List.cons_append, List.cons_append, spaced_cons, spaced_cons, spaced_append]
  rfl

theorem spaced_binary (operator : String) (left right : Node) :
    spaced (Node.binary operator left right).tokens =
      textAt (Level.ofOperator operator).left left ++ ([' '] ++ operator.toList ++
        textAt (Level.ofOperator operator).tighter right) := by
  rw [Node.tokens, spaced_append, spaced_cons]
  rfl

theorem spaced_negation (operand : Node) :
    spaced (Node.logical .not [operand]).tokens =
      [' '] ++ "!".toList ++ textAt .comparison operand := by
  simp [Node.tokens, tokensAt, textAt, spaced_cons]

theorem tokens_connected {connective : Connective} (joins : connective ≠ .not)
    (operands : List Node) :
    (Node.logical connective operands).tokens = [connective.symbol].intercalate
      (tokensAt (Level.ofConnective connective).tighter operands) := by
  cases connective with
  | not => exact absurd rfl joins
  | and => rfl
  | or => rfl

/-! ## Places -/

def IsReadAt (inner : Parser Node) (place : Level) (node : Node) : Prop :=
  ∀ rest, Ends place rest → Reads (parserAt inner place) (textAt place node) node rest

def Level.groups (level : Level) : Prop :=
  level = .sum ∨ level = .product

/-- The node is read as a row in a place whose level groups to the left, whatever operators of that
level go on behind it. -/
def IsRowAt (inner : Parser Node) (place : Level) (node : Node) : Prop :=
  ∀ rest, Ends place.tighter rest →
    ReadsChain (oneOf place.operators) .binary (parserAt inner place.tighter)
      (textAt place node) node rest

theorem IsRowAt.isReadAt {place : Level} (groups : place.groups) (row : IsRowAt inner place node) :
    IsReadAt inner place node := by
  intro rest ends
  have chain := (row rest ends.tighter).reads (ends.refusesAll (Nat.le_refl _))
  rcases groups with rfl | rfl
  · exact chain
  · exact chain

/-- The node is read in every place, if brackets can go as deep as its text there is long. -/
structure IsReadEverywhere (node : Node) : Prop where
  reads : ∀ place levels, (textAt place node).length ≤ levels →
    IsReadAt (Parser.nestedWithin expressionRule levels) place node
  rows : ∀ (place : Level) levels, place.groups → (textAt place node).length ≤ levels →
    IsRowAt (Parser.nestedWithin expressionRule levels) place node
  opens : ∀ place : Level, Level.comparison.rank ≤ place.rank → OpensOperand (textAt place node)

/-! ## Brackets -/

theorem term_misses_bracket {bracket : Char} {gap : List Char} (blank : IsGap gap)
    (known : bracket ∈ ['(', ')']) (rest : List Char) :
    ∀ parser ∈ [functionCall inner, (.term ∘ .variable) <$> variableName, .term <$> quotedLiteral,
      .term <$> number, .term <$> boolean, (.term ∘ .iri) <$> iri],
      Misses parser (gap ++ bracket :: rest) := by
  have each : isLayoutStart bracket = false ∧ bracket.isAlpha = false ∧
      isVariableMark bracket = false ∧ isQuote bracket = false ∧ isNumberFront bracket = false ∧
      foldsToIdentifier capital bracket = false ∧ isNameFront bracket = false := by
    simp only [List.mem_cons, List.not_mem_nil, or_false] at known
    rcases known with rfl | rfl <;> decide
  obtain ⟨noLayout, noLetter, noMark, noQuote, noNumber, noIdentifier, noName⟩ := each
  have starts : Stops isLayoutStart (bracket :: rest) := Stops.cons_iff.2 noLayout
  have noWord : scanWord Char.isAlpha isNameChar (bracket :: rest) = none := by
    simp [scanWord, noLetter]
  have run : (bracket :: rest).takeWhile (foldsToIdentifier capital) = [] :=
    (Stops.cons_iff.2 noIdentifier).takeWhile_eq_nil
  simp only [List.forall_mem_cons]
  refine ⟨?_, ?_, ?_, ?_, ?_, ?_, by simp⟩
  · exact (lexeme_misses blank starts noWord).bind
  · exact (variableName_misses blank starts (Stops.cons_iff.2 noMark)).map
  · exact (quotedText_misses blank starts (Stops.cons_iff.2 noQuote)).bind.map
  · exact (number_misses blank starts (Stops.cons_iff.2 noNumber)).map
  · refine (boolean_misses blank starts ?_ ?_).map
    · rw [run]
      decide
    · rw [run]
      decide
  · exact (iri_misses blank starts (Stops.cons_iff.2 noName)).map

theorem closing_reads (rest : List Char) :
    Reads (symbol ")") ([' '] ++ ")".toList) () rest :=
  symbol_reads IsGap.space rfl

theorem Ends.closing (place : Level) (rest : List Char) :
    Ends place ([' '] ++ ")".toList ++ rest) :=
  .of_mem (by simp [Level.endings]) rest

theorem parenthesised_reads {parser : Parser Node}
    (reads : Reads parser text node ([' '] ++ ")".toList ++ rest)) :
    Reads (parenthesised parser) ([' '] ++ "(".toList ++ (text ++ ([' '] ++ ")".toList))) node
      rest := by
  have opening : Reads (symbol "(") ([' '] ++ "(".toList) ()
      (text ++ ([' '] ++ ")".toList) ++ rest) :=
    symbol_reads IsGap.space rfl
  exact opening.bind (reads.bind (closing_reads rest).bind_pure)

/-- An expression in brackets is an operand, whatever level it has by itself. -/
theorem operand_reads_bracketed {levels : Nat}
    (bare : IsReadAt (Parser.nestedWithin expressionRule levels) .disjunction node)
    (rest : List Char) :
    Reads (operand (Parser.nestedWithin expressionRule (levels + 1)))
      ([' '] ++ "(".toList ++ (spaced node.tokens ++ ([' '] ++ ")".toList))) node rest := by
  have expression := bare _ (Ends.closing .disjunction rest)
  rw [textAt_bare (Nat.zero_le _)] at expression
  have read : Reads (parenthesised (Parser.nestedWithin expressionRule (levels + 1)))
      ([' '] ++ "(".toList ++ (spaced node.tokens ++ ([' '] ++ ")".toList))) node rest :=
    parenthesised_reads expression
  have others := @term_misses_bracket (Parser.nestedWithin expressionRule (levels + 1)) '(' [' ']
    IsGap.space (by simp) (spaced node.tokens ++ ([' '] ++ ")".toList) ++ rest)
  have ahead : [' '] ++ "(".toList ++ (spaced node.tokens ++ ([' '] ++ ")".toList)) ++ rest =
      [' '] ++ '(' :: (spaced node.tokens ++ ([' '] ++ ")".toList) ++ rest) := rfl
  rw [← ahead] at others
  simp only [List.forall_mem_cons] at others
  obtain ⟨noCall, noVariable, noString, noNumber, noTruth, noName, -⟩ := others
  exact (((((read.firstOf_here.firstOf_later noName).firstOf_later noTruth).firstOf_later
    noNumber).firstOf_later noString).firstOf_later noVariable).firstOf_later noCall

theorem expression_misses_closing (rest : List Char) :
    Misses (expressionRule inner) ([' '] ++ ")".toList ++ rest) := by
  have starts : Stops isLayoutStart (')' :: rest) := rfl
  have noBracket : Misses (symbol "(") ([' '] ++ ')' :: rest) :=
    symbol_misses IsGap.space starts rfl
  have noSign : Misses (symbol "!") ([' '] ++ ')' :: rest) := symbol_misses IsGap.space starts rfl
  have others := @term_misses_bracket inner ')' [' '] IsGap.space (by simp) rest
  have noOperand : Misses (operand inner) ([' '] ++ ')' :: rest) := by
    refine Misses.firstOf ?_
    simp only [List.forall_mem_cons] at others ⊢
    obtain ⟨noCall, noVariable, noString, noNumber, noTruth, noName, -⟩ := others
    exact ⟨noCall, noVariable, noString, noNumber, noTruth, noName, noBracket.bind, by simp⟩
  have noSum : Misses (sum inner) ([' '] ++ ')' :: rest) := noOperand.bind.bind
  have noNegation : Misses (negation inner) ([' '] ++ ')' :: rest) :=
    fun before => (noSign.optional_none before).bind_misses noSum.bind.bind
  exact noNegation.bind.bind.bind.bind

/-! ## From the own level to every place -/

structure IsReadAtOwnLevel (node : Node) : Prop where
  reads : ∀ levels, (spaced node.tokens).length ≤ levels → ∀ rest, Ends node.level rest →
    Reads (parserAt (Parser.nestedWithin expressionRule levels) node.level) (spaced node.tokens)
      node rest
  rows : ∀ levels, node.level.groups → (spaced node.tokens).length ≤ levels →
    IsRowAt (Parser.nestedWithin expressionRule levels) node.level node
  opens : Level.comparison.rank ≤ node.level.rank → OpensOperand (spaced node.tokens)

namespace IsReadAtOwnLevel

variable {place : Level} {levels : Nat}

theorem isReadAt_bare (own : IsReadAtOwnLevel node) (tight : place.rank ≤ node.level.rank)
    (enough : (spaced node.tokens).length ≤ levels) :
    IsReadAt (Parser.nestedWithin expressionRule levels) place node := by
  intro rest ends
  rw [textAt_bare tight]
  exact reads_at_looser tight (own.reads levels enough) own.opens ends

theorem isReadAt (own : IsReadAtOwnLevel node) (enough : (textAt place node).length ≤ levels) :
    IsReadAt (Parser.nestedWithin expressionRule levels) place node := by
  rcases Nat.lt_or_ge node.level.rank place.rank with loose | tight
  · intro rest ends
    rw [textAt_bracketed loose] at enough ⊢
    cases levels with
    | zero => simp at enough
    | succ levels =>
        have inside : (spaced node.tokens).length ≤ levels := by
          simp only [List.length_append, List.length_cons, List.length_nil] at enough
          omega
        have bracket := operand_reads_bracketed (own.isReadAt_bare (Nat.zero_le _) inside)
        have le : place.rank ≤ Level.operand.rank := by cases place <;> decide
        exact reads_at_looser le (fun rest _ => bracket rest)
          (fun _ => ⟨'(', _, rfl, rfl, by decide⟩) ends
  · rw [textAt_bare tight] at enough
    exact own.isReadAt_bare tight enough

theorem isRowAt (own : IsReadAtOwnLevel node) (groups : place.groups)
    (enough : (textAt place node).length ≤ levels) :
    IsRowAt (Parser.nestedWithin expressionRule levels) place node := by
  by_cases same : place = node.level
  · subst same
    rw [textAt_bare (Nat.le_refl _)] at enough
    exact own.rows levels groups enough
  · have next : place.tighter.rank = place.rank + 1 := by
      rcases groups with rfl | rfl <;> rfl
    have sameText : textAt place.tighter node = textAt place node := by
      have apart : place.rank ≠ node.level.rank := fun equal => same (Level.eq_of_rank equal)
      rcases Nat.lt_or_ge node.level.rank place.rank with loose | tight
      · rw [textAt_bracketed loose, textAt_bracketed (by omega)]
      · rw [textAt_bare tight, textAt_bare (by omega)]
    intro rest ends
    rw [← sameText] at enough ⊢
    exact .single (own.isReadAt enough rest ends)

theorem opensOperand (own : IsReadAtOwnLevel node)
    (operandLike : Level.comparison.rank ≤ place.rank) : OpensOperand (textAt place node) := by
  rcases Nat.lt_or_ge node.level.rank place.rank with loose | tight
  · rw [textAt_bracketed loose]
    exact ⟨'(', _, rfl, rfl, by decide⟩
  · rw [textAt_bare tight]
    exact own.opens (Nat.le_trans operandLike tight)

theorem isReadEverywhere (own : IsReadAtOwnLevel node) : IsReadEverywhere node :=
  ⟨fun _ _ enough => own.isReadAt enough, fun _ _ groups enough => own.isRowAt groups enough,
    fun _ operandLike => own.opensOperand operandLike⟩

end IsReadAtOwnLevel

/-! ## Terms and calls -/

theorem Term.IsFreeOfLabels.isOperand {value : Term} (free : value.IsFreeOfLabels) :
    value.IsOperand ∧ value.isPlain = true := by
  unfold Term.IsFreeOfLabels at free
  split at free
  · exact ⟨⟨free, by simp, by simp⟩, rfl⟩
  · exact ⟨⟨free, by simp, by simp⟩, rfl⟩
  · obtain ⟨wellFormed, plain⟩ := readsBack_iff.1 free
    exact ⟨⟨wellFormed, by simp, by simp⟩, plain⟩
  · exact free.elim

theorem term_isReadAtOwnLevel {value : Term} (free : value.IsFreeOfLabels) :
    IsReadAtOwnLevel (.term value) := by
  obtain ⟨isOperand, plain⟩ := free.isOperand
  have written := spaced_term value
  refine ⟨fun levels _ rest ends => ?_, fun levels groups => ?_, fun _ => ?_⟩
  · rw [written]
    exact operand_reads IsGap.space isOperand plain ends.term
  · rcases groups with same | same <;> contradiction
  · obtain ⟨c, others, letters, front⟩ := term_front isOperand.wellFormed plain
    rw [written, letters]
    refine ⟨c, others, rfl, isLayoutStart_of_isTermFront front, ?_⟩
    rintro rfl
    exact absurd front (by decide)

section Lists

variable {parser : Parser Node} {place : Level} {separator : String}

theorem separated_reads {first : Node} {others : List Node}
    (each : ∀ node ∈ first :: others, ∀ rest, Ends place rest →
      Reads parser (textAt place node) node rest)
    (known : separator ∈ place.endings) (ends : Ends place rest)
    (alone : Misses (symbol separator) rest) :
    Reads (Parser.separated1 (symbol separator) parser)
      (spaced ([separator].intercalate (tokensAt place (first :: others)))) (first :: others)
      rest := by
  have endsBehind : ∀ others : List Node, Ends place ((others.flatMap fun node =>
      [' '] ++ separator.toList ++ textAt place node) ++ rest) := by
    intro others
    cases others with
    | nil => exact ends
    | cons node others =>
        rw [List.flatMap_cons, List.append_assoc, List.append_assoc]
        exact .of_mem known _
  rw [List.forall_mem_cons] at each
  have later : ReadsEach (do symbol separator; parser)
      (others.flatMap fun node => [' '] ++ separator.toList ++ textAt place node) others rest := by
    obtain ⟨_, each⟩ := each
    induction others with
    | nil => exact .stop alone.bind
    | cons node others inductionHypothesis =>
        rw [List.forall_mem_cons] at each
        obtain ⟨c, letters, written, noLayout, _⟩ := Level.head_endings known
        have sign : ∀ behind, Reads (symbol separator) ([' '] ++ separator.toList) () behind := by
          intro behind
          refine symbol_reads IsGap.space ?_
          rw [written]
          exact Stops.cons_iff.2 noLayout
        rw [List.flatMap_cons]
        refine .more (by simp) ?_ (inductionHypothesis each.2)
        exact (sign _).bind (each.1 _ (endsBehind others))
  rw [spaced_tokensAt]
  exact (each.1 _ (endsBehind others)).separated1 later

end Lists

theorem isAlpha_of_isUpper {c : Char} (upper : c.isUpper = true) : c.isAlpha = true :=
  Bool.or_eq_true_iff.2 (.inl upper)

theorem char_of_isFunctionName {c : Char} (inside : (c.isUpper || c.isDigit || c == '_') = true) :
    isNameChar c = true ∧ c.toUpper = c := by
  have small : c.toNat < 128 := by
    simp only [Bool.or_eq_true, beq_iff_eq] at inside
    rcases inside with (upper | digit) | rfl
    · have range := toNat_of_isAlpha (isAlpha_of_isUpper upper)
      omega
    · have range := toNat_of_isAlphanum (c := c) (by rw [Char.isAlphanum, digit, Bool.or_true])
      omega
    · decide
  exact of_forall_ascii (fun c => (c.isUpper || c.isDigit || c == '_') = true →
    isNameChar c = true ∧ c.toUpper = c) (by decide) small inside

theorem toUpper_of_isFunctionName {name : String} (isName : IsFunctionName name) :
    String.ofList (name.toList.map Char.toUpper) = name := by
  have stays : ∀ c ∈ name.toList, c.toUpper = c :=
    fun c inside => (char_of_isFunctionName (isName.2 c inside)).2
  rw [List.map_congr_left stays, List.map_id', String.ofList_toList]

theorem functionName_front {name : String} (isName : IsFunctionName name) :
    ∃ c others, name.toList = c :: others ∧ c.isAlpha = true := by
  cases letters : name.toList with
  | nil => simp [IsFunctionName, letters] at isName
  | cons c others =>
      exact ⟨c, others, rfl, isAlpha_of_isUpper (by simpa [letters] using isName.1)⟩

theorem functionName_reads {name : String} (isName : IsFunctionName name) (rest : List Char) :
    Reads (lexeme (scanWord Char.isAlpha isNameChar)) ([' '] ++ name.toList) name.toList
      (' ' :: rest) := by
  obtain ⟨c, others, letters, letter⟩ := functionName_front isName
  have inside : ∀ d ∈ others, isNameChar d = true := fun d known =>
    (char_of_isFunctionName (isName.2 d (by simp [letters, known]))).1
  have stops : Stops isNameChar (' ' :: rest) := rfl
  rw [letters]
  refine lexeme_reads IsGap.space ?_ ?_
  · exact Stops.cons_iff.2 (isLayoutStart_eq_false (by decide) letter)
  · rw [List.cons_append, scanWord, if_pos letter, takeWhile_run inside stops,
      dropWhile_run inside stops]

theorem arguments_reads {arguments : List Node} {levels : Nat}
    (each : ∀ argument ∈ arguments, IsReadEverywhere argument)
    (enough : (spaced ([","].intercalate (tokensAt .disjunction arguments))).length < levels)
    (rest : List Char) :
    ∃ found, found.getD [] = arguments ∧
      Reads (Parser.optional (Parser.separated1 (symbol ",")
        (Parser.nestedWithin expressionRule levels)))
        (spaced ([","].intercalate (tokensAt .disjunction arguments))) found
        ([' '] ++ ")".toList ++ rest) := by
  cases arguments with
  | nil =>
      have nothing : Misses (Parser.nestedWithin expressionRule levels)
          ([' '] ++ ")".toList ++ rest) :=
        Misses.nestedWithin (fun _ => expression_misses_closing rest) levels
      exact ⟨none, rfl, nothing.bind.optional_none⟩
  | cons first others =>
      have noComma : Misses (symbol ",") ([' '] ++ ")".toList ++ rest) :=
        @symbol_misses "," [' '] _ IsGap.space rfl rfl
      refine ⟨some (first :: others), rfl, Reads.optional_some
        (separated_reads ?_ (by decide) (.closing _ rest) noComma)⟩
      intro argument inside behind endsBehind
      have part := @length_textAt_le argument "," .disjunction _ inside
      cases levels with
      | zero => omega
      | succ levels =>
          have read := (each argument inside).reads .disjunction levels (by omega)
          exact read behind endsBehind

theorem call_isReadAtOwnLevel {name : String} {arguments : List Node}
    (isName : IsFunctionName name) (each : ∀ argument ∈ arguments, IsReadEverywhere argument) :
    IsReadAtOwnLevel (.call name arguments) := by
  have written := spaced_call name arguments
  refine ⟨fun levels enough rest ends => ?_, fun levels groups => ?_, fun _ => ?_⟩
  · rw [written] at enough ⊢
    simp only [List.length_append, List.length_cons, List.length_nil] at enough
    have opening : ∀ behind, Reads (symbol "(") ([' '] ++ "(".toList) () behind :=
      fun behind => symbol_reads IsGap.space rfl
    obtain ⟨found, isWhole, givenReads⟩ := @arguments_reads _ levels each (by omega) rest
    have call : Reads (functionCall (Parser.nestedWithin expressionRule levels))
        ([' '] ++ name.toList ++ ([' '] ++ "(".toList ++
          (spaced ([","].intercalate (tokensAt .disjunction arguments)) ++ ([' '] ++ ")".toList))))
        (.call (String.ofList (name.toList.map Char.toUpper)) (found.getD [])) rest :=
      (functionName_reads isName _).bind
        ((opening _).bind (givenReads.bind (closing_reads rest).bind_pure))
    rw [toUpper_of_isFunctionName isName, isWhole] at call
    exact call.firstOf_here
  · rcases groups with same | same <;> contradiction
  · obtain ⟨c, others, letters, letter⟩ := functionName_front isName
    rw [written, letters]
    refine ⟨c, _, rfl, isLayoutStart_eq_false (by decide) letter, ?_⟩
    rintro rfl
    contradiction

/-! ## Operators -/

theorem operator_known {operator : String}
    (known : operator ∈ comparisonSpellings ++ arithmeticOperators) :
    operator ∈ (Level.ofOperator operator).operators ∧
      (Level.ofOperator operator = .comparison ∨ (Level.ofOperator operator).groups) := by
  have each : ∀ operator ∈ comparisonSpellings ++ arithmeticOperators,
      operator ∈ (Level.ofOperator operator).operators ∧
        (Level.ofOperator operator = .comparison ∨ Level.ofOperator operator = .sum ∨
          Level.ofOperator operator = .product) := by
    decide
  exact each operator known

theorem operator_reads {level : Level} {operator : String} (known : operator ∈ level.operators)
    (isBinary : level = .comparison ∨ level.groups) (rest : List Char) :
    Reads (oneOf level.operators) ([' '] ++ operator.toList) operator (' ' :: rest) := by
  rcases isBinary with rfl | rfl | rfl
  · have compares : ∀ operator ∈ Level.comparison.operators,
        (Comparison.ofOperator? operator).isSome = true := by
      decide
    exact comparisonOperator_reads IsGap.space (compares operator known) rest
  · have cases : operator = "+" ∨ operator = "-" := by simpa [Level.operators] using known
    rcases cases with rfl | rfl
    · exact oneOf_reads [] ["-"] IsGap.space rfl rfl
    · exact oneOf_reads ["+"] [] IsGap.space rfl rfl
  · have cases : operator = "*" ∨ operator = "/" := by simpa [Level.operators] using known
    rcases cases with rfl | rfl
    · exact oneOf_reads [] ["/"] IsGap.space rfl rfl
    · exact oneOf_reads ["*"] [] IsGap.space rfl rfl

theorem Level.mem_endings_tighter {level : Level} {operator : String}
    (known : operator ∈ level.operators) : operator ∈ level.tighter.endings := by
  have each : ∀ operator ∈ level.operators, operator ∈ level.tighter.endings := by
    cases level <;> decide
  exact each operator known

theorem operator_reads_opening {level : Level} {operator : String} {text : List Char}
    (known : operator ∈ level.operators) (isBinary : level = .comparison ∨ level.groups)
    (opens : OpensOperand text) (rest : List Char) :
    Reads (oneOf level.operators) ([' '] ++ operator.toList) operator (text ++ rest) := by
  obtain ⟨c, behind, rfl, _⟩ := opens
  exact operator_reads known isBinary _

section Binary

variable {level : Level} {operator : String} {left right : Node}

theorem readsChain_binary (groups : level.groups) (known : operator ∈ level.operators)
    (isLeft : IsRowAt inner level left) (isRight : IsReadAt inner level.tighter right)
    (opens : OpensOperand (textAt level.tighter right)) (ends : Ends level.tighter rest) :
    ReadsChain (oneOf level.operators) .binary (parserAt inner level.tighter)
      (textAt level left ++ ([' '] ++ operator.toList ++ textAt level.tighter right))
      (.binary operator left right) rest := by
  have row := isLeft _ (.of_mem (Level.mem_endings_tighter known)
    (textAt level.tighter right ++ rest))
  exact .more (by simp) row (operator_reads_opening known (.inr groups) opens rest)
    (isRight rest ends)

theorem comparison_reads_operands (known : operator ∈ comparisonSpellings)
    (isLeft : IsReadAt inner .sum left) (isRight : IsReadAt inner .sum right)
    (opens : OpensOperand (textAt .sum right)) (ends : Ends .sum rest) :
    Reads (comparison inner)
      (textAt .sum left ++ ([' '] ++ operator.toList ++ textAt .sum right))
      (.binary operator left right) rest := by
  have leftReads := isLeft _ (.of_mem (@Level.mem_endings_tighter .comparison _ known)
    (textAt .sum right ++ rest))
  rw [← List.append_assoc] at leftReads
  have sign : Reads comparisonOperator ([' '] ++ operator.toList) operator
      (textAt .sum right ++ rest) :=
    @operator_reads_opening .comparison _ _ known (.inl rfl) opens rest
  have behind : Reads (do
      let operator ← comparisonOperator
      let right ← sum inner
      return (operator, right))
      ([' '] ++ operator.toList ++ textAt .sum right) (operator, right) rest :=
    sign.bind (Reads.bind_pure (isRight rest ends))
  exact leftReads.bind (behind.optional_some.bind_end (Reads.pure _ _))

theorem binary_isReadAtOwnLevel (known : operator ∈ comparisonSpellings ++ arithmeticOperators)
    (isLeft : IsReadEverywhere left) (isRight : IsReadEverywhere right) :
    IsReadAtOwnLevel (.binary operator left right) := by
  obtain ⟨isOperator, isBinary⟩ := operator_known known
  have written := spaced_binary operator left right
  have isLevel : (Node.binary operator left right).level = Level.ofOperator operator := rfl
  generalize Level.ofOperator operator = level at isOperator isBinary written isLevel
  have isBare : textAt level (.binary operator left right) = spaced (Node.tokens _) :=
    textAt_bare (Nat.le_of_eq (congrArg Level.rank isLevel.symm))
  have tight : Level.comparison.rank ≤ level.left.rank ∧
      Level.comparison.rank ≤ level.tighter.rank := by
    rcases isBinary with rfl | rfl | rfl <;> decide
  have rows : ∀ levels, level.groups → (spaced (Node.binary operator left right).tokens).length ≤
      levels → IsRowAt (Parser.nestedWithin expressionRule levels) level
        (.binary operator left right) := by
    intro levels groups enough rest ends
    have same : level.left = level := by
      rcases groups with rfl | rfl <;> rfl
    rw [isBare, written, same]
    rw [written, same] at enough
    simp only [List.length_append] at enough
    exact readsChain_binary groups isOperator (isLeft.rows level levels groups (by omega))
      (isRight.reads level.tighter levels (by omega)) (isRight.opens level.tighter tight.2) ends
  refine ⟨?_, by rw [isLevel]; exact rows, fun _ => ?_⟩
  · rw [isLevel]
    intro levels enough rest ends
    rcases isBinary with rfl | groups
    · rw [written] at enough ⊢
      simp only [List.length_append] at enough
      have leftReads := isLeft.reads Level.comparison.left levels (by omega)
      have rightReads := isRight.reads Level.comparison.tighter levels (by omega)
      exact comparison_reads_operands isOperator leftReads rightReads (isRight.opens _ tight.2)
        ends.tighter
    · have read := (rows levels groups enough).isReadAt groups rest ends
      rw [isBare] at read
      exact read
  · rw [written]
    exact (isLeft.opens level.left tight.1).append _

end Binary

/-! ## Connectives -/

theorem negation_isReadAtOwnLevel {operand : Node} (isOperand : IsReadEverywhere operand) :
    IsReadAtOwnLevel (.logical .not [operand]) := by
  have written := spaced_negation operand
  refine ⟨fun levels enough rest ends => ?_, fun levels groups => ?_, fun loose => ?_⟩
  · rw [written] at enough ⊢
    simp only [List.length_append] at enough
    have sign : ∀ behind, Reads (symbol "!") ([' '] ++ "!".toList) () behind :=
      fun behind => symbol_reads IsGap.space rfl
    have read := isOperand.reads .comparison levels (by omega) rest ends.tighter
    exact (sign _).optional_some.bind read.bind_pure
  · rcases groups with same | same <;> contradiction
  · have isLoose : ¬Level.comparison.rank ≤ Level.negation.rank := by decide
    exact absurd loose isLoose

theorem connected_isReadAtOwnLevel {connective : Connective} {operands : List Node}
    (joins : connective ≠ .not) (several : 2 ≤ operands.length)
    (each : ∀ operand ∈ operands, IsReadEverywhere operand) :
    IsReadAtOwnLevel (.logical connective operands) := by
  have written := tokens_connected joins operands
  have isOperator : connective.symbol ∈ (Level.ofConnective connective).operators := by
    cases connective with
    | not => exact absurd rfl joins
    | and => decide
    | or => decide
  refine ⟨fun levels enough rest ends => ?_, fun levels groups => ?_, fun loose => ?_⟩
  · rw [written] at enough ⊢
    cases operands with
    | nil => simp at several
    | cons first others =>
        cases others with
        | nil => simp at several
        | cons second others =>
            have endsLevel : Ends (Level.ofConnective connective) rest := ends
            have eachReads : ∀ operand ∈ first :: second :: others,
                IsReadAt (Parser.nestedWithin expressionRule levels)
                  (Level.ofConnective connective).tighter operand := by
              intro operand inside
              have part := @length_textAt_le operand connective.symbol
                (Level.ofConnective connective).tighter _ inside
              exact (each operand inside).reads _ levels (by omega)
            have items := separated_reads eachReads (Level.mem_endings_tighter isOperator)
              endsLevel.tighter (endsLevel.refuses (Nat.le_refl _) isOperator)
            cases connective with
            | not => exact absurd rfl joins
            | and => exact items.bind_end (Reads.pure _ rest)
            | or => exact items.bind_end (Reads.pure _ rest)
  · cases connective <;> rcases groups with same | same <;> contradiction
  · have isLoose : ¬Level.comparison.rank ≤ (Level.ofConnective connective).rank := by
      cases connective <;> decide
    exact absurd loose isLoose

/-- Every expression is read from its text in every place. -/
theorem IsExpression.isReadEverywhere {expression : Node} (isExpression : IsExpression expression) :
    IsReadEverywhere expression := by
  -- By induction on the expression: its parts are read wherever they stand, and so it is read at
  -- its own level, from which it comes to every place.
  refine IsReadAtOwnLevel.isReadEverywhere ?_
  induction isExpression with
  | term free => exact term_isReadAtOwnLevel free
  | call isName _ own =>
      exact call_isReadAtOwnLevel isName fun argument inside =>
        (own argument inside).isReadEverywhere
  | binary known _ _ left right =>
      exact binary_isReadAtOwnLevel known left.isReadEverywhere right.isReadEverywhere
  | connected joins several _ own =>
      exact connected_isReadAtOwnLevel joins several fun operand inside =>
        (own operand inside).isReadEverywhere
  | negation _ own => exact negation_isReadAtOwnLevel own.isReadEverywhere

end FactQuery.Sparql
