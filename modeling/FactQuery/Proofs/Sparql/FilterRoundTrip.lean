import FactQuery.Proofs.Sparql.TermRoundTrip

/-!
# Written comparisons are read back

A comparison of two terms is read from its text through all levels of an expression, each of which
finds a single operand.
-/

set_option autoImplicit false

namespace FactQuery.Sparql

open FactQuery.Grammar FactQuery.Token

/-! ## Operators -/

theorem oneOf_misses {tokens : List String} {gap text : List Char} (blank : IsGap gap)
    (starts : Stops isLayoutStart text)
    (refused : (tokens.all fun token => (exactly token.toList text).isNone) = true) :
    Misses (oneOf tokens) (gap ++ text) := by
  rw [List.all_eq_true] at refused
  refine Misses.firstOf fun parser inside => ?_
  obtain ⟨token, known, rfl⟩ := List.mem_map.1 inside
  have refusedHere := Option.isNone_iff_eq_none.1 (refused token known)
  exact (symbol_misses blank starts refusedHere).bind

/-- A token is read if none of the earlier ones is a prefix of the text. -/
theorem oneOf_reads (earlier later : List String) {token : String} {gap rest : List Char}
    (blank : IsGap gap) (starts : Stops isLayoutStart (token.toList ++ rest))
    (refused : (earlier.all fun other =>
      (exactly other.toList (token.toList ++ rest)).isNone) = true) :
    Reads (oneOf (earlier ++ token :: later)) (gap ++ token.toList) token rest := by
  induction earlier with
  | nil => exact Reads.firstOf_here (symbol_reads blank starts).bind_pure
  | cons other earlier inductionHypothesis =>
      rw [List.all_cons, Bool.and_eq_true] at refused
      have refusedHere := Option.isNone_iff_eq_none.1 refused.1
      have missed : Misses (symbol other) (gap ++ token.toList ++ rest) := by
        rw [List.append_assoc]
        exact symbol_misses blank starts refusedHere
      exact (inductionHypothesis refused.2).firstOf_later missed.bind

theorem mem_of_ofOperator? {operator : String}
    (compares : (Comparison.ofOperator? operator).isSome = true) :
    operator = "<=" ∨ operator = ">=" ∨ operator = "!=" ∨ operator = "<>" ∨ operator = "==" ∨
      operator = "=" ∨ operator = "<" ∨ operator = ">" := by
  unfold Comparison.ofOperator? at compares
  grind

theorem comparisonOperator_reads {operator : String} {gap : List Char} (blank : IsGap gap)
    (compares : (Comparison.ofOperator? operator).isSome = true) (rest : List Char) :
    Reads comparisonOperator (gap ++ operator.toList) operator (' ' :: rest) := by
  rcases mem_of_ofOperator? compares with rfl | rfl | rfl | rfl | rfl | rfl | rfl | rfl
  · exact oneOf_reads [] [">=", "!=", "<>", "==", "=", "<", ">"] blank rfl rfl
  · exact oneOf_reads ["<="] ["!=", "<>", "==", "=", "<", ">"] blank rfl rfl
  · exact oneOf_reads ["<=", ">="] ["<>", "==", "=", "<", ">"] blank rfl rfl
  · exact oneOf_reads ["<=", ">=", "!="] ["==", "=", "<", ">"] blank rfl rfl
  · exact oneOf_reads ["<=", ">=", "!=", "<>"] ["=", "<", ">"] blank rfl rfl
  · exact oneOf_reads ["<=", ">=", "!=", "<>", "=="] ["<", ">"] blank rfl rfl
  · exact oneOf_reads ["<=", ">=", "!=", "<>", "==", "="] [">"] blank rfl rfl
  · exact oneOf_reads ["<=", ">=", "!=", "<>", "==", "=", "<"] [] blank rfl rfl

/-- What stands behind an operand, so that neither a product nor a sum goes on there. -/
structure EndsOperand (rest : List Char) : Prop where
  term : EndsTerm rest
  noProduct : Misses (oneOf ["*", "/"]) rest
  noSum : Misses (oneOf ["+", "-"]) rest

theorem EndsOperand.bracket (rest : List Char) : EndsOperand (')' :: rest) := by
  have starts : Stops isLayoutStart (')' :: rest) := rfl
  exact ⟨EndsTerm.bracket rest, oneOf_misses IsGap.nil starts rfl,
    oneOf_misses IsGap.nil starts rfl⟩

theorem EndsOperand.comparison {operator : String}
    (compares : (Comparison.ofOperator? operator).isSome = true) (rest : List Char) :
    EndsOperand (' ' :: (operator.toList ++ rest)) := by
  have ends : ∀ text : List Char, Stops isLayoutStart text → Stops isSuffixFront text →
      (["*", "/"].all fun token => (exactly token.toList text).isNone) = true →
      (["+", "-"].all fun token => (exactly token.toList text).isNone) = true →
      EndsOperand (' ' :: text) := by
    intro text starts noSuffix noProduct noSum
    exact ⟨EndsTerm.space starts noSuffix, oneOf_misses IsGap.space starts noProduct,
      oneOf_misses IsGap.space starts noSum⟩
  rcases mem_of_ofOperator? compares with rfl | rfl | rfl | rfl | rfl | rfl | rfl | rfl <;>
    exact ends _ rfl rfl rfl rfl

/-! ## Comparisons -/

theorem sum_reads {term : Term} {inner : Parser Node} {gap rest : List Char} (blank : IsGap gap)
    (isOperand : term.IsOperand) (plain : term.isPlain = true) (ends : EndsOperand rest) :
    Reads (sum inner) (gap ++ term.text.toList) (.term term) rest := by
  have operand : Reads (operand inner) (gap ++ term.text.toList) (.term term) rest :=
    operand_reads blank isOperand plain ends.term
  have single : Reads (product inner) (gap ++ term.text.toList) (.term term) rest :=
    operand.leftChain_single ends.noProduct
  exact single.leftChain_single ends.noSum

structure IsComparison (operator : String) (left right : Term) : Prop where
  compares : (Comparison.ofOperator? operator).isSome = true
  leftOperand : left.IsOperand
  leftPlain : left.isPlain = true
  rightOperand : right.IsOperand
  rightPlain : right.isPlain = true

variable {operator : String} {left right : Term}

theorem comparison_reads (inner : Parser Node) (good : IsComparison operator left right)
    (rest : List Char) :
    Reads (comparison inner) ([] ++ left.text.toList ++ ([' '] ++ operator.toList ++
      ([' '] ++ right.text.toList))) (.binary operator (.term left) (.term right))
      (')' :: rest) := by
  have leftReads : Reads (sum inner) ([] ++ left.text.toList) (.term left)
      ([' '] ++ operator.toList ++ ([' '] ++ right.text.toList) ++ ')' :: rest) := by
    refine sum_reads IsGap.nil good.leftOperand good.leftPlain ?_
    rw [List.append_assoc, List.append_assoc]
    exact EndsOperand.comparison good.compares _
  have operatorReads : Reads comparisonOperator ([' '] ++ operator.toList) operator
      ([' '] ++ right.text.toList ++ ')' :: rest) :=
    comparisonOperator_reads IsGap.space good.compares _
  have rightReads : Reads (sum inner) ([' '] ++ right.text.toList) (.term right) (')' :: rest) :=
    sum_reads IsGap.space good.rightOperand good.rightPlain (EndsOperand.bracket rest)
  have behind : Reads (do
      let operator ← comparisonOperator
      let right ← sum inner
      return (operator, right)) ([' '] ++ operator.toList ++ ([' '] ++ right.text.toList))
      (operator, .term right) (')' :: rest) :=
    operatorReads.bind rightReads.bind_pure
  exact leftReads.bind (behind.optional_some.bind_end (Reads.pure _ _))

theorem connected_single {connective : Connective} {parser : Parser Node} {text rest : List Char}
    {node : Node} (reads : Reads parser text node rest)
    (alone : Misses (symbol connective.symbol) rest) :
    Reads (connected connective parser) text node rest :=
  (reads.separated1_single alone).bind_end (Reads.pure node rest)

theorem expression_reads (good : IsComparison operator left right) (rest : List Char) :
    Reads expression ([] ++ left.text.toList ++ ([' '] ++ operator.toList ++
      ([' '] ++ right.text.toList))) (.binary operator (.term left) (.term right))
      (')' :: rest) := by
  refine Reads.nested fun levels => ?_
  generalize Parser.nestedWithin expressionRule levels = inner
  have starts : Stops isLayoutStart (')' :: rest) := rfl
  have noSign : Misses (symbol "!") ([] ++ (left.text.toList ++ ([' '] ++ operator.toList ++
      ([' '] ++ right.text.toList) ++ ')' :: rest))) :=
    symbol_misses_term IsGap.nil good.leftOperand.wellFormed good.leftPlain rfl (by decide) _
  have negated : Reads (negation inner) ([] ++ left.text.toList ++ ([' '] ++ operator.toList ++
      ([' '] ++ right.text.toList))) (.binary operator (.term left) (.term right))
      (')' :: rest) := by
    have sign : Reads (Parser.optional (symbol "!")) [] none ([] ++ left.text.toList ++
        ([' '] ++ operator.toList ++ ([' '] ++ right.text.toList)) ++ ')' :: rest) := by
      rw [List.nil_append, List.append_assoc]
      exact noSign.optional_none
    exact sign.bind_nil ((comparison_reads inner good rest).bind_pure)
  have noAnd : Misses (symbol Connective.and.symbol) (')' :: rest) :=
    symbol_misses IsGap.nil starts rfl
  have noOr : Misses (symbol Connective.or.symbol) (')' :: rest) :=
    symbol_misses IsGap.nil starts rfl
  exact connected_single (connected_single negated noAnd) noOr

end FactQuery.Sparql
