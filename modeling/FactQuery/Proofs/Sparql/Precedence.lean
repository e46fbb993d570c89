import FactQuery.Proofs.Sparql.Nesting
import FactQuery.Proofs.Sparql.ReadBack

/-!
# Expressions as rows of tokens

An expression is written with a blank between any two of its tokens.  Each place inside it takes
what binds tightly enough; whatever binds more loosely stands in brackets there, and nothing else
does.
-/

set_option autoImplicit false

namespace FactQuery.Sparql

open FactQuery.Text FactQuery.Grammar FactQuery.Token

/-! ## Levels -/

/-- How tightly the parts of an expression are bound together, the loosest first. -/
inductive Level where
  | disjunction
  | conjunction
  | negation
  | comparison
  | sum
  | product
  | operand
  deriving DecidableEq, Repr

namespace Level

def rank : Level → Nat
  | .disjunction => 0
  | .conjunction => 1
  | .negation => 2
  | .comparison => 3
  | .sum => 4
  | .product => 5
  | .operand => 6

def tighter : Level → Level
  | .disjunction => .conjunction
  | .conjunction => .negation
  | .negation => .comparison
  | .comparison => .sum
  | .sum => .product
  | .product => .operand
  | .operand => .operand

/-- What the place to the left of an operator takes: sums and products group to the left. -/
def left : Level → Level
  | .sum => .sum
  | .product => .product
  | level => level.tighter

def operators : Level → List String
  | .disjunction => ["||"]
  | .conjunction => ["&&"]
  | .negation => []
  | .comparison => comparisonSpellings
  | .sum => ["+", "-"]
  | .product => ["*", "/"]
  | .operand => []

def ofOperator (operator : String) : Level :=
  if operator ∈ product.operators then .product
  else if operator ∈ sum.operators then .sum
  else .comparison

def ofConnective : Connective → Level
  | .or => .disjunction
  | .and => .conjunction
  | .not => .negation

end Level

def Node.level : Node → Level
  | .binary operator _ _ => .ofOperator operator
  | .logical connective _ => .ofConnective connective
  | _ => .operand

/-! ## Tokens -/

/-- The tokens of a node in a place, in brackets if the place takes only what binds more tightly. -/
def bracketed (place : Level) (node : Node) (tokens : List String) : List String :=
  if node.level.rank < place.rank then "(" :: tokens ++ [")"] else tokens

mutual

/-- The tokens of an expression or a filter.  Other nodes are no expressions and have none. -/
def Node.tokens : Node → List String
  | .term value => [value.text]
  | .binary operator left right =>
    bracketed (Level.ofOperator operator).left left left.tokens ++ operator ::
      bracketed (Level.ofOperator operator).tighter right right.tokens
  | .logical .not operands => "!" :: (tokensAt .comparison operands).flatten
  | .logical connective operands =>
    [connective.symbol].intercalate (tokensAt (Level.ofConnective connective).tighter operands)
  | .call name arguments =>
    name :: "(" :: [","].intercalate (tokensAt .disjunction arguments) ++ [")"]
  | .filter condition => "FILTER" :: "(" :: condition.tokens ++ [")"]
  | .triples _ => []
  | .group _ => []
  | .optional _ => []
  | .union _ => []

def tokensAt (place : Level) : List Node → List (List String)
  | [] => []
  | first :: others => bracketed place first first.tokens :: tokensAt place others

end

/-- The text of a filter, with a blank between any two tokens. -/
def Node.spacedText (node : Node) : String :=
  " ".intercalate node.tokens

/-! ## Expressions -/

/-- The terms of an expression that name no label: variables, full names, and quoted literals that
are read back as they are. -/
def Term.IsFreeOfLabels : Term → Prop
  | .variable name => IsVariableName name
  | .iri (.full value) => IsIriText value
  | .literal value language datatype => (Term.literal value language datatype).ReadsBack
  | _ => False

/-- What is built from such terms by calls, operators and connectives. -/
inductive IsExpression : Node → Prop where
  | term {value : Term} (free : value.IsFreeOfLabels) : IsExpression (.term value)
  | call {name : String} {arguments : List Node} (isName : IsFunctionName name)
      (each : ∀ argument ∈ arguments, IsExpression argument) : IsExpression (.call name arguments)
  | binary {operator : String} {left right : Node}
      (known : operator ∈ comparisonSpellings ++ arithmeticOperators)
      (isLeft : IsExpression left) (isRight : IsExpression right) :
      IsExpression (.binary operator left right)
  | connected {connective : Connective} {operands : List Node} (joins : connective ≠ .not)
      (several : 2 ≤ operands.length) (each : ∀ operand ∈ operands, IsExpression operand) :
      IsExpression (.logical connective operands)
  | negation {operand : Node} (isOperand : IsExpression operand) :
      IsExpression (.logical .not [operand])

end FactQuery.Sparql
