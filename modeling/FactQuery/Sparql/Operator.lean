/-!
# Operators

Comparisons and logical connectives, with their spellings.
-/

set_option autoImplicit false

namespace FactQuery.Sparql

inductive Comparison where
  | equal
  | unequal
  | less
  | atMost
  | greater
  | atLeast
  deriving DecidableEq, Repr

namespace Comparison

/-- The comparison that an operator writes.  Equality and its negation have two spellings. -/
def ofOperator? (operator : String) : Option Comparison :=
  if operator == "=" || operator == "==" then some .equal
  else if operator == "!=" || operator == "<>" then some .unequal
  else if operator == "<" then some .less
  else if operator == "<=" then some .atMost
  else if operator == ">" then some .greater
  else if operator == ">=" then some .atLeast
  else none

def symbol : Comparison → String
  | .equal => "="
  | .unequal => "!="
  | .less => "<"
  | .atMost => "<="
  | .greater => ">"
  | .atLeast => ">="

theorem ofOperator?_symbol (comparison : Comparison) :
    ofOperator? comparison.symbol = some comparison := by
  cases comparison <;> rfl

end Comparison

inductive Connective where
  | and
  | or
  | not
  deriving DecidableEq, Repr

namespace Connective

def symbol : Connective → String
  | .and => "&&"
  | .or => "||"
  | .not => "!"

def ofSymbol? (text : String) : Option Connective :=
  [Connective.and, .or, .not].find? fun connective => connective.symbol == text

theorem ofSymbol?_symbol (connective : Connective) :
    ofSymbol? connective.symbol = some connective := by
  cases connective <;> rfl

end Connective

end FactQuery.Sparql
