import FactQuery.Evaluation.Error
import FactQuery.Evaluation.Row
import FactQuery.Number.Order

/-!
# Filters

A filter is a comparison of two operands, each a variable or a literal.  Two numerals are compared
as numbers and any other two values as texts.  Every other shape is a fault, never true or false.
-/

set_option autoImplicit false

namespace FactQuery

open FactQuery.Sparql FactQuery.Number

def Sparql.Comparison.holds (comparison : Comparison) (left right : Comparand) : Bool :=
  match comparison with
  | .equal => left.equal right
  | .unequal => !left.equal right
  | .less => left.less right
  | .atMost => left.less right || left.equal right
  | .greater => right.less left
  | .atLeast => right.less left || left.equal right

namespace Filter

def operandValue (row : Row) : Node → Evaluation String
  | .term (.variable name) =>
    match Row.value? row name with
    | some value => .ok value
    | none => .error (.query (.unboundVariable name))
  | .term (.literal value _ _) => .ok value
  | other =>
    .error (if other.isWritable then .query (.unsupportedOperand other.text) else .unwritable)

/-- What a filter asks of a row.  A condition that is given without its filter stands for itself. -/
def condition : Node → Node
  | .filter inner => inner
  | other => other

def holds (row : Row) : Node → Evaluation Bool
  | .binary operator left right =>
    match Comparison.ofOperator? operator with
    | none => .error (.query (.unsupportedOperator operator))
    | some comparison => do
      let first ← operandValue row left
      let second ← operandValue row right
      let pair ← Evaluation.ofNumeral (coercePair first second)
      return comparison.holds pair.1 pair.2
  | other => .error (.query (.unsupportedExpression other.kind))

/-- Whether the conditions are all true of a row.  The first that is not true decides. -/
def allHold (row : Row) : List Node → Evaluation Bool
  | [] => .ok true
  | condition :: others => do
    if ← holds row condition then allHold row others else return false

def apply (conditions : List Node) : List Row → Evaluation (List Row)
  | [] => .ok []
  | row :: others => do
    let kept ← allHold row conditions
    let rest ← apply conditions others
    return if kept then row :: rest else rest

end Filter

end FactQuery
