import FactQuery.Number.Numeral
import FactQuery.Sparql.Query
import FactQuery.Text.Escape
import FactQuery.Text.Position

/-!
# What is wrong with a query

Each cause has its own constructor, and one function words them all.
-/

set_option autoImplicit false

namespace FactQuery

open FactQuery.Text

inductive QueryError where
  | malformed
  | badEscape (error : EscapeError) (place : Position)
  | undeclared (label : String)
  | unsupportedForm (form : String)
  | unsupportedPattern (kind : String)
  /-- A triple pattern holds something that cannot be matched; its outline is told. -/
  | malformedTerm (outline : String)
  | unboundVariable (name : String)
  | unsupportedOperator (operator : String)
  | unsupportedExpression (kind : String)
  | unsupportedOperand (text : String)
  deriving DecidableEq, Repr

def QueryError.message : QueryError → String
  | .malformed => "Expected end of text"
  | .badEscape error _ => error.message
  | .undeclared label => "Unknown prefix: " ++ label
  | .unsupportedForm form => "Only SELECT queries are supported (got " ++ form ++ ")."
  | .unsupportedPattern kind => "Unsupported pattern type: " ++ kind
  | .malformedTerm outline => "Unsupported term type: " ++ outline
  | .unboundVariable name => "Variable ?" ++ name ++ " is unbound in FILTER."
  | .unsupportedOperator operator => "Unsupported operator in FILTER: " ++ operator
  | .unsupportedExpression kind => "Unsupported FILTER expression type: " ++ kind
  | .unsupportedOperand text => "Unsupported term type in FILTER: " ++ text

/-- What stops the evaluation of a query: the query is at fault, or a value in the data is a numeral
that cannot be read.  A syntax tree built by hand has two more ways to fail. -/
inductive Fault where
  | query (error : QueryError)
  | numeral (error : Number.UnreadableNumeral)
  /-- A short name without a colon stands for nothing. -/
  | colonless (name : String)
  /-- An operand that is to be told cannot be written. -/
  | unwritable
  deriving DecidableEq, Repr

def Fault.message : Fault → String
  | .query error => error.message
  | .numeral error => "Unreadable numeral: " ++ error.text
  | .colonless name => "Short name without a colon: " ++ name
  | .unwritable => "Negation without an operand"

@[simp]
theorem ok_bind {ε α β : Type} (value : α) (next : α → Except ε β) :
    (Except.ok value >>= next) = next value := rfl

@[simp]
theorem error_bind {ε α β : Type} (error : ε) (next : α → Except ε β) :
    (Except.error error >>= next) = .error error := rfl

theorem bind_eq_ok_iff {ε α β : Type} {first : Except ε α} {next : α → Except ε β} {value : β} :
    (first >>= next) = .ok value ↔ ∃ middle, first = .ok middle ∧ next middle = .ok value := by
  cases first with
  | ok middle => simp
  | error error => simp

theorem bind_eq_error_iff {ε α β : Type} {first : Except ε α} {next : α → Except ε β} {error : ε} :
    (first >>= next) = .error error ↔
      first = .error error ∨ ∃ value, first = .ok value ∧ next value = .error error := by
  cases first with
  | ok value => simp
  | error other => simp

abbrev Evaluation (α : Type) : Type :=
  Except Fault α

def Evaluation.ofNumeral {α : Type} : Except Number.UnreadableNumeral α → Evaluation α
  | .ok value => .ok value
  | .error error => .error (.numeral error)

def Evaluation.ofQuery {α : Type} : Except QueryError α → Evaluation α
  | .ok value => .ok value
  | .error error => .error (.query error)

end FactQuery
