import FactQuery.Evaluation.Error
import FactQuery.Sparql.Grammar
import FactQuery.Text.TabStop

/-!
# Queries from text

A text is a query if the grammar accepts all of it and every prefixed name in a triple pattern or a
filter has a declared label.
-/

set_option autoImplicit false

namespace FactQuery.Sparql

open FactQuery.Text FactQuery.Grammar

/-- The query that a text writes, with its labels not looked at. -/
def Query.parse (text : String) : Except QueryError Query :=
  let expanded := expandTabs text.toList
  match query (Cursor.start expanded) with
  | .matched found _ => .ok found
  | .missed => .error .malformed
  | .aborted error stop => .error (.badEscape error (Position.ofRemaining expanded stop.rest))

def Query.ofText (text : String) : Except QueryError Query := do
  let found ← Query.parse text
  match found.undeclared? with
  | some label => throw (.undeclared label)
  | none => return found

end FactQuery.Sparql
