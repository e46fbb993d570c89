import FactQuery.OrderedMap
import FactQuery.Sparql.Term

/-!
# Rows

A row gives values to variables, in the order in which they were bound.  In a row of output a
variable that was never bound has an empty place.
-/

set_option autoImplicit false

namespace FactQuery

/-- The values of some variables; an empty place is a variable without a value. -/
abbrev Row : Type :=
  OrderedMap String (Option String)

namespace Row

def value? (row : Row) (name : String) : Option String :=
  (row.find? name).join

def bind (row : Row) (name value : String) : Row :=
  row.insert name (some value)

def project (names : List String) (row : Row) : Row :=
  .ofList (names.map fun name => (name, value? row name))

end Row

end FactQuery
