import FactQuery.Sparql.Node

/-!
# Groups

What a group says at its own level: its triple patterns, its filters and the variables of its
patterns.  Nested groups keep theirs to themselves.
-/

set_option autoImplicit false

namespace FactQuery.Sparql

namespace Node

def patterns : Node → List TriplePattern
  | .triples patterns => patterns
  | _ => []

def isFilter : Node → Bool
  | .filter _ => true
  | _ => false

end Node

def patternsOf (group : Group) : List TriplePattern :=
  group.flatMap Node.patterns

def filterCount (group : Group) : Nat :=
  (group.filter Node.isFilter).length

/-- The distinct variables of the triple patterns of a group, in the order in which they first
come. -/
def variablesOf (group : Group) : List String :=
  ((patternsOf group).flatMap Triple.variableNames).eraseDups

end FactQuery.Sparql
