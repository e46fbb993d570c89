import FactQuery.OrderedMap

/-!
# Names of resources

A resource is named by a full IRI or by a prefixed name, a declared label and a local part.  A
prefixed name stands for the declared IRI followed by its local part.
-/

set_option autoImplicit false

namespace FactQuery

/-- The IRIs that labels are declared to abbreviate, in the order of declaration. -/
abbrev PrefixTable : Type :=
  OrderedMap String String

inductive Iri where
  | full (value : String)
  | prefixed (label localPart : String)
  deriving DecidableEq, Repr

namespace Iri

def written : Iri → String
  | .full value => value
  | .prefixed label localPart => label ++ ":" ++ localPart

def text : Iri → String
  | .full value => "<" ++ value ++ ">"
  | .prefixed label localPart => label ++ ":" ++ localPart

def label? : Iri → Option String
  | .full _ => none
  | .prefixed label _ => some label

/-- The full IRI a name stands for.  A name with an undeclared label stays as it was written. -/
def expand (prefixes : PrefixTable) : Iri → String
  | .full value => value
  | .prefixed label localPart =>
    match prefixes.find? label with
    | some iri => iri ++ localPart
    | none => label ++ ":" ++ localPart

def isDeclared (prefixes : PrefixTable) (iri : Iri) : Bool :=
  iri.label?.all prefixes.contains

end Iri

end FactQuery
