import FactQuery.Iri.Name

/-!
# Terms and triples

A triple has something in each of three positions.  In a pattern that can be matched these are
terms: a variable matches anything, but the same thing everywhere; an IRI or a literal matches its
own text.
-/

set_option autoImplicit false

namespace FactQuery.Sparql

inductive Term where
  | variable (name : String)
  | iri (name : Iri)
  /-- A short name without the colon behind its label.  No text reads as one. -/
  | colonless (name : String)
  /-- A literal; its datatype is kept as it was written. -/
  | literal (value : String) (language datatype : Option String)
  | blank (label : String)
  deriving DecidableEq, Repr

namespace Term

/-- A part of a literal that is written only if there is something to write. -/
def written? (part : Option String) : Option String :=
  part.filter fun text => !text.isEmpty

def text : Term → String
  | .variable name => "?" ++ name
  | .iri name => name.text
  | .colonless name => name
  | .literal value language datatype =>
    let base := "\"" ++ value ++ "\""
    match written? language, written? datatype with
    | some tag, _ => base ++ "@" ++ tag
    | none, some name => base ++ "^^<" ++ name ++ ">"
    | none, none => base
  | .blank label => "_:" ++ label

def kind : Term → String
  | .variable _ => "Variable"
  | .iri _ => "IRI"
  | .colonless _ => "IRI"
  | .literal _ _ _ => "Literal"
  | .blank _ => "BlankNode"

end Term

structure Triple (α : Type) where
  subject : α
  predicate : α
  object : α
  deriving DecidableEq, Repr

namespace Triple

variable {α β : Type}

def positions (triple : Triple α) : List α :=
  [triple.subject, triple.predicate, triple.object]

def map (change : α → β) (triple : Triple α) : Triple β :=
  ⟨change triple.subject, change triple.predicate, change triple.object⟩

end Triple

end FactQuery.Sparql
