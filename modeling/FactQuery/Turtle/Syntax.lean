import FactQuery.Iri.Name

/-!
# Turtle documents

A document is a sequence of statements.  A statement declares a label, sets the base, or states what
a subject has: properties, each a predicate and an object.  The abbreviations for repeated subjects
and predicates are gone here; properties stand in the order in which they were written.
-/

set_option autoImplicit false

namespace FactQuery.Turtle

inductive Object where
  | iri (name : Iri)
  | blank (label : String)
  | literal (value : String) (language : Option String) (datatype : Option Iri)
  /-- A node without a label, with properties of its own. -/
  | anonymous (properties : List (Iri × Object))
  deriving Repr

abbrev Property : Type :=
  Iri × Object

inductive Subject where
  | iri (name : Iri)
  | blank (label : String)
  | anonymous (properties : List Property)
  deriving Repr

inductive Statement where
  | declare (label iri : String)
  | rebase (iri : String)
  | triples (subject : Subject) (properties : List Property)
  deriving Repr

end FactQuery.Turtle
