import FactQuery.Fact
import FactQuery.Iri.Reference
import FactQuery.Text.Position
import FactQuery.Text.TabStop
import FactQuery.Turtle.Grammar

/-!
# The facts of a document

A document is read as a whole before any of its facts is told, so a fault of syntax leaves nothing.
Its statements are then told one after the other.  Directives hold for the statements behind them;
an anonymous node takes the next free number when it is reached, and its own facts follow the fact
that leads to it.  A name that stands for nothing ends the telling, with the facts up to there kept.
-/

set_option autoImplicit false

namespace FactQuery.Turtle

open FactQuery.Text FactQuery.Grammar

inductive Error where
  /-- No statement begins at a place where one should. -/
  | malformed (place : Position)
  | badEscape (error : EscapeError) (place : Position)
  | undeclared (label : String)
  /-- A reference that cannot be resolved; not a fault of the syntax. -/
  | unresolvable (error : Iri.AuthorityError)
  deriving DecidableEq, Repr

namespace Error

def located (message : String) (place : Position) : String :=
  message ++ " (line " ++ toString place.line ++ ", col " ++ toString place.column ++ ")"

def message : Error → String
  | .malformed place => located "Expected end of text" place
  | .badEscape error place => located error.message place
  | .undeclared label => "Unknown prefix: " ++ label
  | .unresolvable error => error.message

/-- Where in the text the fault lies, if it lies in the text. -/
def place? : Error → Option Position
  | .malformed place => some place
  | .badEscape _ place => some place
  | .undeclared _ => none
  | .unresolvable _ => none

/-- Whether the document is at fault, rather than an address inside it. -/
def isSyntaxError : Error → Bool
  | .unresolvable _ => false
  | _ => true

end Error

def parseStatements (text : String) : Except Error (List Statement) :=
  let expanded := expandTabs text.toList
  match statements (Cursor.start expanded) with
  | .matched found next =>
    let stop := next.skipLayout.rest
    if stop.isEmpty then .ok found else .error (.malformed (Position.ofRemaining expanded stop))
  | .missed => .error (.malformed (Position.ofRemaining expanded expanded))
  | .aborted error stop => .error (.badEscape error (Position.ofRemaining expanded stop.rest))

structure Scope where
  prefixes : PrefixTable
  base : Option String

def Scope.initial : Scope :=
  ⟨.empty, none⟩

def Scope.resolve (scope : Scope) (reference : String) : Except Error String :=
  match Iri.resolveWith scope.base reference with
  | .ok resolved => .ok resolved
  | .error error => .error (.unresolvable error)

def Scope.expand (scope : Scope) : Iri → Except Error String
  | .full reference => scope.resolve reference
  | .prefixed label localPart =>
    match scope.prefixes.find? label with
    | some iri => .ok (iri ++ localPart)
    | none => .error (.undeclared label)

/-- The name that stands for no datatype. -/
def Scope.expandDatatype (scope : Scope) : Option Iri → Except Error (Option String)
  | none => .ok none
  | some name => (scope.expand name).map some

/-- What has been told: facts in order, the next free number of an anonymous node, and the fault
that ended the telling, if one did. -/
structure Telling where
  facts : List Fact
  next : Nat
  error : Option Error := none
  deriving DecidableEq, Repr

namespace Telling

def nothing (next : Nat) : Telling :=
  ⟨[], next, none⟩

def andThen (told : Telling) (more : Nat → Telling) : Telling :=
  match told.error with
  | some _ => told
  | none =>
    let rest := more told.next
    { rest with facts := told.facts ++ rest.facts }

def withValue {α : Type} (next : Nat) (value : Except Error α) (more : α → Telling) : Telling :=
  match value with
  | .ok found => more found
  | .error error => ⟨[], next, some error⟩

end Telling

def anonymousId (number : Nat) : String :=
  "_:anon" ++ toString number

def blankId (label : String) : String :=
  "_:" ++ label

mutual

def tellProperty (scope : Scope) (subject predicate : String) (next : Nat) : Object → Telling
  | .iri name =>
    .withValue next (scope.expand name) fun value =>
      ⟨[⟨subject, predicate, value, none, none⟩], next, none⟩
  | .blank label => ⟨[⟨subject, predicate, blankId label, none, none⟩], next, none⟩
  | .literal value language datatype =>
    .withValue next (scope.expandDatatype datatype) fun datatype =>
      ⟨[⟨subject, predicate, value, datatype, language⟩], next, none⟩
  | .anonymous properties =>
    let node := anonymousId next
    Telling.andThen ⟨[⟨subject, predicate, node, none, none⟩], next + 1, none⟩ fun next =>
      tellProperties scope node next properties

def tellProperties (scope : Scope) (subject : String) (next : Nat) :
    List (Iri × Object) → Telling
  | [] => .nothing next
  | (name, object) :: others =>
    .withValue next (scope.expand name) fun predicate =>
      (tellProperty scope subject predicate next object).andThen fun next =>
        tellProperties scope subject next others

end

def tellTriples (scope : Scope) (next : Nat) (properties : List Property) : Subject → Telling
  | .iri name =>
    .withValue next (scope.expand name) fun subject => tellProperties scope subject next properties
  | .blank label => tellProperties scope (blankId label) next properties
  | .anonymous own =>
    let node := anonymousId next
    (tellProperties scope node (next + 1) own).andThen fun next =>
      tellProperties scope node next properties

def tellStatements (scope : Scope) (next : Nat) : List Statement → Telling
  | [] => .nothing next
  | .declare label reference :: others =>
    .withValue next (scope.resolve reference) fun iri =>
      tellStatements { scope with prefixes := scope.prefixes.insert label iri } next others
  | .rebase reference :: others =>
    .withValue next (scope.resolve reference) fun iri =>
      tellStatements { scope with base := some iri } next others
  | .triples subject properties :: others =>
    (tellTriples scope next properties subject).andThen fun next =>
      tellStatements scope next others

/-- The facts of a document, told one at a time, with anonymous nodes numbered from `next` on. -/
def tell (next : Nat) (text : String) : Telling :=
  .withValue next (parseStatements text) fun found => tellStatements .initial next found

def read (text : String) : Except Error (List Fact) :=
  let told := tell 0 text
  match told.error with
  | some error => .error error
  | none => .ok told.facts

end FactQuery.Turtle
