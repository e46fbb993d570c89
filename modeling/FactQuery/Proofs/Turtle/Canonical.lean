import FactQuery.Proofs.Token.LiteralSuffix
import FactQuery.Turtle.Document

/-!
# Canonical documents

A canonical document states one triple to a line, subject, predicate, object and a full stop, with
nothing abbreviated.  Its names and labels are texts that the tokens of the language can hold, which
their types say, and the text of a literal is any text at all.
-/

set_option autoImplicit false

namespace FactQuery.Turtle.Canonical

open FactQuery.Token

abbrev Name : Type :=
  { value : String // IsIriText value }

abbrev Label : Type :=
  { label : String // label.toList ≠ [] ∧ IsLocal label }

abbrev Tag : Type :=
  { tag : String // IsTag tag }

inductive Resource where
  | iri (name : Name)
  | blank (label : Label)

inductive Mark where
  | plain
  | language (tag : Tag)
  | datatype (name : Name)

inductive Value where
  | resource (node : Resource)
  | literal (text : String) (mark : Mark)

structure Triple where
  subject : Resource
  predicate : Name
  object : Value

/-! ## The written form -/

def Resource.write : Resource → List Char
  | .iri name => angled name
  | .blank label => '_' :: ':' :: label.val.toList

def Mark.suffix : Mark → Option LiteralSuffix
  | .plain => none
  | .language tag => some (.language tag)
  | .datatype name => some (.datatype (.full name))

def Value.write : Value → List Char
  | .resource node => node.write
  | .literal text mark => quote text.toList ++ writeSuffix mark.suffix

def Triple.write (triple : Triple) : List Char :=
  triple.subject.write ++ [' '] ++ angled triple.predicate ++ [' '] ++ triple.object.write ++
    [' ', '.']

def document (triples : List Triple) : String :=
  String.ofList (triples.flatMap fun triple => triple.write ++ ['\n'])

/-! ## The facts that are meant -/

def Resource.identifier : Resource → String
  | .iri name => name
  | .blank label => blankId label

def Mark.datatype? : Mark → Option String
  | .datatype name => some name
  | _ => none

def Mark.language? : Mark → Option String
  | .language tag => some tag
  | _ => none

def Triple.fact (triple : Triple) : Fact :=
  match triple.object with
  | .resource node => ⟨triple.subject.identifier, triple.predicate, node.identifier, none, none⟩
  | .literal text mark =>
    ⟨triple.subject.identifier, triple.predicate, text, mark.datatype?,
      mark.language?⟩

/-! ## The syntax that is read -/

def Resource.asSubject : Resource → Subject
  | .iri name => .iri (.full name)
  | .blank label => .blank label

def Value.asObject : Value → Object
  | .resource (.iri name) => .iri (.full name)
  | .resource (.blank label) => .blank label
  | .literal text mark =>
    .literal text mark.language? (mark.datatype?.map .full)

def Triple.asStatement (triple : Triple) : Statement :=
  .triples triple.subject.asSubject [(.full triple.predicate, triple.object.asObject)]

/-- The facts of canonical statements are the facts that are meant; no directive and no anonymous
node is among them. -/
theorem tellStatements_asStatement (next : Nat) (triples : List Triple) :
    tellStatements .initial next (triples.map Triple.asStatement) =
      ⟨triples.map Triple.fact, next, none⟩ := by
  induction triples with
  | nil => rfl
  | cons triple others inductionHypothesis =>
      obtain ⟨subject, predicate, object⟩ := triple
      have told : tellTriples .initial next [(.full predicate.val, object.asObject)]
          subject.asSubject = ⟨[(Triple.mk subject predicate object).fact], next, none⟩ := by
        cases subject <;> rcases object with ⟨⟨name⟩ | ⟨label⟩⟩ | ⟨text, ⟨⟩ | ⟨tag⟩ | ⟨name⟩⟩ <;> rfl
      rw [List.map_cons, Triple.asStatement, tellStatements, told, Telling.andThen,
        inductionHypothesis]
      rfl

end FactQuery.Turtle.Canonical
