import FactQuery.Evaluation.Error
import FactQuery.Evaluation.Row
import FactQuery.Fact
import FactQuery.Sparql.Outline

/-!
# The join of triple patterns

Rows grow pattern by pattern, in the order in which the patterns are written.  Each row is continued
by every fact that agrees with the constants of the pattern and with the values the row already has;
a fact that gives one variable two values is dropped.  The join starts from one empty row, and ends
early where no row is left.
-/

set_option autoImplicit false

namespace FactQuery

open FactQuery.Sparql

inductive ResolvedTerm where
  | variable (name : String)
  | identifier (value : String)
  | literal (value : String) (datatype language : Option String)
  deriving DecidableEq, Repr

namespace ResolvedTerm

def value : ResolvedTerm → String
  | .variable name => name
  | .identifier value => value
  | .literal value _ _ => value

def isVariable : ResolvedTerm → Bool
  | .variable _ => true
  | _ => false

/-- The term made ready under a table of prefixes.  A blank node cannot be matched, nor can anything
that is no term. -/
def ofNode (prefixes : PrefixTable) : Node → Evaluation ResolvedTerm
  | .term (.variable name) => .ok (.variable name)
  | .term (.iri name) => .ok (.identifier (name.expand prefixes))
  | .term (.colonless name) => .error (.colonless name)
  | .term (.literal value language datatype) => .ok (.literal value datatype language)
  | other => .error (.query (.malformedTerm other.outline))

/-- What a position demands of a fact in the light of a row: a text, or nothing. -/
def demand (row : Row) : ResolvedTerm → Option String
  | .variable name => Row.value? row name
  | .identifier value => some value
  | .literal value _ _ => some value

/-- A row with the variable of a position bound, unless it has another value already. -/
def bindTo (value : String) (row : Row) : ResolvedTerm → Option Row
  | .variable name =>
    match Row.value? row name with
    | some existing => if existing = value then some (Row.bind row name value) else none
    | none => some (Row.bind row name value)
  | _ => some row

end ResolvedTerm

structure ResolvedPattern where
  subject : ResolvedTerm
  predicate : ResolvedTerm
  object : ResolvedTerm
  deriving DecidableEq, Repr

/-- The facts that have given components; a component that is not given may be anything. -/
def matchFacts (facts : List Fact) (subject predicate object : Option String) : List Fact :=
  facts.filter fun fact =>
    subject.all (fact.subject == ·) && predicate.all (fact.predicate == ·) &&
      object.all (fact.object == ·)

namespace ResolvedPattern

def ofPattern (prefixes : PrefixTable) (pattern : TriplePattern) :
    Evaluation ResolvedPattern := do
  let subject ← ResolvedTerm.ofNode prefixes pattern.subject
  let predicate ← ResolvedTerm.ofNode prefixes pattern.predicate
  let object ← ResolvedTerm.ofNode prefixes pattern.object
  return ⟨subject, predicate, object⟩

def candidates (pattern : ResolvedPattern) (facts : List Fact) (row : Row) : List Fact :=
  matchFacts facts (pattern.subject.demand row) (pattern.predicate.demand row)
    (pattern.object.demand row)

def extend (pattern : ResolvedPattern) (row : Row) (fact : Fact) : Option Row := do
  let row ← pattern.subject.bindTo fact.subject row
  let row ← pattern.predicate.bindTo fact.predicate row
  pattern.object.bindTo fact.object row

def continuations (pattern : ResolvedPattern) (facts : List Fact) (row : Row) : List Row :=
  (pattern.candidates facts row).filterMap (pattern.extend row)

end ResolvedPattern

structure Joined where
  rows : List Row
  scanned : Nat := 0
  joined : Nat := 0

namespace Joined

def start : Joined :=
  { rows := [.empty] }

def step (facts : List Fact) (stage : Joined) (pattern : ResolvedPattern) : Joined :=
  let rows := stage.rows.flatMap (pattern.continuations facts)
  { rows := rows
    scanned := stage.scanned + (stage.rows.flatMap (pattern.candidates facts)).length
    joined := stage.joined + rows.length }

end Joined

/-- The join of patterns from a stage on.  A pattern is looked at only while there are rows. -/
def joinFrom (facts : List Fact) (prefixes : PrefixTable) (stage : Joined) :
    List TriplePattern → Evaluation Joined
  | [] => .ok stage
  | pattern :: others =>
    if stage.rows.isEmpty then .ok stage
    else do
      let resolved ← ResolvedPattern.ofPattern prefixes pattern
      joinFrom facts prefixes (stage.step facts resolved) others

def joinPatterns (facts : List Fact) (prefixes : PrefixTable) (patterns : List TriplePattern) :
    Evaluation Joined :=
  joinFrom facts prefixes .start patterns

end FactQuery
