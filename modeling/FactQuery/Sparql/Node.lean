import FactQuery.Sparql.Operator
import FactQuery.Sparql.Term

/-!
# Syntax trees

One type holds everything that can stand inside a query: terms, filter expressions, and the entries
of a group.  The grammar puts each kind in its own places, but a tree can also be built by hand with
any kind anywhere.  Evaluation takes terms in the positions of a triple, runs of triples and filters
as entries, and comparisons of two terms as conditions; it rejects every other shape for what it is.
-/

set_option autoImplicit false

namespace FactQuery.Sparql

inductive Node where
  | term (value : Term)
  | binary (operator : String) (left right : Node)
  | logical (connective : Connective) (operands : List Node)
  | call (name : String) (arguments : List Node)
  | filter (condition : Node)
  | triples (patterns : List (Triple Node))
  | group (body : List Node)
  | optional (body : List Node)
  | union (alternatives : List (List Node))

/-- A triple pattern, which matches facts if it has a term in each position. -/
abbrev TriplePattern : Type :=
  Triple Node

abbrev Group : Type :=
  List Node

namespace Node

def kind : Node → String
  | .term value => value.kind
  | .binary _ _ _ => "BinaryOperation"
  | .logical _ _ => "LogicalExpression"
  | .call _ _ => "FunctionCall"
  | .filter _ => "Filter"
  | .triples _ => "BasicGraphPattern"
  | .group _ => "GroupPattern"
  | .optional _ => "OptionalPattern"
  | .union _ => "UnionPattern"

def variableOf? : Node → Option String
  | .term (.variable name) => some name
  | _ => none

/-! ## As text -/

mutual

/-- The node as a query writes it.  The contents of nested groups are left out. -/
def text : Node → String
  | .term value => value.text
  | .binary operator left right => left.text ++ " " ++ operator ++ " " ++ right.text
  | .logical .not operands => "!(" ++ (texts operands).headD "" ++ ")"
  | .logical .and operands => "(" ++ " && ".intercalate (texts operands) ++ ")"
  | .logical .or operands => "(" ++ " || ".intercalate (texts operands) ++ ")"
  | .call name arguments => name ++ "(" ++ ", ".intercalate (texts arguments) ++ ")"
  | .filter condition => "FILTER(" ++ condition.text ++ ")"
  | .triples patterns => "\n".intercalate ((tripleTexts patterns).map ("  " ++ ·))
  | .group _ => "\x7b ... \x7d"
  | .optional _ => "OPTIONAL \x7b ... \x7d"
  | .union alternatives => " UNION ".intercalate (alternatives.map fun _ => "\x7b ... \x7d")

def texts : List Node → List String
  | [] => []
  | first :: others => first.text :: texts others

def tripleText : Triple Node → String
  | ⟨subject, predicate, object⟩ =>
    subject.text ++ " " ++ predicate.text ++ " " ++ object.text ++ " ."

def tripleTexts : List (Triple Node) → List String
  | [] => []
  | first :: others => tripleText first :: tripleTexts others

end

mutual

/-- Whether the node can be written.  A negation needs the operand that it negates; what is left out
of the text does not matter. -/
def isWritable : Node → Bool
  | .term _ => true
  | .binary _ left right => left.isWritable && right.isWritable
  | .logical .not operands => startsWritable operands
  | .logical _ operands => areWritable operands
  | .call _ arguments => areWritable arguments
  | .filter condition => condition.isWritable
  | .triples patterns => areWritableTriples patterns
  | .group _ => true
  | .optional _ => true
  | .union _ => true

def startsWritable : List Node → Bool
  | [] => false
  | first :: _ => first.isWritable

def areWritable : List Node → Bool
  | [] => true
  | first :: others => first.isWritable && areWritable others

def isWritableTriple : Triple Node → Bool
  | ⟨subject, predicate, object⟩ =>
    subject.isWritable && predicate.isWritable && object.isWritable

def areWritableTriples : List (Triple Node) → Bool
  | [] => true
  | first :: others => isWritableTriple first && areWritableTriples others

end

/-! ## Resource names -/

mutual

def iris : Node → List Iri
  | .term (.iri name) => [name]
  | .term _ => []
  | .binary _ left right => left.iris ++ right.iris
  | .logical _ operands => irisOf operands
  | .call _ arguments => irisOf arguments
  | .filter condition => condition.iris
  | .triples patterns => irisOfTriples patterns
  | .group body => irisOf body
  | .optional body => irisOf body
  | .union alternatives => irisOfGroups alternatives

def irisOf : List Node → List Iri
  | [] => []
  | first :: others => first.iris ++ irisOf others

def irisOfTriple : Triple Node → List Iri
  | ⟨subject, predicate, object⟩ => subject.iris ++ predicate.iris ++ object.iris

def irisOfTriples : List (Triple Node) → List Iri
  | [] => []
  | first :: others => irisOfTriple first ++ irisOfTriples others

def irisOfGroups : List (List Node) → List Iri
  | [] => []
  | first :: others => irisOf first ++ irisOfGroups others

end

end Node

namespace Triple

def text (pattern : TriplePattern) : String :=
  Node.tripleText pattern

def isWritable (pattern : TriplePattern) : Bool :=
  Node.isWritableTriple pattern

def variableNames (pattern : TriplePattern) : List String :=
  (pattern.positions.filterMap Node.variableOf?).eraseDups

end Triple

end FactQuery.Sparql
