import FactQuery.Sparql.Node
import FactQuery.Text.Quoted

/-!
# Outlines of syntax trees

An outline shows the whole of a tree, the contents of nested groups too: each node by its kind, with
its parts named in parentheses.  Messages use it for a node that is not what it should be.
-/

set_option autoImplicit false

namespace FactQuery.Sparql

open FactQuery.Text

def outlineOf (kind : String) (parts : List (String × String)) : String :=
  kind ++ "(" ++ ", ".intercalate (parts.map fun part => part.1 ++ "=" ++ part.2) ++ ")"

def outlineList (members : List String) : String :=
  "[" ++ ", ".intercalate members ++ "]"

def outlineGroup (entries : List String) : String :=
  outlineOf "WhereClause" [("elements", outlineList entries)]

def outlineText? : Option String → String
  | some text => quoted text
  | none => "None"

def Connective.outline (connective : Connective) : String :=
  let name :=
    match connective with
    | .and => "AND"
    | .or => "OR"
    | .not => "NOT"
  "<LogicalOp." ++ name ++ ": " ++ quoted connective.symbol ++ ">"

def Term.outline : Term → String
  | .variable name => outlineOf "Variable" [("name", quoted name)]
  | .iri name =>
    outlineOf "IRI" [
      ("value", quoted name.written),
      ("prefixed", if name.label?.isSome then "True" else "False")]
  | .colonless name => outlineOf "IRI" [("value", quoted name), ("prefixed", "True")]
  | .literal value language datatype =>
    outlineOf "Literal" [
      ("value", quoted value),
      ("language", outlineText? language),
      ("datatype", outlineText? datatype)]
  | .blank label => outlineOf "BlankNode" [("label", quoted label)]

namespace Node

mutual

def outline : Node → String
  | .term value => value.outline
  | .binary operator left right =>
    outlineOf "BinaryOperation" [
      ("operator", quoted operator), ("left", left.outline), ("right", right.outline)]
  | .logical connective operands =>
    outlineOf "LogicalExpression" [
      ("operator", connective.outline), ("operands", outlineList (outlines operands))]
  | .call name arguments =>
    outlineOf "FunctionCall" [
      ("name", quoted name), ("arguments", outlineList (outlines arguments))]
  | .filter condition => outlineOf "Filter" [("expression", condition.outline)]
  | .triples patterns =>
    outlineOf "BasicGraphPattern" [("triples", outlineList (tripleOutlines patterns))]
  | .group body => outlineOf "GroupPattern" [("where", outlineGroup (outlines body))]
  | .optional body => outlineOf "OptionalPattern" [("where", outlineGroup (outlines body))]
  | .union alternatives =>
    outlineOf "UnionPattern" [("alternatives", outlineList (groupOutlines alternatives))]

def outlines : List Node → List String
  | [] => []
  | first :: others => first.outline :: outlines others

def tripleOutline : Triple Node → String
  | ⟨subject, predicate, object⟩ =>
    outlineOf "TriplePattern" [
      ("subject", subject.outline), ("predicate", predicate.outline), ("object", object.outline)]

def tripleOutlines : List (Triple Node) → List String
  | [] => []
  | first :: others => tripleOutline first :: tripleOutlines others

def groupOutlines : List (List Node) → List String
  | [] => []
  | first :: others => outlineGroup (outlines first) :: groupOutlines others

end

end Node

end FactQuery.Sparql
