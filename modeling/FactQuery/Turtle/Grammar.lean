import FactQuery.Grammar.Keyword
import FactQuery.Token.LiteralSuffix
import FactQuery.Token.Number
import FactQuery.Token.QuotedText
import FactQuery.Turtle.Syntax
import FactQuery.Vocabulary

/-!
# The grammar of Turtle

The commonly used part of the language: directives in either style, lists of properties and of
objects, nested anonymous nodes, quoted strings with a tag or a datatype, and numbers and booleans
without quotes.  Collections are not part of it.
-/

set_option autoImplicit false

namespace FactQuery.Turtle

open FactQuery.Grammar FactQuery.Token

def scanBlankLabel : Scanner
  | '_' :: ':' :: rest =>
    let label := (splitLocal rest).1
    if label.isEmpty then none else some ('_' :: ':' :: label, (splitLocal rest).2)
  | _ => none

def blankLabel : Parser String := do
  let token ← lexeme scanBlankLabel
  return String.ofList (token.drop 2)

def number : Parser Object :=
  let typed := fun (scan : Scanner) (datatype : String) => do
    let value ← numberText scan
    return Object.literal value none (some (.full datatype))
  Parser.firstOf [typed scanDouble Vocabulary.xsdDouble, typed scanDecimal Vocabulary.xsdDecimal,
    typed scanInteger Vocabulary.xsdInteger]

def boolean : Parser Object :=
  let spelled := fun (word : String) => do
    keyword word
    return Object.literal word none (some (.full Vocabulary.xsdBoolean))
  Parser.firstOf [spelled "true", spelled "false"]

def quotedLiteral : Parser Object := do
  let value ← quotedText
  match ← Parser.optional literalSuffix with
  | some (.language tag) => return .literal value (some tag) none
  | some (.datatype name) => return .literal value none (some name)
  | none => return .literal value none none

def predicate : Parser Iri :=
  Parser.firstOf [iri, do keyword "a"; return .full Vocabulary.rdfType]

def bracketed (properties : Parser (List Property)) : Parser (List Property) := do
  symbol "["
  let inside ← Parser.optional properties
  symbol "]"
  return inside.getD []

def object (properties : Parser (List Property)) : Parser Object :=
  Parser.firstOf [.iri <$> iri, .blank <$> blankLabel, .anonymous <$> bracketed properties,
    quotedLiteral, number, boolean]

def propertyGroup (properties : Parser (List Property)) : Parser (List Property) := do
  let name ← predicate
  let objects ← Parser.separated1 (symbol ",") (object properties)
  return objects.map fun value => (name, value)

/-- One level of properties: groups between semicolons, of which some may stand for nothing. -/
def propertyRule (properties : Parser (List Property)) : Parser (List Property) := do
  let first ← propertyGroup properties
  let others ← Parser.many do
    symbol ";"
    Parser.optional (propertyGroup properties)
  return first ++ others.flatMap fun group => group.getD []

def properties : Parser (List Property) :=
  Parser.nested propertyRule

def subject : Parser Subject :=
  Parser.firstOf [.iri <$> iri, .blank <$> blankLabel, .anonymous <$> bracketed properties]

def triples : Parser Statement := do
  let about ← subject
  let stated ← Parser.optional properties
  symbol "."
  return .triples about (stated.getD [])

def declaration : Parser Statement :=
  Parser.firstOf [
    do
      symbol "@prefix"
      let label ← prefixLabel
      let name ← iriRef
      symbol "."
      return .declare label name,
    do
      caselessKeyword "PREFIX"
      let label ← prefixLabel
      let name ← iriRef
      return .declare label name]

def baseDirective : Parser Statement :=
  Parser.firstOf [
    do
      symbol "@base"
      let name ← iriRef
      symbol "."
      return .rebase name,
    do
      caselessKeyword "BASE"
      let name ← iriRef
      return .rebase name]

def statement : Parser Statement :=
  Parser.firstOf [declaration, baseDirective, triples]

def statements : Parser (List Statement) :=
  Parser.many statement

end FactQuery.Turtle
