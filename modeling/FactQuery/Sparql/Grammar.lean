import FactQuery.Grammar.Keyword
import FactQuery.Sparql.Query
import FactQuery.Token.LiteralSuffix
import FactQuery.Token.Number
import FactQuery.Token.QuotedText
import FactQuery.Vocabulary

/-!
# The grammar of queries

SELECT and ASK over groups of triple patterns, filters, optional parts, unions and nested groups.
Expressions bind in levels: `||` loosest, then `&&`, `!`, one comparison, sums, products.
-/

set_option autoImplicit false

namespace FactQuery.Sparql

open FactQuery.Grammar FactQuery.Token

/-! ## Terms -/

def isNameStart (c : Char) : Bool :=
  c.isAlpha || c == '_'

def isNameChar (c : Char) : Bool :=
  c.isAlphanum || c == '_'

def scanVariable : Scanner
  | [] => none
  | mark :: rest =>
    if mark == '?' || mark == '$' then
      (scanWord isNameStart isNameChar rest).map fun found => (mark :: found.1, found.2)
    else none

def variableName : Parser String := do
  let token ← lexeme scanVariable
  return String.ofList (token.drop 1)

def scanBlankNode : Scanner
  | '_' :: ':' :: rest =>
    (scanRun isNameChar rest).map fun found => ('_' :: ':' :: found.1, found.2)
  | _ => none

def blankNode : Parser Term := do
  let token ← lexeme scanBlankNode
  return .blank (String.ofList (token.drop 2))

/-- A quoted string and what it carries; the name of a datatype stays as it was written. -/
def quotedLiteral : Parser Term := do
  let value ← quotedText
  match ← Parser.optional literalSuffix with
  | some (.language tag) => return .literal value (some tag) none
  | some (.datatype name) => return .literal value none (some name.written)
  | none => return .literal value none none

def number : Parser Term :=
  let typed := fun (scan : Scanner) (datatype : String) => do
    let value ← numberText scan
    return Term.literal value none (some datatype)
  Parser.firstOf [typed scanDouble Vocabulary.xsdDouble, typed scanDecimal Vocabulary.xsdDecimal,
    typed scanInteger Vocabulary.xsdInteger]

def boolean : Parser Term :=
  let spelled := fun (word value : String) => do
    caselessKeyword word
    return Term.literal value none (some Vocabulary.xsdBoolean)
  Parser.firstOf [spelled "TRUE" "true", spelled "FALSE" "false"]

def graphTerm : Parser Term :=
  Parser.firstOf [.variable <$> variableName, .iri <$> iri, quotedLiteral, number, boolean,
    blankNode]

/-! ## Triple patterns -/

def verb : Parser Term :=
  Parser.firstOf [.variable <$> variableName, .iri <$> iri,
    do keyword "a"; return .iri (.full Vocabulary.rdfType)]

def predicateObjects : Parser (List (Term × Term)) := do
  let predicate ← verb
  let objects ← Parser.separated1 (symbol ",") graphTerm
  return objects.map fun object => (predicate, object)

def triplesSameSubject : Parser (List TriplePattern) := do
  let subject ← graphTerm
  let first ← predicateObjects
  let others ← Parser.many do
    symbol ";"
    Parser.optional predicateObjects
  let pairs := first ++ others.flatMap fun group => group.getD []
  return pairs.map fun pair => (Triple.mk subject pair.1 pair.2).map Node.term

/-! ## Filter expressions -/

/-- A call of a function, given how expressions are read.  Names are in capitals. -/
def functionCall (expression : Parser Node) : Parser Node := do
  let name ← lexeme (scanWord Char.isAlpha isNameChar)
  symbol "("
  let arguments ← Parser.optional (Parser.separated1 (symbol ",") expression)
  symbol ")"
  return .call (String.ofList (name.map Char.toUpper)) (arguments.getD [])

def parenthesised (expression : Parser Node) : Parser Node := do
  symbol "("
  let inner ← expression
  symbol ")"
  return inner

def operand (expression : Parser Node) : Parser Node :=
  Parser.firstOf [functionCall expression, (.term ∘ .variable) <$> variableName,
    .term <$> quotedLiteral, .term <$> number, .term <$> boolean, (.term ∘ .iri) <$> iri,
    parenthesised expression]

def product (expression : Parser Node) : Parser Node :=
  Parser.leftChain (oneOf ["*", "/"]) .binary (operand expression)

def sum (expression : Parser Node) : Parser Node :=
  Parser.leftChain (oneOf ["+", "-"]) .binary (product expression)

def comparisonOperator : Parser String :=
  oneOf ["<=", ">=", "!=", "<>", "==", "=", "<", ">"]

/-- One comparison at most; comparisons do not chain. -/
def comparison (expression : Parser Node) : Parser Node := do
  let left ← sum expression
  let behind ← Parser.optional do
    let operator ← comparisonOperator
    let right ← sum expression
    return (operator, right)
  match behind with
  | some (operator, right) => return .binary operator left right
  | none => return left

def negation (expression : Parser Node) : Parser Node := do
  let sign ← Parser.optional (symbol "!")
  let inner ← comparison expression
  return if sign.isSome then .logical .not [inner] else inner

def connected (connective : Connective) (parser : Parser Node) : Parser Node := do
  let operands ← Parser.separated1 (symbol connective.symbol) parser
  match operands with
  | [single] => return single
  | several => return .logical connective several

/-- One level of an expression, given how the levels inside brackets are read. -/
def expressionRule (inner : Parser Node) : Parser Node :=
  connected .or (connected .and (negation inner))

def expression : Parser Node :=
  Parser.nested expressionRule

/-! ## Groups -/

def optionalStop : Parser Unit := do
  let _ ← Parser.optional (symbol ".")
  return ()

def filterClause : Parser Node := do
  caselessKeyword "FILTER"
  let condition ← Parser.firstOf [parenthesised expression, functionCall expression]
  optionalStop
  return .filter condition

def optionalPattern (group : Parser Group) : Parser Node := do
  caselessKeyword "OPTIONAL"
  let body ← group
  optionalStop
  return .optional body

def groupOrUnion (group : Parser Group) : Parser Node := do
  let alternatives ← Parser.separated1 (caselessKeyword "UNION") group
  optionalStop
  match alternatives with
  | [single] => return .group single
  | several => return .union several

def triplesBlock : Parser Node := do
  let patterns ← triplesSameSubject
  optionalStop
  return .triples patterns

def entry (group : Parser Group) : Parser Node :=
  Parser.firstOf [filterClause, optionalPattern group, groupOrUnion group, triplesBlock]

/-- Entries with neighbouring runs of triple patterns made one. -/
def mergeRuns : List Node → Group
  | [] => []
  | .triples patterns :: others =>
    match mergeRuns others with
    | .triples more :: behind => .triples (patterns ++ more) :: behind
    | behind => .triples patterns :: behind
  | first :: others => first :: mergeRuns others

/-- One level of a group, given how the groups inside it are read. -/
def groupRule (inner : Parser Group) : Parser Group := do
  symbol "\x7b"
  let entries ← Parser.many (entry inner)
  symbol "\x7d"
  return mergeRuns entries

def group : Parser Group :=
  Parser.nested groupRule

/-! ## Query forms -/

def prefixDeclaration : Parser (String × String) := do
  caselessKeyword "PREFIX"
  let label ← prefixLabel
  let name ← iriRef
  return (label, name)

def orderCondition : Parser OrderCondition :=
  let directed := fun (word : String) (descending : Bool) => do
    caselessKeyword word
    symbol "("
    let name ← variableName
    symbol ")"
    return OrderCondition.mk name descending
  Parser.firstOf [directed "DESC" true, directed "ASC" false,
    (OrderCondition.mk · false) <$> variableName]

def orderClause : Parser (List OrderCondition) := do
  caselessKeyword "ORDER"
  caselessKeyword "BY"
  Parser.many1 orderCondition

/-- A count behind a keyword, in ASCII digits and however many.  That no more than 4300 digits are
turned into a number is a setting of the runtime; a text with a longer count, which the runtime
stops at before there is a query, is read here all the same. -/
def countClause (word : String) : Parser Int := do
  caselessKeyword word
  let digits ← lexeme (scanRun Char.isDigit)
  return (Text.digitsValue digits : Nat)

def limitOffset : Parser (Option Int × Option Int) :=
  Parser.firstOf [
    do
      let limit ← countClause "LIMIT"
      let offset ← Parser.optional (countClause "OFFSET")
      return (some limit, offset),
    do
      let offset ← countClause "OFFSET"
      let limit ← Parser.optional (countClause "LIMIT")
      return (limit, some offset)]

def requestedVariables : Parser (List String) :=
  Parser.firstOf [do symbol "*"; return [], Parser.many1 variableName]

/-- The keyword WHERE may be left out. -/
def whereGroup : Parser Group := do
  let _ ← Parser.optional (caselessKeyword "WHERE")
  group

def selectForm : Parser Form := do
  caselessKeyword "SELECT"
  let distinct ← Parser.optional (caselessKeyword "DISTINCT")
  let requested ← requestedVariables
  let group ← whereGroup
  let order ← Parser.optional orderClause
  let cut ← Parser.optional limitOffset
  return .select {
    variableNames := requested
    group := group
    distinct := distinct.isSome
    limit := cut.bind Prod.fst
    offset := cut.bind Prod.snd
    order := order.getD [] }

def askForm : Parser Form := do
  caselessKeyword "ASK"
  let group ← whereGroup
  return .ask group

def query : Parser Query := do
  let declared ← Parser.many prefixDeclaration
  let form ← Parser.firstOf [selectForm, askForm]
  endOfText
  return ⟨.ofList declared, form⟩

end FactQuery.Sparql
