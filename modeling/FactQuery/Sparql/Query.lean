import FactQuery.Sparql.Group

/-!
# Queries

A query has prefixes and a form.  The form that can be run is SELECT: variables, a group, and the
modifiers that order, thin out and cut the rows.
-/

set_option autoImplicit false

namespace FactQuery.Sparql

structure OrderCondition where
  variableName : String
  descending : Bool := false
  deriving DecidableEq, Repr

def OrderCondition.text (condition : OrderCondition) : String :=
  if condition.descending then "DESC(?" ++ condition.variableName ++ ")"
  else "?" ++ condition.variableName

structure Select where
  /-- The requested variables; none stands for all of them. -/
  variableNames : List String
  group : Group
  distinct : Bool := false
  limit : Option Int := none
  offset : Option Int := none
  order : List OrderCondition := []

inductive Form where
  | select (select : Select)
  | ask (group : Group)
  /-- A query that says nothing. -/
  | unknown

structure Query where
  prefixes : PrefixTable
  form : Form

namespace Select

def selectsAll (select : Select) : Bool :=
  select.variableNames.isEmpty

def shown (select : Select) : List String :=
  if select.selectsAll then variablesOf select.group else select.variableNames

/-- The lines that an entry of the group takes in a written query. -/
def entryText : Node → String
  | .triples patterns => Node.text (.triples patterns)
  | entry => "  " ++ entry.text

def isWritable (select : Select) : Bool :=
  Node.areWritable select.group

def text (prefixes : PrefixTable) (select : Select) : String :=
  let declared := prefixes.pairs.map fun pair => "PREFIX " ++ pair.1 ++ ": <" ++ pair.2 ++ ">"
  let requested :=
    if select.selectsAll then "*" else " ".intercalate (select.variableNames.map ("?" ++ ·))
  let head := "SELECT " ++ (if select.distinct then "DISTINCT " else "") ++ requested
  let order :=
    if select.order.isEmpty then []
    else ["ORDER BY " ++ " ".intercalate (select.order.map OrderCondition.text)]
  let limit := select.limit.toList.map fun count => "LIMIT " ++ toString count
  let offset :=
    (select.offset.filter (· != 0)).toList.map fun count => "OFFSET " ++ toString count
  "\n".intercalate
    (declared ++ [head, "WHERE \x7b"] ++ select.group.map entryText ++ ["\x7d"] ++ order ++ limit ++
      offset)

end Select

namespace Query

def formName (query : Query) : String :=
  match query.form with
  | .select _ => "SELECT"
  | .ask _ => "ASK"
  | .unknown => "UNKNOWN"

def group (query : Query) : Group :=
  match query.form with
  | .select select => select.group
  | .ask group => group
  | .unknown => []

/-- The first undeclared label among the resource names of a query. -/
def undeclared? (query : Query) : Option String :=
  ((Node.irisOf query.group).find? fun name => !name.isDeclared query.prefixes).bind Iri.label?

end Query

end FactQuery.Sparql
