import FactQuery.Evaluation.Filter
import FactQuery.Evaluation.Join
import FactQuery.Evaluation.Order
import FactQuery.Evaluation.Stats

/-!
# Running a query

The patterns of the group are joined, its filters thin out the rows, the requested variables are
shown, and the rows are sorted, freed of repetitions and cut, in this order.
-/

set_option autoImplicit false

namespace FactQuery

open FactQuery.Sparql

structure QueryResult where
  variableNames : List String
  rows : List Row
  stats : Stats

namespace QueryResult

/-- The columns of the result as a table.  A variable that is requested twice is one column. -/
def columns (result : QueryResult) : List String :=
  result.variableNames.eraseDups

/-- The number of rows of the result as a table.  A table without columns has none. -/
def height (result : QueryResult) : Nat :=
  if result.columns.isEmpty then 0 else result.rows.length

end QueryResult

/-- The patterns and the filters of a group, each in order.  Any other entry is unsupported. -/
def planOf : Group → Except QueryError (List TriplePattern × List Node)
  | [] => .ok ([], [])
  | .triples patterns :: others => do
    let rest ← planOf others
    return (patterns ++ rest.1, rest.2)
  | .filter condition :: others => do
    let rest ← planOf others
    return (rest.1, condition :: rest.2)
  | other :: _ => .error (.unsupportedPattern other.kind)

/-- The list without its first entries.  A negative number of entries keeps that many at the end. -/
def dropRows {α : Type} (count : Int) (rows : List α) : List α :=
  if 0 ≤ count then rows.drop count.toNat else rows.drop (rows.length - (-count).toNat)

/-- The first entries of a list.  A negative number of entries leaves out that many at the end. -/
def takeRows {α : Type} (count : Int) (rows : List α) : List α :=
  if 0 ≤ count then rows.take count.toNat else rows.take (rows.length - (-count).toNat)

namespace Sparql.Select

def page {α : Type} (select : Select) (rows : List α) : List α :=
  let remaining := dropRows (select.offset.getD 0) rows
  match select.limit with
  | some limit => takeRows limit remaining
  | none => remaining

def thinOut (select : Select) (rows : List Row) : List Row :=
  select.page (if select.distinct then rows.eraseDups else rows)

def run (facts : List Fact) (prefixes : PrefixTable) (select : Select) :
    Evaluation QueryResult := do
  let plan ← Evaluation.ofQuery (planOf select.group)
  let found ← joinPatterns facts prefixes plan.1
  let kept ← Filter.apply plan.2 found.rows
  let sorted ← Order.sort select.order (kept.map (Row.project select.shown))
  let rows := select.thinOut sorted
  let counted : Stats := { patternCount := plan.1.length, filterCount := plan.2.length }
  let stats := (counted.start.addJoin found.scanned found.joined).complete rows.length
  return ⟨select.shown, rows, stats⟩

end Sparql.Select

/-- The result of a query over some facts.  Only SELECT can be run. -/
def execute (facts : List Fact) (query : Query) : Evaluation QueryResult :=
  match query.form with
  | .select select => select.run facts query.prefixes
  | _ => .error (.query (.unsupportedForm query.formName))

end FactQuery
