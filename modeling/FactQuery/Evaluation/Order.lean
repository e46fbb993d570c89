import FactQuery.Evaluation.Error
import FactQuery.Evaluation.Row
import FactQuery.Number.Order

/-!
# The order of rows

Conditions are compared from left to right, and a later one only breaks ties.  A missing value comes
before every other; two values compare as numbers or as texts.  A descending condition turns its own
comparison round.  Rows that tie on every condition keep the order they had.

A numeral that cannot be read has no place in the order.  Where each condition sees numbers alone or
texts alone, sorting compares every row with its neighbours in the result, so the rows can be sorted
exactly if every two of them can be compared.

In a column of numerals and texts there is no such order: `9` comes before `10` as a number, and
`10` before `1a` and `1a` before `9` as texts.  Which pairs are compared there, and with them the
rows that come out and the fault that is met, depends on the way of sorting and is left open;
merging after a trial of every pair stands for it.
-/

set_option autoImplicit false

namespace FactQuery

open FactQuery.Sparql FactQuery.Number

namespace Order

def compareOptional (left right : Option String) : Except UnreadableNumeral Ordering :=
  match left, right with
  | some left, some right => compareValues left right
  | some _, none => .ok .gt
  | none, some _ => .ok .lt
  | none, none => .ok .eq

def compareRows (left right : Row) :
    List OrderCondition → Except UnreadableNumeral Ordering
  | [] => .ok .eq
  | condition :: others => do
    let name := condition.variableName
    match ← compareOptional (Row.value? left name) (Row.value? right name) with
    | .eq => compareRows left right others
    | order => return if condition.descending then order.swap else order

/-- Whether one row may stand in front of another; two rows that cannot be compared may. -/
def comesFirst (conditions : List OrderCondition) (left right : Row) : Bool :=
  match compareRows left right conditions with
  | .ok order => order != .gt
  | .error _ => true

def isReadable (conditions : List OrderCondition) (row : Row) : Bool :=
  conditions.all fun condition =>
    (Row.value? row condition.variableName).all fun value => (coerce value).isOk

def firstFault (conditions : List OrderCondition) : List Row → Except UnreadableNumeral Unit
  | [] => .ok ()
  | row :: others => do
    others.forM fun other => discard (compareRows row other conditions)
    firstFault conditions others

/-- The rows in order.  Pairs need to be tried only where some value cannot be read. -/
def sort (conditions : List OrderCondition) (rows : List Row) : Evaluation (List Row) := do
  if !rows.all (isReadable conditions) then
    Evaluation.ofNumeral (firstFault conditions rows)
  return rows.mergeSort (comesFirst conditions)

end Order

end FactQuery
