/-!
# Statistics of a query

Counters that a run fills in, and the state of the run.
-/

set_option autoImplicit false

namespace FactQuery

inductive RunState where
  | pending
  | running
  | completed
  | failed
  deriving DecidableEq, Repr

def RunState.name : RunState → String
  | .pending => "PENDING"
  | .running => "RUNNING"
  | .completed => "COMPLETED"
  | .failed => "FAILED"

structure Stats where
  state : RunState := .pending
  rowsScanned : Int := 0
  rowsJoined : Int := 0
  rowsReturned : Int := 0
  patternCount : Int := 0
  filterCount : Int := 0
  error : Option String := none
  deriving DecidableEq, Repr

namespace Stats

def start (stats : Stats) : Stats :=
  { stats with state := .running }

def complete (rows : Int) (stats : Stats) : Stats :=
  { stats with state := .completed, rowsReturned := rows }

def fail (message : String) (stats : Stats) : Stats :=
  { stats with state := .failed, error := some message }

def addJoin (scanned joined : Nat) (stats : Stats) : Stats :=
  { stats with
    rowsScanned := stats.rowsScanned + scanned
    rowsJoined := stats.rowsJoined + joined }

end Stats

end FactQuery
