import FactQuery.Evaluation.Join
import FactQuery.Turtle.Document

/-!
# The fact store

The store is filled once and read ever after.  It starts uninitialized, is loading while a stream of
facts runs into it, and is ready from then on; a stream that fails leaves it empty and
uninitialized, to be tried again.

New facts wait in a buffer and settle in the table when the table is next looked at.  What the store
holds is the table followed by the buffer.
-/

set_option autoImplicit false

namespace FactQuery

inductive LoadState where
  | uninitialized
  | loading
  | ready
  deriving DecidableEq, Repr

def LoadState.name : LoadState → String
  | .uninitialized => "uninitialized"
  | .loading => "loading"
  | .ready => "ready"

inductive LoadError where
  | inProgress
  | turtle (error : Turtle.Error)
  /-- The stream broke for a cause of its own. -/
  | stream (cause : String)
  deriving DecidableEq, Repr

def LoadError.message : LoadError → String
  | .inProgress => "A data load is already in progress."
  | .turtle error => error.message
  | .stream cause => "Failed to load facts: " ++ cause

/-- The failure of a load whose document cannot be read to its end. -/
def LoadError.ofTurtle (error : Turtle.Error) : LoadError :=
  if error.isSyntaxError then .turtle error else .stream error.message

structure Store where
  settled : List Fact
  pending : List Fact
  state : LoadState
  deriving DecidableEq, Repr

namespace Store

def initial : Store :=
  ⟨[], [], .uninitialized⟩

/-- Everything the store holds, in the order in which it came. -/
def contents (store : Store) : List Fact :=
  store.settled ++ store.pending

def flush (store : Store) : Store :=
  { store with settled := store.settled ++ store.pending, pending := [] }

theorem contents_flush (store : Store) : store.flush.contents = store.contents := by
  simp [flush, contents]

theorem state_flush (store : Store) : store.flush.state = store.state := rfl

def isReady (store : Store) : Bool :=
  store.state == .ready

/-- The store with one more fact.  A store that is ready takes none. -/
def addFact? (store : Store) (fact : Fact) : Option Store :=
  if store.isReady then none else some { store with pending := store.pending ++ [fact] }

/-! ## Reads -/

structure Summary where
  state : LoadState
  facts : Nat
  subjects : Nat
  predicates : Nat
  deriving DecidableEq, Repr

inductive Lookup where
  | state
  /-- Everything that the store holds. -/
  | table
  | facts (subject predicate object : Option String)
  | valuesOf (predicate : String)
  | summary
  | size
  | description
  deriving DecidableEq, Repr

inductive Answer where
  | state (state : LoadState)
  | facts (facts : List Fact)
  | values (values : List String)
  | summary (summary : Summary)
  | size (size : Nat)
  | description (text : String)
  deriving DecidableEq, Repr

def valuesIn (facts : List Fact) (predicate : String) : List String :=
  ((facts.filter fun fact => fact.predicate == predicate).map Fact.object).eraseDups

theorem valuesIn_eq_matchFacts (facts : List Fact) (predicate : String) :
    valuesIn facts predicate =
      ((matchFacts facts none (some predicate) none).map Fact.object).eraseDups := by
  simp [valuesIn, matchFacts]

def summaryOf (state : LoadState) (facts : List Fact) : Summary :=
  ⟨state, facts.length, (facts.map Fact.subject).eraseDups.length,
    (facts.map Fact.predicate).eraseDups.length⟩

def descriptionOf (state : LoadState) (facts : List Fact) : String :=
  "FactStore(state=" ++ state.name ++ ", facts=" ++ toString facts.length ++ ")"

/-- The answer to a question, read off the table; the state alone is known without it. -/
def look (store : Store) : Lookup → Answer × Store
  | .state => (.state store.state, store)
  | .table => (.facts store.flush.settled, store.flush)
  | .facts subject predicate object =>
    (.facts (matchFacts store.flush.settled subject predicate object), store.flush)
  | .valuesOf predicate => (.values (valuesIn store.flush.settled predicate), store.flush)
  | .summary => (.summary (summaryOf store.state store.flush.settled), store.flush)
  | .size => (.size store.flush.settled.length, store.flush)
  | .description => (.description (descriptionOf store.state store.flush.settled), store.flush)

/-! ## Loads -/

/-- What a stream does when it is asked for its next fact. -/
inductive StreamStep where
  | yield (fact : Fact)
  /-- It looks something up in the store that it is loaded into. -/
  | look (lookup : Lookup)
  /-- It tries to load another stream into the same store, and may catch the error. -/
  | load (stream : List StreamStep) (caught : Bool)
  | fail (error : LoadError)
  deriving Repr

/-- A finite stream, as the steps it takes when it is asked until its end. -/
abbrev Stream : Type :=
  List StreamStep

inductive Sight where
  | answer (answer : Answer)
  | load (outcome : Except LoadError Nat)

/-- The end of a load: the store, what the load returns, and what its stream saw. -/
structure Loaded where
  store : Store
  outcome : Except LoadError Nat
  seen : List Sight

inductive Start where
  | done
  | refused (error : LoadError)
  | begun (store : Store)

/-- A load begins only where none is running and none has succeeded. -/
def begin (store : Store) : Start :=
  match store.state with
  | .ready => .done
  | .loading => .refused .inProgress
  | .uninitialized => .begun { store with state := .loading }

def abandon (error : LoadError) (seen : List Sight) : Loaded :=
  ⟨.initial, .error error, seen⟩

def finish (store : Store) (count : Nat) (seen : List Sight) : Loaded :=
  ⟨{ store.flush with state := .ready }, .ok count, seen⟩

structure Running where
  store : Store
  count : Nat
  seen : List Sight

def Running.start (store : Store) : Running :=
  ⟨store, 0, []⟩

def Running.sees (running : Running) (sight : Sight) : Running :=
  { running with seen := running.seen ++ [sight] }

inductive Progress where
  | running (running : Running)
  | failed (error : LoadError) (seen : List Sight)

/-- The stream learns how a load of its own has ended, and fails with it unless it catches the
error. -/
def Running.learns (running : Running) (caught : Bool) : Except LoadError Nat → Progress
  | .ok added => .running (running.sees (.load (.ok added)))
  | .error error =>
    if caught then .running (running.sees (.load (.error error))) else .failed error running.seen

mutual

def advance (running : Running) : StreamStep → Progress
  | .yield fact =>
    match running.store.addFact? fact with
    | some store => .running { running with store := store, count := running.count + 1 }
    | none => .failed (.stream "The fact store is read-only once loaded.") running.seen
  | .look lookup =>
    .running (Running.sees { running with store := (running.store.look lookup).2 }
      (.answer (running.store.look lookup).1))
  | .load stream caught =>
    match running.store.begin with
    | .done => running.learns caught (.ok 0)
    | .refused error => running.learns caught (.error error)
    | .begun store =>
      let inner := consume (.start store) stream
      Running.learns { running with store := inner.store } caught inner.outcome
  | .fail error => .failed error running.seen

def consume (running : Running) : List StreamStep → Loaded
  | [] => finish running.store running.count running.seen
  | step :: others =>
    match advance running step with
    | .running running => consume running others
    | .failed error seen => abandon error seen

end

def load (store : Store) (stream : Stream) : Loaded :=
  match store.begin with
  | .done => ⟨store, .ok 0, []⟩
  | .refused error => ⟨store, .error error, []⟩
  | .begun store => consume (.start store) stream

def streamOf (told : Turtle.Telling) : Stream :=
  told.facts.map .yield ++ told.error.toList.map fun error => .fail (.ofTurtle error)

/-- What comes of reading a document: its text, or the cause for which it cannot be read. -/
abbrev Reading : Type :=
  Except String String

/-- The stream of a document.  One that cannot be read breaks before its first fact. -/
def streamOfReading : Reading → Stream
  | .ok text => streamOf (Turtle.tell 0 text)
  | .error cause => [.fail (.stream cause)]

end Store

end FactQuery
