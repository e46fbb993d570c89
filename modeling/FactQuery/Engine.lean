import FactQuery.Dataset.Books
import FactQuery.Evaluation.Select
import FactQuery.Preset
import FactQuery.Sparql.Reading
import FactQuery.Store
import FactQuery.Text.LineEnd

/-!
# The query engine

An engine owns a store, fills it once and runs queries over it.  Every query first asks whether the
data is there, so that missing data is an error and never an empty result.
-/

set_option autoImplicit false

namespace FactQuery

open FactQuery.Sparql

/-- A file over time: what comes of reading it the first time, the second time and so on. -/
abbrev DataFile : Type :=
  Nat → Store.Reading

structure Engine where
  store : Store
  /-- The file that is loaded where no other document is given; without one it is the sample. -/
  dataFile : Option DataFile := none
  maxResults : Option Int := none

namespace Engine

inductive Error where
  | notLoaded
  | readOnly
  | load (error : LoadError)
  | unknownPreset (id : String)
  | fault (fault : Fault)
  deriving DecidableEq, Repr

def Error.message : Error → String
  | .notLoaded => "Data not loaded. Please load data before executing queries."
  | .readOnly => "The fact store is read-only once loaded."
  | .load error => error.message
  | .unknownPreset id => "Preset query not found: " ++ id
  | .fault error => error.message

/-- An engine over a file that may change, and may fail to be read, from one load to the next. -/
def onFile (dataFile : Option DataFile) (maxResults : Option Int) : Engine :=
  ⟨.initial, dataFile, maxResults⟩

/-- An engine over a file that stays as it is. -/
def start (dataFile : Option String := none) (maxResults : Option Int := none) : Engine :=
  onFile (dataFile.map fun text _ => .ok text) maxResults

/-- The engine after some readings of its file. -/
def later (engine : Engine) (readings : Nat) : Engine :=
  { engine with dataFile := engine.dataFile.map fun file time => file (time + readings) }

@[simp]
theorem store_later (engine : Engine) (readings : Nat) :
    (engine.later readings).store = engine.store := rfl

@[simp]
theorem later_zero (engine : Engine) : engine.later 0 = engine := by
  cases engine with
  | mk store dataFile maxResults => cases dataFile <;> rfl

theorem later_later (engine : Engine) (first second : Nat) :
    (engine.later first).later second = engine.later (first + second) := by
  cases engine with
  | mk store dataFile maxResults =>
      cases dataFile with
      | none => rfl
      | some file => simp [later, Nat.add_assoc, Nat.add_comm first second]

/-- The document of a load, by default the file as it now reads. -/
def documentOf (engine : Engine) : Option String → Store.Reading
  | some text => .ok text
  | none =>
    match engine.dataFile with
    | some file => (file 0).map Text.unifyLineEnds
    | none => .ok Dataset.books

/-- How many times a load turns to the file. -/
def readings : Option String → Nat
  | some _ => 0
  | none => 1

def loadFacts (engine : Engine) (stream : Store.Stream) : Store.Loaded × Engine :=
  let loaded := engine.store.load stream
  (loaded, { engine with store := loaded.store })

def loadData (engine : Engine) (text : Option String) : Except Error Nat × Engine :=
  let loaded := engine.store.load (Store.streamOfReading (engine.documentOf text))
  (loaded.outcome.mapError .load, { engine.later (readings text) with store := loaded.store })

def addFact (engine : Engine) (fact : Fact) : Except Error Unit × Engine :=
  match engine.store.addFact? fact with
  | some store => (.ok (), { engine with store := store })
  | none => (.error .readOnly, engine)

def look (engine : Engine) (lookup : Store.Lookup) : Store.Answer × Engine :=
  ((engine.store.look lookup).1, { engine with store := (engine.store.look lookup).2 })

def requireReady (engine : Engine) : Except Error Unit :=
  if engine.store.isReady then .ok () else .error .notLoaded

/-- Rows cut to a number, if they are more than that. -/
def cutRows {α : Type} (maxResults : Option Int) (rows : List α) : List α :=
  match maxResults with
  | some count => if count < rows.length then takeRows count rows else rows
  | none => rows

def execute (engine : Engine) (text : String) : Except Error QueryResult := do
  engine.requireReady
  let query ← (Query.ofText text).mapError fun error => Error.fault (.query error)
  (FactQuery.execute engine.store.contents query).mapError .fault

def run (engine : Engine) (text : String) : Except Error QueryResult := do
  let result ← engine.execute text
  return { result with rows := cutRows engine.maxResults result.rows }

def runPreset (engine : Engine) (id : String) : Except Error QueryResult :=
  match Preset.find? id with
  | some preset => engine.run preset.query
  | none => .error (.unknownPreset id)

def valuesOf (engine : Engine) (predicate : String) : Except Error (List String) := do
  engine.requireReady
  return Store.valuesIn engine.store.contents predicate

end Engine

end FactQuery
