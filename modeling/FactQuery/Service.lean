import FactQuery.Data
import FactQuery.Engine
import FactQuery.Service.Target
import FactQuery.Text.Blank
import FactQuery.Text.Capital

/-!
# The web service

The service answers requests over one engine.  A query before the data is there answers 503, an
unknown preset 404, and any fault of a query or of the data 400; a request of the wrong shape
answers 422 and tells nothing else.  The answer to HEAD has no body.
-/

set_option autoImplicit false

namespace FactQuery

open FactQuery.Sparql FactQuery.Text

structure Request where
  method : String
  reference : String
  /-- Parameters that take the place of those in the reference. -/
  parameters : Option (List (String × String)) := none
  body : Option Data := none

structure Response where
  status : Nat
  body : Option Data

namespace Service

def introduction : Data :=
  .record [("name", .text "triplequery"), ("version", .text "0.1.0"), ("docs", .text "/docs")]

def success (body : Data) : Response :=
  ⟨200, some body⟩

def failure (status : Nat) (detail : String) : Response :=
  ⟨status, some (.record [("detail", .text detail)])⟩

def invalid : Response :=
  ⟨422, some .null⟩

inductive Unanswered where
  | fault (fault : Fault)
  /-- The reference names no target. -/
  | reference
  /-- The target leads on to others without end. -/
  | redirects
  deriving DecidableEq, Repr

/-- A query error as the service words it.  A fault of the grammar is named and not explained. -/
def wording : QueryError → String
  | .malformed => "<syntax>"
  | .badEscape _ _ => "<syntax>"
  | error => error.message

/-- The answer where an operation of the engine has failed.  A value that cannot be read is no fault
of the request, and nothing answers it. -/
def refusal : Engine.Error → Except Unanswered Response
  | .notLoaded => .ok (failure 503 Engine.Error.notLoaded.message)
  | .unknownPreset id => .ok (failure 404 (Engine.Error.unknownPreset id).message)
  | .fault (.query error) => .ok (failure 400 ("Query error: " ++ wording error))
  | .fault error => .error (.fault error)
  | .load error => .ok (failure 400 ("Load error: " ++ error.message))
  | .readOnly => .ok (failure 400 Engine.Error.readOnly.message)

def presetData (preset : Preset) : Data :=
  .record [
    ("id", .text preset.id),
    ("name", .text preset.name),
    ("description", .text preset.description),
    ("category", .text preset.category),
    ("query", .text preset.query)]

def statsData (stats : Stats) : Data :=
  .record [
    ("state", .text stats.state.name),
    ("rows_scanned", .integer stats.rowsScanned),
    ("rows_joined", .integer stats.rowsJoined),
    ("rows_returned", .integer stats.rowsReturned),
    ("pattern_count", .integer stats.patternCount),
    ("filter_count", .integer stats.filterCount),
    ("error", .ofText? stats.error)]

def rowData (row : Row) : Data :=
  .record (row.pairs.map fun pair => (pair.1, .ofText? pair.2))

def resultFields (result : QueryResult) : List (String × Data) :=
  [ ("type", .text "select"),
    ("variables", .list (result.variableNames.map .text)),
    ("count", .integer result.rows.length),
    ("results", .list (result.rows.map rowData)),
    ("stats", statsData result.stats) ]

def healthData (engine : Engine) : Data :=
  .record [
    ("status", .text "healthy"),
    ("data_state", .text engine.store.state.name),
    ("facts", .integer engine.store.contents.length)]

def summaryData (query : Query) : Data :=
  let shown :=
    match query.form with
    | .select select => select.variableNames
    | _ => []
  .record [
    ("type", .text query.formName),
    ("prefixes", .record (query.prefixes.pairs.map fun pair => (pair.1, .text pair.2))),
    ("variables", .list (shown.map .text)),
    ("pattern_count", .integer (patternsOf query.group).length),
    ("filter_count", .integer (filterCount query.group))]

def queryText? (body : Option Data) : Option String :=
  match body.bind (·.field? "query") with
  | some (.text query) => some query
  | _ => none

/-- The text that a request asks to load; a blank one stands for none. -/
def loadText? (body : Option Data) : Option (Option String) :=
  match body with
  | none => some none
  | some .null => some none
  | some (.record fields) =>
    match (Data.record fields).field? "data" with
    | none => some none
    | some .null => some none
    | some (.text text) => some (if text.toList.all isWhite then none else some text)
    | some _ => none
  | some _ => none

inductive Action where
  | introduce
  | health
  | load (text : Option String)
  | values (predicate : String)
  | presets (category : Option String)
  | categories
  | runPreset (id : String)
  | query (text : String)
  | parse (text : String)
  deriving DecidableEq, Repr

inductive Route where
  | root
  | health
  | load
  | values
  | presets
  | categories
  | presetRun (id : String)
  | sparql
  | sparqlParse
  deriving DecidableEq, Repr

namespace Route

/-- The route to a place.  A line feed at the very end of a place changes nothing. -/
def ofPlace? (place : List Char) : Option Route :=
  let path := if place.getLast? == some '\n' then place.dropLast else place
  match (pieces '/' path).map String.ofList with
  | ["", ""] => some .root
  | ["", "health"] => some .health
  | ["", "load"] => some .load
  | ["", "values"] => some .values
  | ["", "presets"] => some .presets
  | ["", "presets", "categories"] => some .categories
  | ["", "presets", id, "run"] => if id.isEmpty then none else some (.presetRun id)
  | ["", "sparql"] => some .sparql
  | ["", "sparql", "parse"] => some .sparqlParse
  | _ => none

def method : Route → String
  | .root | .health | .values | .presets | .categories => "GET"
  | .load | .presetRun _ | .sparql | .sparqlParse => "POST"

def action? (target : Target) (body : Option Data) : Route → Option Action
  | .root => some .introduce
  | .health => some .health
  | .load => (loadText? body).map .load
  | .values => (target.parameter? "predicate").map .values
  | .presets => some (.presets (target.parameter? "category"))
  | .categories => some .categories
  | .presetRun id => some (.runPreset id)
  | .sparql => (queryText? body).map .query
  | .sparqlParse => (queryText? body).map .parse

end Route

def redirectLimit : Nat := 20

def targetOf (request : Request) : Except Unanswered Target :=
  match Target.ofReference? request.reference with
  | none => .error .reference
  | some named =>
    let query := (request.parameters.map Target.queryOf).getD named.query
    let known := fun place => (Route.ofPlace? place).isSome
    match Target.settle? known (redirectLimit + 1) { named with query := query } with
    | none => .error .redirects
    | some target => .ok target

def answer {α : Type} (outcome : Except Engine.Error α) (tell : α → Data) :
    Except Unanswered Response :=
  match outcome with
  | .ok value => .ok (success (tell value))
  | .error error => refusal error

def perform (engine : Engine) : Action → Except Unanswered Response × Engine
  | .introduce => (.ok (success introduction), engine)
  | .health => (.ok (success (healthData engine)), engine)
  | .load text =>
    let (outcome, engine) := engine.loadData text
    (answer outcome fun added =>
      .record [
        ("facts_added", .integer added),
        ("data_state", .text engine.store.state.name)], engine)
  | .values predicate =>
    (answer (engine.valuesOf predicate) fun values =>
      .record [("predicate", .text predicate), ("values", .list (values.map .text))], engine)
  | .presets category => (.ok (success (.list ((Preset.list category).map presetData))), engine)
  | .categories => (.ok (success (.list (Preset.categories.map .text))), engine)
  | .runPreset id =>
    match Preset.find? id with
    | none => (refusal (.unknownPreset id), engine)
    | some preset =>
      (answer (engine.run preset.query) fun result =>
        .record (("preset", presetData preset) :: resultFields result), engine)
  | .query text => (answer (engine.run text) fun result => .record (resultFields result), engine)
  | .parse text =>
    match Query.ofText text with
    | .ok query => (.ok (success (summaryData query)), engine)
    | .error error => (.ok (failure 400 ("Parse error: " ++ wording error)), engine)

def handleAt (engine : Engine) (target : Target) (method : String) (body : Option Data) :
    Except Unanswered Response × Engine :=
  match Route.ofPlace? target.place with
  | none => (.ok (failure 404 "Not Found"), engine)
  | some route =>
    if method != route.method then (.ok (failure 405 "Method Not Allowed"), engine)
    else
      match route.action? target body with
      | none => (.ok invalid, engine)
      | some action => perform engine action

def handle (engine : Engine) (request : Request) : Except Unanswered Response × Engine :=
  let method := capitals request.method
  match targetOf request with
  | .error error => (.error error, engine)
  | .ok target =>
    let (outcome, engine) := handleAt engine target method request.body
    (outcome.map fun response =>
      if method == "HEAD" then { response with body := none } else response, engine)

/-- The answers to requests in turn.  A request that has none ends them. -/
def handleAll (engine : Engine) : List Request → Except Unanswered (List Response)
  | [] => .ok []
  | request :: others => do
    let (outcome, engine) := handle engine request
    let response ← outcome
    let rest ← handleAll engine others
    return response :: rest

end Service

end FactQuery
