import FactQuery.Proofs.Evaluation.Faults
import FactQuery.Proofs.Store.Lifecycle
import FactQuery.Service

/-!
# When the service has its data

Requests reach the service one after the other, and each finds the engine that the ones before it
have left.  Two things can be found there: the engine as it was started, its file read some times in
vain, or a store that is ready and holds the facts of the one load that has succeeded.  Which of the
two it is can be told from the answers given so far, and with it how the next request is answered.
-/

set_option autoImplicit false

namespace FactQuery.Service

open FactQuery.Sparql FactQuery.Text

/-! ## Requests in turn -/

/-- The action that a request asks for, if it reaches one. -/
def asked? (request : Request) : Option Action :=
  match targetOf request with
  | .error _ => none
  | .ok target =>
    match Route.ofPlace? target.place with
    | none => none
    | some route =>
      if capitals request.method = route.method then route.action? target request.body else none

structure Exchange where
  request : Request
  outcome : Except Unanswered Response

/-- Requests in turn.  One that has no answer does not end them. -/
def exchanges (engine : Engine) : List Request → List Exchange
  | [] => []
  | request :: others =>
    ⟨request, (handle engine request).1⟩ :: exchanges (handle engine request).2 others

def behind (engine : Engine) (requests : List Request) : Engine :=
  requests.foldl (fun engine request => (handle engine request).2) engine

theorem handleAll_eq_mapM (requests : List Request) :
    ∀ engine, handleAll engine requests = (exchanges engine requests).mapM Exchange.outcome := by
  induction requests with
  | nil => exact fun engine => rfl
  | cons request others inductionHypothesis =>
      intro engine
      rw [exchanges, List.mapM_cons, ← inductionHypothesis]
      rfl

/-- A slash too many leads on to the place without it. -/
example : asked? ⟨"post", "/load/", none, none⟩ = some (.load none) := by decide +kernel

theorem exists_of_asked {request : Request} {action : Action}
    (asked : asked? request = some action) :
    ∃ target route, targetOf request = .ok target ∧ Route.ofPlace? target.place = some route ∧
      capitals request.method = route.method ∧
      route.action? target request.body = some action := by
  unfold asked? at asked
  cases reached : targetOf request with
  | error error => simp [reached] at asked
  | ok target =>
      cases found : Route.ofPlace? target.place with
      | none => simp [reached, found] at asked
      | some route =>
          by_cases same : capitals request.method = route.method
          · simp only [reached, found, same, if_true] at asked
            exact ⟨target, route, rfl, found, same, asked⟩
          · simp [reached, found, same] at asked

theorem method_ne_head (route : Route) : (route.method == "HEAD") = false := by
  cases route <;> simp [Route.method]

theorem handle_asked (engine : Engine) {request : Request} {action : Action}
    (asked : asked? request = some action) : handle engine request = perform engine action := by
  obtain ⟨target, route, reached, found, same, shape⟩ := exists_of_asked asked
  have unchanged : ∀ outcome : Except Unanswered Response,
      (outcome.map fun response =>
        if capitals request.method == "HEAD" then { response with body := none } else response) =
          outcome := by
    intro outcome
    rw [same, method_ne_head]
    cases outcome <;> rfl
  simp only [handle, reached, handleAt, found, same, bne_self_eq_false, shape] at unchanged ⊢
  simp only [unchanged, Bool.false_eq_true, if_false]

def shownState? : Except Unanswered Response → Option Data
  | .ok ⟨_, some body⟩ => body.field? "data_state"
  | _ => none

theorem shownState?_head (head : Bool) {outcome : Except Unanswered Response}
    (nothing : shownState? outcome = none) :
    shownState? (outcome.map fun response =>
      if head then { response with body := none } else response) = none := by
  cases outcome with
  | error error => rfl
  | ok response =>
      cases head with
      | true => rfl
      | false => exact nothing

theorem handleAt_unasked (engine : Engine) {target : Target} {method : String}
    {body : Option Data}
    (unasked : ∀ route, Route.ofPlace? target.place = some route → method = route.method →
      route.action? target body = none) :
    (handleAt engine target method body).2 = engine ∧
      shownState? (handleAt engine target method body).1 = none := by
  unfold handleAt
  cases found : Route.ofPlace? target.place with
  | none => exact ⟨rfl, rfl⟩
  | some route =>
      by_cases same : method = route.method
      · simp only [same, bne_self_eq_false, unasked route found same]
        exact ⟨rfl, rfl⟩
      · have other : (method != route.method) = true := by simpa using same
        dsimp only
        rw [if_pos other]
        exact ⟨rfl, rfl⟩

theorem handle_unasked (engine : Engine) {request : Request} (unasked : asked? request = none) :
    (handle engine request).2 = engine ∧ shownState? (handle engine request).1 = none := by
  unfold handle
  cases reached : targetOf request with
  | error error => exact ⟨rfl, rfl⟩
  | ok target =>
      have idle : ∀ route, Route.ofPlace? target.place = some route →
          capitals request.method = route.method → route.action? target request.body = none := by
        intro route found same
        simpa [asked?, reached, found, same] using unasked
      obtain ⟨kept, nothing⟩ := handleAt_unasked engine idle
      exact ⟨kept, shownState?_head _ nothing⟩

/-! ## Loads of documents -/

def factsTold : Store.Reading → List Fact
  | .ok text => (Turtle.tell 0 text).facts
  | .error _ => []

/-- What breaks off the load of a document, if anything does. -/
def faultTold : Store.Reading → Option LoadError
  | .ok text => (Turtle.tell 0 text).error.map .ofTurtle
  | .error cause => some (.stream cause)

theorem failure?_streamOf (told : Turtle.Telling) :
    Store.failure? (Store.streamOf told) = told.error.map .ofTurtle := by
  have quiet : Store.failure? (told.facts.map .yield) = none := by
    rw [Store.failure?, List.findSome?_eq_none_iff]
    intro step given
    obtain ⟨fact, _, rfl⟩ := List.mem_map.1 given
    rfl
  rw [Store.failure?] at quiet
  rw [Store.streamOf, Store.failure?, List.findSome?_append, quiet]
  cases told.error <;> rfl

theorem factsOf_streamOf (told : Turtle.Telling) :
    Store.factsOf (Store.streamOf told) = told.facts := by
  have whole : Store.factsOf (told.facts.map .yield) = told.facts := by
    rw [Store.factsOf, List.filterMap_map]
    exact List.filterMap_some
  rw [Store.factsOf] at whole
  rw [Store.streamOf, Store.factsOf, List.filterMap_append, whole]
  cases told.error <;> simp

theorem failure?_streamOfReading (document : Store.Reading) :
    Store.failure? (Store.streamOfReading document) = faultTold document := by
  cases document with
  | ok text => exact failure?_streamOf _
  | error cause => rfl

theorem factsOf_streamOfReading (document : Store.Reading) :
    Store.factsOf (Store.streamOfReading document) = factsTold document := by
  cases document with
  | ok text => exact factsOf_streamOf _
  | error cause => rfl

def filled (engine : Engine) (facts : List Fact) : Engine :=
  { engine with store := ⟨facts, [], .ready⟩ }

section Empty
variable {engine : Engine} (empty : engine.store = .initial)
include empty

theorem loadData_completes {text : Option String}
    (faultless : faultTold (engine.documentOf text) = none) :
    engine.loadData text =
      (.ok (factsTold (engine.documentOf text)).length,
        filled (engine.later (Engine.readings text)) (factsTold (engine.documentOf text))) := by
  have free : Store.initial.state = .uninitialized := rfl
  obtain ⟨store, outcome⟩ :=
    Store.load_completes free ((failure?_streamOfReading _).trans faultless)
  rw [factsOf_streamOfReading] at store outcome
  simp only [Engine.loadData, empty, store, outcome]
  rfl

/-- A document with a fault, or one that cannot be read, leaves the store as it was. -/
theorem loadData_fails {text : Option String} {error : LoadError}
    (fault : faultTold (engine.documentOf text) = some error) :
    engine.loadData text = (.error (.load error), engine.later (Engine.readings text)) := by
  have free : Store.initial.state = .uninitialized := rfl
  obtain ⟨store, outcome⟩ := Store.load_fails free ((failure?_streamOfReading _).trans fault)
  simp only [Engine.loadData, empty, store, outcome]
  rw [← empty]
  rfl

end Empty

theorem loadData_of_ready {engine : Engine} (ready : engine.store.state = .ready)
    (text : Option String) :
    engine.loadData text = (.ok 0, engine.later (Engine.readings text)) := by
  simp only [Engine.loadData, Store.load_of_ready ready]
  rfl

/-! ## Queries with and without data -/

theorem isReady_of_ready {store : Store} (ready : store.state = .ready) : store.isReady = true := by
  rw [Store.isReady, ready]
  rfl

theorem requireReady_of_not_ready {engine : Engine} (waiting : engine.store.state ≠ .ready) :
    engine.requireReady = .error .notLoaded := by
  simp [Engine.requireReady, Store.isReady, waiting]

/-- Readiness is asked for before the text of the query is looked at. -/
theorem run_of_not_ready {engine : Engine} (waiting : engine.store.state ≠ .ready)
    (text : String) : engine.run text = .error .notLoaded := by
  rw [Engine.run, Engine.execute, requireReady_of_not_ready waiting]
  rfl

theorem valuesOf_of_not_ready {engine : Engine} (waiting : engine.store.state ≠ .ready)
    (predicate : String) : engine.valuesOf predicate = .error .notLoaded := by
  rw [Engine.valuesOf, requireReady_of_not_ready waiting]
  rfl

theorem valuesOf_of_ready {engine : Engine} (ready : engine.store.state = .ready)
    (predicate : String) :
    engine.valuesOf predicate = .ok (Store.valuesIn engine.store.contents predicate) := by
  rw [Engine.valuesOf, Engine.requireReady_of_ready (isReady_of_ready ready)]
  rfl

/-- With its data an engine fails at a query only by a fault of the query or of a value. -/
theorem run_of_ready {engine : Engine} (ready : engine.store.state = .ready) (text : String) :
    (∃ result, engine.run text = .ok result) ∨
      ∃ fault, engine.run text = .error (.fault fault) := by
  have isReady := isReady_of_ready ready
  cases parsed : Query.ofText text with
  | error error => exact .inr ⟨.query error, Engine.run_of_unread isReady parsed⟩
  | ok query =>
      rw [Engine.run_of_ofText isReady parsed]
      cases FactQuery.execute engine.store.contents query with
      | error fault => exact .inr ⟨fault, rfl⟩
      | ok result => exact .inl ⟨_, rfl⟩

/-! ## What the service answers -/

def healthAnswer (state : LoadState) (count : Data) : Response :=
  success (.record [
    ("status", .text "healthy"),
    ("data_state", .text state.name),
    ("facts", count)])

def loadAnswer (added : Nat) : Response :=
  success (.record [
    ("facts_added", .integer added),
    ("data_state", .text LoadState.ready.name)])

def unavailable : Response :=
  failure 503 Engine.Error.notLoaded.message

/-- How an action is answered as long as no load has succeeded. -/
def AnswersWaiting (start : Engine) (outcome : Except Unanswered Response) : Action → Prop
  | .query _ => outcome = .ok unavailable
  | .values _ => outcome = .ok unavailable
  | .runPreset id => (Preset.find? id).isSome → outcome = .ok unavailable
  | .health => outcome = .ok (healthAnswer .uninitialized (.integer 0))
  | .load text =>
    match faultTold (start.documentOf text) with
    | none => outcome = .ok (loadAnswer (factsTold (start.documentOf text)).length)
    | some error => outcome = .ok (failure 400 ("Load error: " ++ error.message))
  | _ => True

def IsServed (outcome : Except Unanswered Response) : Prop :=
  ∀ response, outcome = .ok response → response.status ≠ 503

/-- How an action is answered once a load has added some facts. -/
def AnswersServing (count : Data) (outcome : Except Unanswered Response) : Action → Prop
  | .health => outcome = .ok (healthAnswer .ready count)
  | .load _ => outcome = .ok (loadAnswer 0)
  | _ => IsServed outcome

/-- How an action is answered, by what the first load that succeeded says it has added. -/
def Answers (start : Engine) (outcome : Except Unanswered Response) (action : Action) :
    Option Data → Prop
  | none => AnswersWaiting start outcome action
  | some count => AnswersServing count outcome action

/-- Where the service stands: it has what it started with, or the facts of a load. -/
def Stands (start engine : Engine) : Option Data → Prop
  | none => engine = start
  | some count => engine.store.state = .ready ∧ count = .integer engine.store.contents.length

def readingsOf : Action → Nat
  | .load text => Engine.readings text
  | _ => 0

/-- How many times requests turn to the file. -/
def readings : List Request → Nat
  | [] => 0
  | request :: others => ((asked? request).map readingsOf).getD 0 + readings others

/-- What a load says it has added, if it is answered with 200. -/
def addedBy? (outcome : Except Unanswered Response) : Action → Option Data
  | .load _ =>
    match outcome with
    | .ok response =>
      if response.status = 200 then
        some ((response.body.bind (·.field? "facts_added")).getD .null)
      else none
    | .error _ => none
  | _ => none

def added? (run : List Exchange) : Option Data :=
  run.findSome? fun exchange => (asked? exchange.request).bind (addedBy? exchange.outcome)

theorem isServed_success (body : Data) : IsServed (.ok (success body)) := by
  intro response answered
  cases answered
  simp [success]

theorem isServed_failure {status : Nat} (other : status ≠ 503) (detail : String) :
    IsServed (.ok (failure status detail)) := by
  intro response answered
  cases answered
  exact other

theorem isServed_answer {α : Type} {outcome : Except Engine.Error α}
    (served : (∃ value, outcome = .ok value) ∨ ∃ fault, outcome = .error (.fault fault))
    (tell : α → Data) : IsServed (answer outcome tell) := by
  rcases served with ⟨value, rfl⟩ | ⟨fault, rfl⟩
  · exact isServed_success (tell value)
  · cases fault with
    | query error => exact isServed_failure (by decide) _
    | _ => exact fun response answered => by cases answered

theorem perform_waiting {start : Engine} (empty : start.store = .initial) (action : Action) :
    AnswersWaiting start (perform start action).1 action := by
  have waiting : start.store.state ≠ .ready := by
    rw [empty]
    decide
  cases action with
  | query text =>
      rw [AnswersWaiting, perform, run_of_not_ready waiting]
      rfl
  | values predicate =>
      rw [AnswersWaiting, perform, valuesOf_of_not_ready waiting]
      rfl
  | runPreset id =>
      intro known
      obtain ⟨preset, found⟩ := Option.isSome_iff_exists.1 known
      simp only [perform, found, run_of_not_ready waiting]
      rfl
  | health =>
      rw [AnswersWaiting, perform, healthData, empty]
      rfl
  | load text =>
      rw [AnswersWaiting]
      cases fault : faultTold (start.documentOf text) with
      | none =>
          simp only [perform, loadData_completes empty fault]
          rfl
      | some error =>
          simp only [perform, loadData_fails empty fault]
          rfl
  | introduce => trivial
  | presets category => trivial
  | categories => trivial
  | parse text => trivial

theorem perform_serving {engine : Engine} (ready : engine.store.state = .ready)
    (action : Action) :
    AnswersServing (.integer engine.store.contents.length) (perform engine action).1 action := by
  cases action with
  | query text => exact isServed_answer (run_of_ready ready text) _
  | values predicate => exact isServed_answer (.inl ⟨_, valuesOf_of_ready ready predicate⟩) _
  | runPreset id =>
      change IsServed _
      rw [perform]
      cases Preset.find? id with
      | none => exact isServed_failure (by decide) _
      | some preset => exact isServed_answer (run_of_ready ready preset.query) _
  | health =>
      rw [AnswersServing, perform, healthData, ready]
      rfl
  | load text =>
      simp only [AnswersServing, perform, loadData_of_ready ready, answer, Engine.store_later,
        ready]
      rfl
  | parse text =>
      change IsServed _
      rw [perform]
      cases Query.ofText text with
      | ok query => exact isServed_success _
      | error error => exact isServed_failure (by decide) _
  | introduce => exact isServed_success _
  | presets category => exact isServed_success _
  | categories => exact isServed_success _

/-! ## The engine along a run -/

theorem perform_engine (engine : Engine) {action : Action} (other : ∀ text, action ≠ .load text) :
    (perform engine action).2 = engine := by
  cases action with
  | load text => exact absurd rfl (other text)
  | runPreset id =>
      rw [perform]
      cases Preset.find? id <;> rfl
  | parse text =>
      rw [perform]
      cases Query.ofText text <;> rfl
  | _ => rfl

theorem readingsOf_of_not_load {action : Action} (other : ∀ text, action ≠ .load text) :
    readingsOf action = 0 := by
  cases action with
  | load text => exact absurd rfl (other text)
  | _ => rfl

theorem addedBy?_of_not_load (outcome : Except Unanswered Response) {action : Action}
    (other : ∀ text, action ≠ .load text) : addedBy? outcome action = none := by
  cases action with
  | load text => exact absurd rfl (other text)
  | _ => rfl

section Run
variable {start : Engine} (empty : start.store = .initial)
include empty

theorem perform_stands {engine : Engine} {count? : Option Data}
    (stands : Stands start engine count?) (action : Action) :
    Stands (start.later (readingsOf action)) (perform engine action).2
      (count?.or (addedBy? (perform engine action).1 action)) := by
  by_cases load : ∃ text, action = .load text
  · obtain ⟨text, rfl⟩ := load
    cases count? with
    | some count =>
        obtain ⟨ready, counted⟩ := stands
        simp only [perform, loadData_of_ready ready]
        exact ⟨ready, counted⟩
    | none =>
        obtain rfl : engine = start := stands
        cases fault : faultTold (engine.documentOf text) with
        | none =>
            simp only [perform, loadData_completes empty fault]
            refine ⟨rfl, ?_⟩
            simp [Data.field?, success, filled, Store.contents]
        | some error =>
            simp only [perform, loadData_fails empty fault]
            rfl
  · have other : ∀ text, action ≠ .load text := fun text same => load ⟨text, same⟩
    rw [perform_engine engine other, addedBy?_of_not_load _ other, Option.or_none,
      readingsOf_of_not_load other, Engine.later_zero]
    exact stands

theorem handle_stands {engine : Engine} {count? : Option Data}
    (stands : Stands start engine count?) (request : Request) :
    Stands (start.later (readings [request])) (handle engine request).2
      (count?.or ((asked? request).bind (addedBy? (handle engine request).1))) := by
  cases asked : asked? request with
  | none =>
      rw [(handle_unasked engine asked).1, Option.bind_none, Option.or_none]
      simpa [readings, asked] using stands
  | some action =>
      rw [handle_asked engine asked, Option.bind_some]
      simpa [readings, asked] using perform_stands empty stands action

end Run

theorem readings_cons (request : Request) (others : List Request) :
    readings (request :: others) = readings [request] + readings others := by
  simp [readings]

/-- Where the service stands after a run can be told from the answers it has given. -/
theorem behind_stands (requests : List Request) :
    ∀ {start engine : Engine} {count? : Option Data}, start.store = .initial →
      Stands start engine count? →
        Stands (start.later (readings requests)) (behind engine requests)
          (count?.or (added? (exchanges engine requests))) := by
  induction requests with
  | nil =>
      intro start engine count? empty stands
      rw [exchanges, added?, List.findSome?_nil, Option.or_none]
      simpa [readings, behind] using stands
  | cons request others inductionHypothesis =>
      intro start engine count? empty stands
      have later := inductionHypothesis ((Engine.store_later _ _).trans empty)
        (handle_stands empty stands request)
      rw [Option.or_assoc, Engine.later_later, ← readings_cons] at later
      rw [exchanges, added?, List.findSome?_cons]
      cases first : (asked? request).bind (addedBy? (handle engine request).1) <;>
        · rw [first] at later
          exact later

theorem Stands.not_loading {start engine : Engine} {count? : Option Data}
    (empty : start.store = .initial) (stands : Stands start engine count?) :
    engine.store.state ≠ .loading := by
  cases count? with
  | none =>
      obtain rfl : engine = start := stands
      rw [empty]
      decide
  | some count =>
      rw [stands.1]
      decide

theorem shownState?_refusal (error : Engine.Error) : shownState? (refusal error) = none := by
  cases error with
  | fault fault => cases fault <;> simp [refusal, failure, shownState?, Data.field?]
  | _ => simp [refusal, failure, shownState?, Data.field?]

theorem shownState?_answer {α : Type} (outcome : Except Engine.Error α) {tell : α → Data}
    (silent : ∀ value, (tell value).field? "data_state" = none) :
    shownState? (answer outcome tell) = none := by
  cases outcome with
  | ok value => exact silent value
  | error error => exact shownState?_refusal error

theorem shownState?_perform (engine : Engine) (action : Action) :
    shownState? (perform engine action).1 = none ∨
      shownState? (perform engine action).1 =
        some (.text (perform engine action).2.store.state.name) := by
  cases action with
  | health => exact .inr rfl
  | load text =>
      rw [perform]
      cases loaded : (engine.loadData text).1 with
      | ok added => simp [loaded, answer, success, shownState?, Data.field?]
      | error error => exact .inl (by simp [loaded, answer, shownState?_refusal])
  | query text =>
      exact .inl (shownState?_answer _ fun result => by simp [Data.field?, resultFields])
  | values predicate => exact .inl (shownState?_answer _ fun values => by simp [Data.field?])
  | runPreset id =>
      rw [perform]
      cases Preset.find? id with
      | none => exact .inl (shownState?_refusal (.unknownPreset id))
      | some preset =>
          exact .inl (shownState?_answer _ fun result => by simp [Data.field?, resultFields])
  | parse text =>
      rw [perform]
      cases Query.ofText text with
      | ok query => exact .inl (by simp [success, shownState?, summaryData, Data.field?])
      | error error => exact .inl (by simp [failure, shownState?, Data.field?])
  | introduce => exact .inl (by simp [perform, introduction, success, shownState?, Data.field?])
  | presets category => exact .inl rfl
  | categories => exact .inl rfl

theorem name_ne_loading {state : LoadState} (other : state ≠ .loading) :
    state.name ≠ LoadState.loading.name := by
  cases state with
  | loading => exact absurd rfl other
  | _ => simp [LoadState.name]

theorem shownState?_ne_loading {start engine : Engine} {count? : Option Data}
    (empty : start.store = .initial) (stands : Stands start engine count?) (request : Request) :
    shownState? (handle engine request).1 ≠ some (.text LoadState.loading.name) := by
  intro shown
  have left := (handle_stands empty stands request).not_loading
    ((Engine.store_later _ _).trans empty)
  cases asked : asked? request with
  | none =>
      have nothing := (handle_unasked engine asked).2
      rw [shown] at nothing
      cases nothing
  | some action =>
      rw [handle_asked engine asked] at shown left
      rcases shownState?_perform engine action with nothing | state
      · rw [shown] at nothing
        cases nothing
      · rw [shown] at state
        exact name_ne_loading left (Data.text.inj (Option.some.inj state)).symm

theorem perform_answers {start engine : Engine} {count? : Option Data}
    (empty : start.store = .initial) (stands : Stands start engine count?) (action : Action) :
    Answers start (perform engine action).1 action count? := by
  cases count? with
  | none =>
      have unchanged : engine = start := stands
      rw [unchanged]
      exact perform_waiting empty action
  | some count =>
      obtain ⟨ready, rfl⟩ := stands
      exact perform_serving ready action

/-- At every point of a run the service either waits for its data or serves the facts of the first
load that was answered with 200, and the answers so far tell which.  While it waits, queries, values
and known presets are refused, and a load is taken as a whole or leaves nothing; when it serves,
nothing is refused for want of data and a load adds nothing.  Nobody sees a load that is running.
The file may be another one, or none, at every load that turns to it. -/
theorem waits_then_serves (dataFile : Option DataFile) (maxResults : Option Int)
    (earlier : List Request) (request : Request) :
    let start := Engine.onFile dataFile maxResults
    let engine := behind start earlier
    let outcome := (handle engine request).1
    engine.store.state ≠ .loading ∧
      shownState? outcome ≠ some (.text LoadState.loading.name) ∧
      ∀ action, asked? request = some action →
        (∀ id, action = .runPreset id → Preset.find? id = none →
          outcome = .ok (failure 404 ("Preset query not found: " ++ id))) ∧
        Answers (start.later (readings earlier)) outcome action
          (added? (exchanges start earlier)) := by
  intro start engine outcome
  have empty : start.store = .initial := rfl
  have began : Stands start start none := rfl
  have stands := behind_stands earlier empty began
  rw [Option.none_or] at stands
  have stillEmpty : (start.later (readings earlier)).store = .initial := rfl
  refine ⟨stands.not_loading stillEmpty, shownState?_ne_loading stillEmpty stands request, ?_⟩
  intro action asked
  have same : outcome = (perform engine action).1 := congrArg Prod.fst (handle_asked engine asked)
  rw [same]
  constructor
  · rintro id rfl unknown
    rw [perform, unknown]
    rfl
  · exact perform_answers stillEmpty stands action

/-- A query that comes too early, a text that breaks off and a file that cannot be read change
nothing; once the file is there, its one fact is counted from then on. -/
theorem waits_then_serves_retried :
    let record := fun name text => some (Data.record [(name, .text text)])
    let file : DataFile := fun time => if time = 0 then .error "no such file" else .ok "<s> <p> 2 ."
    let start := Engine.onFile (some file) none
    let earlier : List Request := [
      ⟨"POST", "/sparql", none, record "query" "SELECT"⟩,
      ⟨"POST", "/load", none, record "data" "<s> <p> 1 . <s> <p>"⟩,
      ⟨"POST", "/load", none, none⟩,
      ⟨"POST", "/load", none, none⟩]
    (exchanges start earlier).map (fun exchange => exchange.outcome.toOption.map Response.status) =
        [some 503, some 400, some 400, some 200] ∧
      added? (exchanges start earlier) = some (.integer 1) ∧
      (handle (behind start earlier) ⟨"GET", "/health", none, none⟩).1 =
        .ok (healthAnswer .ready (.integer 1)) := by
  intro record file start earlier
  have answered : (exchanges start earlier).map
      (fun exchange => exchange.outcome.toOption.map Response.status) =
        [some 503, some 400, some 400, some 200] := by decide +kernel
  have loaded : (added? (exchanges start earlier)).isSome = true := by decide +kernel
  have one : (behind start earlier).store.contents.length = 1 := by decide +kernel
  obtain ⟨count, first⟩ := Option.isSome_iff_exists.1 loaded
  have empty : start.store = .initial := rfl
  have began : Stands start start none := rfl
  have stands := behind_stands earlier empty began
  rw [Option.none_or, first] at stands
  obtain ⟨_, counted⟩ := stands
  rw [one] at counted
  subst counted
  have asked : asked? ⟨"GET", "/health", none, none⟩ = some .health := by decide +kernel
  obtain ⟨_, _, answers⟩ :=
    waits_then_serves (some file) none earlier ⟨"GET", "/health", none, none⟩
  rw [first] at answers
  have serves := (answers .health asked).2
  exact ⟨answered, first, serves⟩

end FactQuery.Service
