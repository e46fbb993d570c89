import FactQuery.Store

/-!
# The life of a fact store

A run of a store is a list of operations, each of which may load a stream that fails or that tries
to load into the store itself.  Between operations the store is empty of any running load; once it
is ready it stays as it is.  A load either takes the whole stream or leaves nothing, and which of
the two happens can be read off the stream: its first step that fails, or that does not catch the
refusal of a load of its own, is what ends it.
-/

set_option autoImplicit false

namespace FactQuery.Store

/-! ## Runs -/

inductive Operation where
  | add (fact : Fact)
  | load (stream : Stream)
  | look (lookup : Lookup)
  deriving Repr

/-- The store after an operation.  A fact that is not taken leaves it as it was. -/
def after (store : Store) : Operation → Store
  | .add fact => (store.addFact? fact).getD store
  | .load stream => (store.load stream).store
  | .look lookup => (store.look lookup).2

def afterAll (store : Store) (run : List Operation) : Store :=
  run.foldl after store

/-! ## What a stream does to a load that is running -/

/-- The facts that a stream gives, if nothing ends it before. -/
def factsOf (stream : Stream) : List Fact :=
  stream.filterMap fun
    | .yield fact => some fact
    | _ => none

def StreamStep.failure? : StreamStep → Option LoadError
  | .fail error => some error
  | .load _ false => some .inProgress
  | _ => none

def failure? (stream : Stream) : Option LoadError :=
  stream.findSome? StreamStep.failure?

theorem factsOf_cons (step : StreamStep) (stream : Stream) :
    factsOf (step :: stream) = factsOf [step] ++ factsOf stream := by
  cases step <;> rfl

theorem failure?_cons (step : StreamStep) (stream : Stream) :
    failure? (step :: stream) = step.failure?.or (failure? stream) := by
  rw [failure?, List.findSome?_cons]
  cases step.failure? <;> rfl

structure Running.HasTaken (running : Running) (facts : List Fact) (count : Nat) : Prop where
  loading : running.store.state = .loading
  contents : running.store.contents = facts
  count : running.count = count

theorem look_store (store : Store) (lookup : Lookup) :
    (store.look lookup).2.state = store.state ∧
      (store.look lookup).2.contents = store.contents := by
  cases lookup <;> exact ⟨rfl, by simp [look, contents_flush]⟩

theorem look_table (store : Store) :
    store.look .table = (.facts store.contents, store.flush) := rfl

def Running.gives (running : Running) (fact : Fact) : Running :=
  { running with
    store := { running.store with pending := running.store.pending ++ [fact] }
    count := running.count + 1 }

theorem advance_yield {running : Running} (loading : running.store.state = .loading)
    (fact : Fact) : advance running (.yield fact) = .running (running.gives fact) := by
  simp [advance, addFact?, isReady, loading, Running.gives]

def Running.looks (running : Running) (lookup : Lookup) : Running :=
  Running.sees { running with store := (running.store.look lookup).2 }
    (.answer (running.store.look lookup).1)

theorem load_of_loading {store : Store} (loading : store.state = .loading) (stream : Stream) :
    store.load stream = ⟨store, .error .inProgress, []⟩ := by
  simp [load, begin, loading]

/-- A load inside a running load is refused, whatever it would load. -/
theorem advance_load {running : Running} (loading : running.store.state = .loading)
    (stream : Stream) (caught : Bool) :
    advance running (.load stream caught) =
      if caught then .running (running.sees (.load (.error .inProgress)))
      else .failed .inProgress running.seen := by
  simp [advance, begin, loading, Running.learns]

theorem advance_of_failure {running : Running} (loading : running.store.state = .loading)
    {step : StreamStep} {error : LoadError} (failure : step.failure? = some error) :
    advance running step = .failed error running.seen := by
  cases step with
  | yield fact => cases failure
  | look lookup => cases failure
  | load stream caught =>
      rw [advance_load loading]
      cases caught with
      | true => cases failure
      | false =>
          cases failure
          rfl
  | fail cause =>
      cases failure
      simp [advance]

theorem advance_of_no_failure {running : Running} {facts : List Fact} {count : Nat}
    (taken : running.HasTaken facts count) {step : StreamStep} (fine : step.failure? = none) :
    ∃ next, advance running step = .running next ∧
      next.HasTaken (facts ++ factsOf [step]) (count + (factsOf [step]).length) := by
  cases step with
  | yield fact =>
      refine ⟨running.gives fact, advance_yield taken.loading fact, taken.loading, ?_, ?_⟩
      · simp [contents, factsOf, Running.gives, ← taken.contents]
      · simp [factsOf, Running.gives, taken.count]
  | look lookup =>
      obtain ⟨sameState, sameContents⟩ := running.store.look_store lookup
      refine ⟨running.looks lookup, by rw [advance]; rfl, sameState.trans taken.loading, ?_, ?_⟩
      · simpa [factsOf, Running.looks, Running.sees] using sameContents.trans taken.contents
      · simpa [factsOf, Running.looks, Running.sees] using taken.count
  | load stream caught =>
      cases caught with
      | false => cases fine
      | true =>
          refine ⟨running.sees (.load (.error .inProgress)), ?_, taken.loading, ?_, ?_⟩
          · rw [advance_load taken.loading, if_pos rfl]
          · simpa [factsOf, Running.sees] using taken.contents
          · simpa [factsOf, Running.sees] using taken.count
  | fail cause => cases fine

def advanceAll (running : Running) : List StreamStep → Progress
  | [] => .running running
  | step :: others =>
    match advance running step with
    | .running next => advanceAll next others
    | .failed error seen => .failed error seen

theorem consume_append (running : Running) (before behind : Stream) :
    consume running (before ++ behind) =
      match advanceAll running before with
      | .running next => consume next behind
      | .failed error seen => abandon error seen := by
  induction before generalizing running with
  | nil => rfl
  | cons step others inductionHypothesis =>
      rw [List.cons_append, consume, advanceAll]
      cases advance running step with
      | running next => exact inductionHypothesis next
      | failed error seen => rfl

/-- As long as nothing fails, the load runs on and has taken every fact so far. -/
theorem advanceAll_of_no_failure {running : Running} {facts : List Fact} {count : Nat}
    (taken : running.HasTaken facts count) {stream : Stream} (fine : failure? stream = none) :
    ∃ next, advanceAll running stream = .running next ∧
      next.HasTaken (facts ++ factsOf stream) (count + (factsOf stream).length) := by
  induction stream generalizing running facts count with
  | nil => exact ⟨running, rfl, by simpa [factsOf] using taken⟩
  | cons step others inductionHypothesis =>
      rw [failure?_cons, Option.or_eq_none_iff] at fine
      obtain ⟨middle, first, middleTaken⟩ := advance_of_no_failure taken fine.1
      obtain ⟨next, rest, nextTaken⟩ := inductionHypothesis middleTaken fine.2
      refine ⟨next, by rw [advanceAll, first]; exact rest, ?_⟩
      rw [factsOf_cons, List.length_append, ← List.append_assoc, ← Nat.add_assoc]
      exact nextTaken

theorem consume_of_failure {running : Running} {facts : List Fact} {count : Nat}
    (taken : running.HasTaken facts count) {stream : Stream} {error : LoadError}
    (failure : failure? stream = some error) :
    ∃ seen, consume running stream = abandon error seen := by
  induction stream generalizing running facts count with
  | nil => cases failure
  | cons step others inductionHypothesis =>
      rw [failure?_cons] at failure
      rw [consume]
      cases here : step.failure? with
      | some cause =>
          rw [here] at failure
          cases failure
          exact ⟨running.seen, by rw [advance_of_failure taken.loading here]⟩
      | none =>
          rw [here, Option.none_or] at failure
          obtain ⟨middle, first, middleTaken⟩ := advance_of_no_failure taken here
          rw [first]
          exact inductionHypothesis middleTaken failure

/-! ## Loads -/

def occupied (store : Store) : Store :=
  { store with state := .loading }

theorem occupied_hasTaken (store : Store) :
    (Running.start store.occupied).HasTaken store.contents 0 :=
  ⟨rfl, rfl, rfl⟩

theorem load_of_ready {store : Store} (ready : store.state = .ready) (stream : Stream) :
    store.load stream = ⟨store, .ok 0, []⟩ := by
  simp [load, begin, ready]

theorem load_of_uninitialized {store : Store} (free : store.state = .uninitialized)
    (stream : Stream) : store.load stream = consume (.start store.occupied) stream := by
  simp [load, begin, free, occupied]

/-- A load whose stream does not fail takes it all. -/
theorem load_completes {store : Store} (free : store.state = .uninitialized) {stream : Stream}
    (fine : failure? stream = none) :
    (store.load stream).store = ⟨store.contents ++ factsOf stream, [], .ready⟩ ∧
      (store.load stream).outcome = .ok (factsOf stream).length := by
  obtain ⟨last, run, taken⟩ := advanceAll_of_no_failure store.occupied_hasTaken fine
  have ended : store.load stream = finish last.store last.count last.seen := by
    rw [load_of_uninitialized free, ← List.append_nil stream, consume_append, run]
    rfl
  rw [ended, ← taken.contents]
  refine ⟨rfl, ?_⟩
  simp [finish, taken.count]

/-- A load whose stream fails leaves nothing. -/
theorem load_fails {store : Store} (free : store.state = .uninitialized) {stream : Stream}
    {error : LoadError} (failure : failure? stream = some error) :
    (store.load stream).store = .initial ∧ (store.load stream).outcome = .error error := by
  obtain ⟨seen, ended⟩ := consume_of_failure store.occupied_hasTaken failure
  rw [load_of_uninitialized free, ended]
  exact ⟨rfl, rfl⟩

/-- The end of a load hangs on the failure and on the facts of its stream alone. -/
theorem load_congr {store : Store} (free : store.state = .uninitialized) {first second : Stream}
    (sameFailure : failure? first = failure? second) (sameFacts : factsOf first = factsOf second) :
    (store.load first).store = (store.load second).store ∧
      (store.load first).outcome = (store.load second).outcome := by
  cases failure : failure? second with
  | none =>
      obtain ⟨firstStore, firstOutcome⟩ := load_completes free (sameFailure.trans failure)
      obtain ⟨secondStore, secondOutcome⟩ := load_completes free failure
      rw [firstStore, firstOutcome, secondStore, secondOutcome, sameFacts]
      exact ⟨rfl, rfl⟩
  | some error =>
      obtain ⟨firstStore, firstOutcome⟩ := load_fails free (sameFailure.trans failure)
      obtain ⟨secondStore, secondOutcome⟩ := load_fails free failure
      rw [firstStore, firstOutcome, secondStore, secondOutcome]
      exact ⟨rfl, rfl⟩

/-! ## What holds along every run -/

theorem after_rests {store : Store} (resting : store.state ≠ .loading) (operation : Operation) :
    (store.after operation).state ≠ .loading := by
  cases operation with
  | add fact =>
      cases ready : store.isReady with
      | true => simpa [after, addFact?, ready] using resting
      | false => simpa [after, addFact?, ready] using resting
  | load stream =>
      rw [after]
      cases state : store.state with
      | loading => exact absurd state resting
      | ready => simp [load_of_ready state, state]
      | uninitialized =>
          cases failure : failure? stream with
          | none => simp [(load_completes state failure).1]
          | some error => simp [(load_fails state failure).1, initial]
  | look lookup =>
      rw [after, (store.look_store lookup).1]
      exact resting

theorem after_of_ready {store : Store} (ready : store.state = .ready) (operation : Operation) :
    (store.after operation).state = .ready ∧
      (store.after operation).contents = store.contents := by
  cases operation with
  | add fact => simp [after, addFact?, isReady, ready]
  | load stream => simp [after, load_of_ready ready, ready]
  | look lookup =>
      obtain ⟨sameState, sameContents⟩ := store.look_store lookup
      exact ⟨sameState.trans ready, sameContents⟩

theorem afterAll_rests {store : Store} (resting : store.state ≠ .loading)
    (run : List Operation) : (store.afterAll run).state ≠ .loading := by
  induction run generalizing store with
  | nil => exact resting
  | cons operation others inductionHypothesis =>
      exact inductionHypothesis (after_rests resting operation)

theorem afterAll_of_ready {store : Store} (ready : store.state = .ready)
    (run : List Operation) :
    (store.afterAll run).state = .ready ∧ (store.afterAll run).contents = store.contents := by
  induction run generalizing store with
  | nil => exact ⟨ready, rfl⟩
  | cons operation others inductionHypothesis =>
      obtain ⟨stillReady, sameContents⟩ := after_of_ready ready operation
      obtain ⟨lastReady, lastContents⟩ := inductionHypothesis stillReady
      exact ⟨lastReady, lastContents.trans sameContents⟩

/-- What can be relied on wherever a run may have led. -/
structure Lifecycle (store : Store) : Prop where
  /-- No load is running between operations. -/
  rests : store.state ≠ .loading
  /-- The contents are what a look at the table answers, and it leaves them and the state alone. -/
  showsContents : (store.look .table).1 = .facts store.contents ∧
    (store.look .table).2.contents = store.contents ∧ (store.look .table).2.state = store.state
  /-- A store that is ready stays so and keeps what it holds. -/
  staysReady : store.state = .ready → ∀ later : List Operation,
    (store.afterAll later).state = .ready ∧ (store.afterAll later).contents = store.contents
  refusesFacts : store.state = .ready → ∀ fact, store.addFact? fact = none
  /-- Loading into a store that is ready does not look at the stream. -/
  ignoresStreams : store.state = .ready → ∀ stream, store.load stream = ⟨store, .ok 0, []⟩
  /-- Otherwise a load takes the whole stream, behind what the store holds, -/
  loadsAll : store.state ≠ .ready → ∀ stream, failure? stream = none →
    (store.load stream).store.state = .ready ∧
      (store.load stream).store.contents = store.contents ++ factsOf stream ∧
        (store.load stream).outcome = .ok (factsOf stream).length
  /-- or fails as the stream does and leaves an empty store, -/
  loadsNothing : store.state ≠ .ready → ∀ stream error, failure? stream = some error →
    (store.load stream).store.state = .uninitialized ∧
      (store.load stream).store.contents = [] ∧ (store.load stream).outcome = .error error
  /-- into which a later load can still succeed. -/
  retries : store.state ≠ .ready → ∀ stream error, failure? stream = some error →
    ∀ again, failure? again = none →
      ((store.load stream).store.load again).store.state = .ready ∧
        ((store.load stream).store.load again).store.contents = factsOf again ∧
          ((store.load stream).store.load again).outcome = .ok (factsOf again).length
  /-- While a stream runs, the store shows that it is loading and answers the facts given so far.  A
  load that the stream tries is refused with the store unchanged. -/
  refusesLoads : store.state ≠ .ready → ∀ before, failure? before = none →
    ∃ running, advanceAll (.start store.occupied) before = .running running ∧
      running.store.state = .loading ∧
        running.store.contents = store.contents ++ factsOf before ∧
        (running.store.look .table).1 = .facts (store.contents ++ factsOf before) ∧
          ∀ stream, running.store.load stream = ⟨running.store, .error .inProgress, []⟩ ∧
            ∀ caught, advance running (.load stream caught) =
              if caught then .running (running.sees (.load (.error .inProgress)))
              else .failed .inProgress running.seen
  /-- A stream that catches the refusal ends as if it had not tried. -/
  forgetsRefusals : store.state ≠ .ready → ∀ before stream behind,
    (store.load (before ++ .load stream true :: behind)).store =
        (store.load (before ++ behind)).store ∧
      (store.load (before ++ .load stream true :: behind)).outcome =
        (store.load (before ++ behind)).outcome

/-- Every store that a run leads to can be relied on in all of these ways. -/
theorem lifecycle_afterAll (run : List Operation) : Lifecycle (initial.afterAll run) := by
  have resting : (initial.afterAll run).state ≠ .loading :=
    afterAll_rests (by simp [initial]) run
  generalize initial.afterAll run = store at resting
  have free : store.state ≠ .ready → store.state = .uninitialized := by
    intro notReady
    cases state : store.state with
    | uninitialized => rfl
    | loading => exact absurd state resting
    | ready => exact absurd state notReady
  have failed : store.state ≠ .ready → ∀ {stream error}, failure? stream = some error →
      (store.load stream).store = .initial ∧ (store.load stream).outcome = .error error :=
    fun notReady _ _ failure => load_fails (free notReady) failure
  constructor
  case rests => exact resting
  case showsContents =>
    rw [look_table]
    exact ⟨rfl, store.contents_flush, store.state_flush⟩
  case staysReady => exact fun ready later => afterAll_of_ready ready later
  case refusesFacts =>
    intro ready fact
    simp [addFact?, isReady, ready]
  case ignoresStreams => exact fun ready stream => load_of_ready ready stream
  case loadsAll =>
    intro notReady stream fine
    obtain ⟨ended, outcome⟩ := load_completes (free notReady) fine
    exact ⟨by rw [ended], by simp [ended, contents], outcome⟩
  case loadsNothing =>
    intro notReady stream error failure
    obtain ⟨ended, outcome⟩ := failed notReady failure
    exact ⟨by rw [ended]; rfl, by rw [ended]; rfl, outcome⟩
  case retries =>
    intro notReady stream error failure again fine
    rw [(failed notReady failure).1]
    have free : initial.state = .uninitialized := rfl
    obtain ⟨ended, outcome⟩ := load_completes free fine
    exact ⟨by rw [ended], by rw [ended]; simp [contents, initial], outcome⟩
  case refusesLoads =>
    intro notReady before fine
    obtain ⟨running, reached, taken⟩ := advanceAll_of_no_failure store.occupied_hasTaken fine
    have shown : (running.store.look .table).1 = .facts (store.contents ++ factsOf before) := by
      rw [look_table, taken.contents]
    refine ⟨running, reached, taken.loading, taken.contents, shown, fun stream => ⟨?_, ?_⟩⟩
    · exact load_of_loading taken.loading stream
    · exact advance_load taken.loading stream
  case forgetsRefusals =>
    intro notReady before stream behind
    apply load_congr (free notReady)
    · simp [failure?, List.findSome?_append, List.findSome?_cons, StreamStep.failure?]
    · simp [factsOf]

end FactQuery.Store
