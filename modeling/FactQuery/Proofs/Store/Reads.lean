import FactQuery.Proofs.Store.Lifecycle

/-!
# Reads are invisible

Looking something up settles the buffer, so what a store is made of tells when it was looked at.
No answer does: an operation answers by the state and by the contents of the store, and these a
lookup leaves as they are.  A script is a run with some of its lookups marked as extra, between the
operations and inside the streams that they load.  Run with its extra lookups or without them, a
script gives the same answers to everything else and leads to the same contents.
-/

set_option autoImplicit false

namespace FactQuery.Store

/-! ## What operations answer -/

inductive Reply where
  | added (accepted : Bool)
  | loaded (outcome : Except LoadError Nat) (seen : List Sight)
  | looked (answer : Answer)

def reply (store : Store) : Operation → Reply
  | .add fact => .added (store.addFact? fact).isSome
  | .load stream => .loaded (store.load stream).outcome (store.load stream).seen
  | .look lookup => .looked (store.look lookup).1

def replies (store : Store) : List Operation → List Reply
  | [] => []
  | operation :: others => store.reply operation :: (store.after operation).replies others

/-! ## Scripts -/

/-- A step of a stream.  A lookup is extra or not. -/
inductive ScriptStep where
  | yield (fact : Fact)
  | look (lookup : Lookup) (extra : Bool)
  | load (stream : List ScriptStep) (caught : Bool)
  | fail (error : LoadError)

inductive ScriptOperation where
  | add (fact : Fact)
  | load (stream : List ScriptStep)
  | look (lookup : Lookup) (extra : Bool)

mutual

def ScriptStep.steps (whole : Bool) : ScriptStep → Stream
  | .yield fact => [.yield fact]
  | .look lookup false => [.look lookup]
  | .look lookup true => if whole then [.look lookup] else []
  | .load stream caught => [.load (scriptStream whole stream) caught]
  | .fail error => [.fail error]

def scriptStream (whole : Bool) : List ScriptStep → Stream
  | [] => []
  | step :: others => step.steps whole ++ scriptStream whole others

end

def ScriptOperation.operations (whole : Bool) : ScriptOperation → List Operation
  | .add fact => [.add fact]
  | .load stream => [.load (scriptStream whole stream)]
  | .look lookup false => [.look lookup]
  | .look lookup true => if whole then [.look lookup] else []

def scriptRun (whole : Bool) (script : List ScriptOperation) : List Operation :=
  script.flatMap (·.operations whole)

/-- What a stream with its extra lookups has seen, with the answers to these left out. -/
def keptSights : List ScriptStep → List Sight → List Sight
  | [], _ => []
  | .yield _ :: others, seen => keptSights others seen
  | .look _ true :: others, seen => keptSights others seen.tail
  | .look _ false :: others, seen => seen.take 1 ++ keptSights others seen.tail
  | .load _ _ :: others, seen => seen.take 1 ++ keptSights others seen.tail
  | .fail _ :: _, _ => []

def Reply.keptOf (stream : List ScriptStep) : Reply → Reply
  | .loaded outcome seen => .loaded outcome (keptSights stream seen)
  | other => other

/-- The replies to a script with its extra lookups, with the replies to these left out. -/
def keptReplies : List ScriptOperation → List Reply → List Reply
  | [], _ => []
  | .add _ :: others, given => given.take 1 ++ keptReplies others given.tail
  | .load stream :: others, given =>
    (given.take 1).map (Reply.keptOf stream) ++ keptReplies others given.tail
  | .look _ true :: others, given => keptReplies others given.tail
  | .look _ false :: others, given => given.take 1 ++ keptReplies others given.tail

theorem keptSights_nil (script : List ScriptStep) : keptSights script [] = [] := by
  induction script with
  | nil => rfl
  | cons step others inductionHypothesis =>
      cases step with
      | yield fact => exact inductionHypothesis
      | look lookup extra => cases extra <;> exact inductionHypothesis
      | load stream caught => exact inductionHypothesis
      | fail error => rfl

/-! ## Stores that look alike -/

/-- Two stores in one state with the same contents, however much of these has settled. -/
structure Alike (first second : Store) : Prop where
  state : first.state = second.state
  contents : first.contents = second.contents

def answerOf (state : LoadState) (facts : List Fact) : Lookup → Answer
  | .state => .state state
  | .table => .facts facts
  | .facts subject predicate object => .facts (matchFacts facts subject predicate object)
  | .valuesOf predicate => .values (valuesIn facts predicate)
  | .summary => .summary (summaryOf state facts)
  | .size => .size facts.length
  | .description => .description (descriptionOf state facts)

theorem look_answer (store : Store) (lookup : Lookup) :
    (store.look lookup).1 = answerOf store.state store.contents lookup := by
  cases lookup <;> rfl

namespace Alike

variable {first second : Store}

theorem refl (store : Store) : store.Alike store :=
  ⟨rfl, rfl⟩

theorem answer (alike : first.Alike second) (lookup : Lookup) :
    (first.look lookup).1 = (second.look lookup).1 := by
  rw [look_answer, look_answer, alike.state, alike.contents]

theorem look_left (alike : first.Alike second) (lookup : Lookup) :
    (first.look lookup).2.Alike second := by
  obtain ⟨sameState, sameContents⟩ := first.look_store lookup
  exact ⟨sameState.trans alike.state, sameContents.trans alike.contents⟩

theorem look_both (alike : first.Alike second) (lookup : Lookup) :
    (first.look lookup).2.Alike (second.look lookup).2 := by
  obtain ⟨sameState, sameContents⟩ := second.look_store lookup
  have left := alike.look_left lookup
  exact ⟨left.state.trans sameState.symm, left.contents.trans sameContents.symm⟩

theorem addFact?_isSome (alike : first.Alike second) (fact : Fact) :
    (first.addFact? fact).isSome = (second.addFact? fact).isSome := by
  have same : first.isReady = second.isReady := by rw [isReady, isReady, alike.state]
  rw [addFact?, addFact?, same]
  split <;> rfl

theorem pend (alike : first.Alike second) (fact : Fact) :
    Alike { first with pending := first.pending ++ [fact] }
      { second with pending := second.pending ++ [fact] } := by
  refine ⟨alike.state, ?_⟩
  simp only [Store.contents, ← List.append_assoc]
  exact congrArg (· ++ [fact]) alike.contents

theorem after_add (alike : first.Alike second) (fact : Fact) :
    (first.after (.add fact)).Alike (second.after (.add fact)) := by
  have same : first.isReady = second.isReady := by rw [isReady, isReady, alike.state]
  rw [after, after, addFact?, addFact?, same]
  split
  · exact alike
  · exact alike.pend fact

end Alike

/-! ## Loads of a script -/

structure Running.Alike (whole short : Running) : Prop where
  loading : whole.store.state = .loading
  store : whole.store.Alike short.store
  count : whole.count = short.count

/-- Two loads of one script end alike: the second has seen what the first has, less the answers to
extra lookups. -/
structure Loaded.Alike (script : List ScriptStep) (wholeSeen shortSeen : List Sight)
    (whole short : Loaded) : Prop where
  store : whole.store.Alike short.store
  outcome : whole.outcome = short.outcome
  seen : ∃ seen, whole.seen = wholeSeen ++ seen ∧ short.seen = shortSeen ++ keptSights script seen

namespace Loaded.Alike

variable {script : List ScriptStep} {wholeSeen shortSeen : List Sight} {whole short : Loaded}

theorem behind {step : ScriptStep} {sight : Sight}
    (alike : Loaded.Alike script (wholeSeen ++ [sight]) (shortSeen ++ [sight]) whole short)
    (keeps : ∀ seen, keptSights (step :: script) (sight :: seen) = sight :: keptSights script seen) :
    Loaded.Alike (step :: script) wholeSeen shortSeen whole short := by
  obtain ⟨store, outcome, seen, wholeEnd, shortEnd⟩ := alike
  refine ⟨store, outcome, sight :: seen, ?_, ?_⟩
  · rw [wholeEnd, List.append_assoc, List.singleton_append]
  · rw [shortEnd, keeps, List.append_assoc, List.singleton_append]

theorem behindExtra {lookup : Lookup} {sight : Sight}
    (alike : Loaded.Alike script (wholeSeen ++ [sight]) shortSeen whole short) :
    Loaded.Alike (.look lookup true :: script) wholeSeen shortSeen whole short := by
  obtain ⟨store, outcome, seen, wholeEnd, shortEnd⟩ := alike
  refine ⟨store, outcome, sight :: seen, ?_, shortEnd⟩
  rw [wholeEnd, List.append_assoc, List.singleton_append]

end Loaded.Alike

theorem abandon_alike (script : List ScriptStep) (error : LoadError)
    (wholeSeen shortSeen : List Sight) :
    Loaded.Alike script wholeSeen shortSeen (abandon error wholeSeen) (abandon error shortSeen) := by
  refine ⟨.refl _, rfl, [], ?_, ?_⟩
  · rw [abandon, List.append_nil]
  · rw [abandon, keptSights_nil, List.append_nil]

theorem finish_alike {whole short : Running} (alike : whole.Alike short) :
    Loaded.Alike [] whole.seen short.seen (finish whole.store whole.count whole.seen)
      (finish short.store short.count short.seen) := by
  refine ⟨⟨rfl, ?_⟩, congrArg Except.ok alike.count, [], ?_, ?_⟩
  · exact ((contents_flush _).trans alike.store.contents).trans (contents_flush _).symm
  · exact (List.append_nil _).symm
  · exact (List.append_nil _).symm

/-- The induction is on the script.  A step that both loads take leads from loads that are alike to
loads that are alike, or ends both. -/
theorem consume_alike (script : List ScriptStep) : ∀ {whole short : Running}, whole.Alike short →
    Loaded.Alike script whole.seen short.seen (consume whole (scriptStream true script))
      (consume short (scriptStream false script)) := by
  induction script with
  | nil => exact fun alike => finish_alike alike
  | cons step others inductionHypothesis =>
      intro whole short alike
      have shortLoading : short.store.state = .loading :=
        alike.store.state.symm.trans alike.loading
      cases step with
      | yield fact =>
          have given : (whole.gives fact).Alike (short.gives fact) :=
            ⟨alike.loading, alike.store.pend fact, congrArg (· + 1) alike.count⟩
          simp only [scriptStream, ScriptStep.steps, List.singleton_append, consume,
            advance_yield alike.loading, advance_yield shortLoading]
          obtain ⟨store, outcome, seen⟩ := inductionHypothesis given
          exact ⟨store, outcome, seen⟩
      | look lookup extra =>
          have looking : (whole.store.look lookup).2.state = .loading :=
            (whole.store.look_store lookup).1.trans alike.loading
          cases extra with
          | true =>
              have looked : (whole.looks lookup).Alike short :=
                ⟨looking, alike.store.look_left lookup, alike.count⟩
              exact (inductionHypothesis looked).behindExtra
          | false =>
              have looked : (whole.looks lookup).Alike (short.looks lookup) :=
                ⟨looking, alike.store.look_both lookup, alike.count⟩
              have ended := inductionHypothesis looked
              have sameSight : (short.looks lookup).seen =
                  short.seen ++ [.answer (whole.store.look lookup).1] := by
                rw [alike.store.answer lookup]
                rfl
              rw [sameSight] at ended
              exact ended.behind fun seen => rfl
      | load stream caught =>
          simp only [scriptStream, ScriptStep.steps, List.singleton_append, consume,
            advance_load alike.loading, advance_load shortLoading]
          cases caught with
          | true =>
              have refused : (whole.sees (.load (.error .inProgress))).Alike
                  (short.sees (.load (.error .inProgress))) :=
                ⟨alike.loading, alike.store, alike.count⟩
              exact (inductionHypothesis refused).behind fun seen => rfl
          | false => exact abandon_alike _ _ _ _
      | fail error => exact abandon_alike _ error _ _

theorem load_alike {first second : Store} (alike : first.Alike second)
    (script : List ScriptStep) :
    Loaded.Alike script [] [] (first.load (scriptStream true script))
      (second.load (scriptStream false script)) := by
  have settled : ∀ outcome, Loaded.Alike script [] [] ⟨first, outcome, []⟩ ⟨second, outcome, []⟩ :=
    fun outcome => ⟨alike, rfl, [], rfl, by rw [keptSights_nil]; rfl⟩
  cases state : first.state with
  | ready =>
      rw [load_of_ready state, load_of_ready (alike.state.symm.trans state)]
      exact settled (.ok 0)
  | loading =>
      rw [load_of_loading state, load_of_loading (alike.state.symm.trans state)]
      exact settled (.error .inProgress)
  | uninitialized =>
      rw [load_of_uninitialized state, load_of_uninitialized (alike.state.symm.trans state)]
      have begun : (Running.start first.occupied).Alike (Running.start second.occupied) :=
        ⟨rfl, ⟨rfl, alike.contents⟩, rfl⟩
      exact consume_alike script begun

/-! ## Runs of a script -/

/-- The run lemma: each operation of the script is answered alike and leads to stores that look
alike. -/
theorem replies_alike (script : List ScriptOperation) : ∀ {first second : Store},
    first.Alike second →
      second.replies (scriptRun false script) =
          keptReplies script (first.replies (scriptRun true script)) ∧
        (first.afterAll (scriptRun true script)).Alike
          (second.afterAll (scriptRun false script)) := by
  induction script with
  | nil => exact fun alike => ⟨rfl, alike⟩
  | cons operation others inductionHypothesis =>
      intro first second alike
      cases operation with
      | add fact =>
          obtain ⟨later, ends⟩ := inductionHypothesis (alike.after_add fact)
          refine ⟨?_, ends⟩
          have here : second.reply (.add fact) = first.reply (.add fact) := by
            rw [reply, reply, alike.addFact?_isSome]
          exact List.cons_eq_cons.2 ⟨here, later⟩
      | load stream =>
          obtain ⟨store, outcome, seen, wholeSeen, shortSeen⟩ := load_alike alike stream
          obtain ⟨later, ends⟩ := inductionHypothesis store
          refine ⟨?_, ends⟩
          have here : second.reply (.load (scriptStream false stream)) =
              (first.reply (.load (scriptStream true stream))).keptOf stream := by
            rw [reply, reply, Reply.keptOf, ← outcome, shortSeen, wholeSeen]
            rfl
          exact List.cons_eq_cons.2 ⟨here, later⟩
      | look lookup extra =>
          cases extra with
          | true => exact inductionHypothesis (alike.look_left lookup)
          | false =>
              obtain ⟨later, ends⟩ := inductionHypothesis (alike.look_both lookup)
              refine ⟨?_, ends⟩
              have here : second.reply (.look lookup) = first.reply (.look lookup) := by
                rw [reply, reply, alike.answer]
              exact List.cons_eq_cons.2 ⟨here, later⟩

/-! ## Runs without marks -/

mutual

def StreamStep.plain : StreamStep → ScriptStep
  | .yield fact => .yield fact
  | .look lookup => .look lookup false
  | .load stream caught => .load (plainStream stream) caught
  | .fail error => .fail error

def plainStream : Stream → List ScriptStep
  | [] => []
  | step :: others => step.plain :: plainStream others

end

def Operation.plain : Operation → ScriptOperation
  | .add fact => .add fact
  | .load stream => .load (plainStream stream)
  | .look lookup => .look lookup false

mutual

theorem StreamStep.steps_plain (whole : Bool) : ∀ step : StreamStep, step.plain.steps whole = [step]
  | .yield _ => rfl
  | .look _ => rfl
  | .load stream caught => by
      rw [StreamStep.plain, ScriptStep.steps, scriptStream_plainStream]
  | .fail _ => rfl

theorem scriptStream_plainStream (whole : Bool) :
    ∀ stream : Stream, scriptStream whole (plainStream stream) = stream
  | [] => rfl
  | step :: others => by
      rw [plainStream, scriptStream, step.steps_plain, scriptStream_plainStream,
        List.singleton_append]

end

theorem scriptRun_plain (whole : Bool) (run : List Operation) :
    scriptRun whole (run.map Operation.plain) = run := by
  induction run with
  | nil => rfl
  | cons operation others inductionHypothesis =>
      have here : operation.plain.operations whole = [operation] := by
        cases operation with
        | add fact => rfl
        | load stream =>
            rw [Operation.plain, ScriptOperation.operations, scriptStream_plainStream]
        | look lookup => rfl
      rw [scriptRun, List.map_cons, List.flatMap_cons, here, List.singleton_append]
      exact congrArg (operation :: ·) inductionHypothesis

/-- Stores that look alike reply alike: both replies are those of the run without marks. -/
theorem replies_congr {first second : Store} (alike : first.Alike second) (run : List Operation) :
    first.replies run = second.replies run := by
  have own := (replies_alike (run.map Operation.plain) (.refl first)).1
  have other := (replies_alike (run.map Operation.plain) alike).1
  rw [scriptRun_plain, scriptRun_plain] at own other
  exact own.trans other.symm

/-- The extra lookups of a script, between its operations and inside the streams that it loads, can
be made or left out: every other reply stays as it is, what the streams see included, and the same
contents are reached in the same state.  This holds from any two stores with the same state and the
same contents, and nothing else of a store has a part in any reply. -/
theorem reads_invisible {first second : Store} (alike : first.Alike second) :
    (∀ script : List ScriptOperation,
      second.replies (scriptRun false script) =
          keptReplies script (first.replies (scriptRun true script)) ∧
        (first.afterAll (scriptRun true script)).Alike
          (second.afterAll (scriptRun false script))) ∧
      ∀ run : List Operation, first.replies run = second.replies run :=
  ⟨fun script => replies_alike script alike, fun run => replies_congr alike run⟩

/-- The first store has settled a fact that waits in the second.  A load looks at the table between
two facts, tries a load of its own and breaks; the one behind it succeeds. -/
theorem reads_invisible_broken :
    let fact := fun value : String => Fact.mk "s" "p" value none none
    let first : Store := ⟨[fact "1"], [], .uninitialized⟩
    let second : Store := ⟨[], [fact "1"], .uninitialized⟩
    let script : List ScriptOperation := [
      .look .size true,
      .load [.yield (fact "2"), .look .table true, .load [.look .size true] true,
        .look .size false, .fail (.stream "cause")],
      .look .table false,
      .load [.yield (fact "3"), .look .description true],
      .look .table false]
    first.Alike second ∧
      second.replies (scriptRun false script) =
        keptReplies script (first.replies (scriptRun true script)) ∧
      (first.replies (scriptRun true script)).length = 5 ∧
      second.replies (scriptRun false script) = [
        .loaded (.error (.stream "cause")) [.load (.error .inProgress), .answer (.size 2)],
        .looked (.facts []),
        .loaded (.ok 1) [],
        .looked (.facts [fact "3"])] := by
  intro fact first second script
  have alike : first.Alike second := ⟨rfl, rfl⟩
  exact ⟨alike, ((reads_invisible alike).1 script).1, rfl, rfl⟩

end FactQuery.Store
