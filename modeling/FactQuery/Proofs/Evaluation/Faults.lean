import FactQuery.Engine
import FactQuery.Proofs.Join.Solution
import FactQuery.Proofs.Evaluation.Rejection
import FactQuery.Proofs.Sparql.Writable

/-!
# How a run can fail

A run of a query that was read from a text gives a result, or the query is at fault, or a numeral
cannot be read.  That numeral is a component of a fact or a literal of a filter, and is padded with
a record separator: the class of white space that recognises numerals has it, and the reader of
their values does not.  The faults of trees that are built by hand never come up.
-/

set_option autoImplicit false

namespace FactQuery

open FactQuery.Sparql FactQuery.Number FactQuery.Text

/-! ## Numerals without a value -/

/-- A numeral with a record separator around it. -/
def Number.IsUnreadable (text : String) : Prop :=
  isNumeral text = true ∧ (paddingBy isWhite text.toList).any isSeparatorControl = true

theorem Number.coerce_eq_error_iff {text : String} {fault : UnreadableNumeral} :
    coerce text = .error fault ↔ fault = ⟨text⟩ ∧ IsUnreadable text := by
  unfold coerce IsUnreadable isNumeral
  cases Numeral.ofPadded? text with
  | none => simp
  | some numeral =>
      by_cases padded : (paddingBy isWhite text.toList).any isSeparatorControl = true
      · simp only [padded, if_true, Option.isSome_some, and_self, and_true, Except.error.injEq]
        exact eq_comm
      · simp [padded]

/-! ## Comparisons -/

def Row.HoldsOnly (known : String → Prop) (row : Row) : Prop :=
  ∀ name value, Row.value? row name = some value → known value

def Number.FailsAmong {α : Type} (known : String → Prop) (outcome : Except UnreadableNumeral α) :
    Prop :=
  ∀ fault, outcome = .error fault → known fault.text ∧ IsUnreadable fault.text

section Comparisons

variable {α β : Type} {known : String → Prop}

theorem failsAmong_ok (value : α) : FailsAmong known (.ok value) := by
  intro fault fails
  cases fails

theorem Number.FailsAmong.bind {first : Except UnreadableNumeral α}
    {next : α → Except UnreadableNumeral β} (fails : FailsAmong known first)
    (later : ∀ value, FailsAmong known (next value)) : FailsAmong known (first >>= next) := by
  cases first with
  | ok value => exact later value
  | error fault =>
      intro other same
      cases same
      exact fails fault rfl

theorem failsAmong_discard {outcome : Except UnreadableNumeral α}
    (fails : FailsAmong known outcome) : FailsAmong known (discard outcome) :=
  fails.bind fun _ => failsAmong_ok ()

theorem failsAmong_coerce {text : String} (isKnown : known text) :
    FailsAmong known (coerce text) := by
  intro fault fails
  obtain ⟨rfl, unreadable⟩ := coerce_eq_error_iff.1 fails
  exact ⟨isKnown, unreadable⟩

theorem failsAmong_coercePair {left right : String} (leftKnown : known left)
    (rightKnown : known right) : FailsAmong known (coercePair left right) := by
  refine (failsAmong_coerce leftKnown).bind fun first => ?_
  refine (failsAmong_coerce rightKnown).bind fun second => ?_
  split <;> exact failsAmong_ok _

theorem failsAmong_compareRows {conditions : List OrderCondition} {left right : Row}
    (leftKnown : left.HoldsOnly known) (rightKnown : right.HoldsOnly known) :
    FailsAmong known (Order.compareRows left right conditions) := by
  induction conditions with
  | nil => exact failsAmong_ok _
  | cons condition others inductionHypothesis =>
      have here : FailsAmong known (Order.compareOptional
          (Row.value? left condition.variableName) (Row.value? right condition.variableName)) := by
        unfold Order.compareOptional
        split
        · rename_i leftValue rightValue
          exact (failsAmong_coercePair (leftKnown _ _ leftValue) (rightKnown _ _ rightValue)).bind
            fun _ => failsAmong_ok _
        all_goals exact failsAmong_ok _
      refine FailsAmong.bind here fun order => ?_
      split
      · exact inductionHypothesis
      · exact failsAmong_ok _

end Comparisons

/-! ## What a run may end in -/

/-- The faults of a run that compares known texts. -/
inductive Fault.Arises (known : String → Prop) : Fault → Prop
  | query (error : QueryError) : Fault.Arises known (.query error)
  | numeral (text : String) (isKnown : known text) (unreadable : IsUnreadable text) :
      Fault.Arises known (.numeral ⟨text⟩)

def Evaluation.Ends {α : Type} (known : String → Prop) (good : α → Prop) : Evaluation α → Prop
  | .ok value => good value
  | .error fault => fault.Arises known

section Ends

variable {α β : Type} {known : String → Prop}

theorem Evaluation.Ends.bind {first : Evaluation α} {next : α → Evaluation β} {middle : α → Prop}
    {good : β → Prop} (ends : first.Ends known middle)
    (later : ∀ value, middle value → (next value).Ends known good) :
    Evaluation.Ends known good (first >>= next) := by
  cases first with
  | ok value => exact later value ends
  | error fault => exact ends

theorem Evaluation.ends_ofQuery {outcome : Except QueryError α} {good : α → Prop}
    (isGood : ∀ value, outcome = .ok value → good value) :
    (Evaluation.ofQuery outcome).Ends known good := by
  cases outcome with
  | ok value => exact isGood value rfl
  | error error => exact .query error

theorem Evaluation.ends_ofNumeral {outcome : Except UnreadableNumeral α}
    (fails : FailsAmong known outcome) :
    (Evaluation.ofNumeral outcome).Ends known fun _ => True := by
  cases outcome with
  | ok value => trivial
  | error fault =>
      obtain ⟨isKnown, unreadable⟩ := fails fault rfl
      exact .numeral fault.text isKnown unreadable

end Ends

/-! ## The join -/

section Join

variable {known : String → Prop}

def Fact.HoldsOnly (known : String → Prop) (fact : Fact) : Prop :=
  known fact.subject ∧ known fact.predicate ∧ known fact.object

theorem holdsOnly_empty : Row.HoldsOnly known .empty := by
  intro name value found
  rw [Row.value?_empty] at found
  cases found

theorem holdsOnly_write {row : Row} {value : String} (isKnown : known value)
    (holds : row.HoldsOnly known) (term : ResolvedTerm) :
    (term.write value row).HoldsOnly known := by
  cases term with
  | «variable» name =>
      intro other existing found
      rw [ResolvedTerm.write, Row.value?_bind] at found
      split at found
      · rw [← Option.some.inj found]
        exact isKnown
      · exact holds other existing found
  | _ => exact holds

theorem holdsOnly_extend {pattern : ResolvedPattern} {row next : Row} {fact : Fact}
    (isKnown : fact.HoldsOnly known) (holds : row.HoldsOnly known)
    (extended : pattern.extend row fact = some next) : next.HoldsOnly known := by
  obtain ⟨first, subjectBound, extended⟩ := Option.bind_eq_some_iff.1 extended
  obtain ⟨second, predicateBound, objectBound⟩ := Option.bind_eq_some_iff.1 extended
  rw [ResolvedTerm.bindTo_eq_write objectBound, ResolvedTerm.bindTo_eq_write predicateBound,
    ResolvedTerm.bindTo_eq_write subjectBound]
  exact holdsOnly_write isKnown.2.2 (holdsOnly_write isKnown.2.1
    (holdsOnly_write isKnown.1 holds _) _) _

/-- One pattern adds components of facts to the rows. -/
theorem holdsOnly_step {facts : List Fact} {stage : Joined} (pattern : ResolvedPattern)
    (areKnown : ∀ fact ∈ facts, fact.HoldsOnly known)
    (hold : ∀ row ∈ stage.rows, row.HoldsOnly known) :
    ∀ row ∈ (stage.step facts pattern).rows, row.HoldsOnly known := by
  intro next inside
  obtain ⟨row, before, continued⟩ := List.mem_flatMap.1 inside
  obtain ⟨fact, candidate, extended⟩ := List.mem_filterMap.1 continued
  exact holdsOnly_extend (areKnown fact (List.mem_of_mem_filter candidate)) (hold row before)
    extended

theorem ends_ofNode (prefixes : PrefixTable) {term : Term} (wellFormed : term.IsWellFormed) :
    (ResolvedTerm.ofNode prefixes (.term term)).Ends known fun _ => True := by
  cases term with
  | colonless name => exact wellFormed.elim
  | blank label => exact .query _
  | _ => trivial

theorem ends_joinFrom {facts : List Fact} (prefixes : PrefixTable)
    (areKnown : ∀ fact ∈ facts, fact.HoldsOnly known) {patterns : List TriplePattern}
    (arePatterns : ∀ pattern ∈ patterns, ∃ terms, IsPattern terms ∧ pattern = terms.map Node.term)
    {stage : Joined} (hold : ∀ row ∈ stage.rows, row.HoldsOnly known) :
    (joinFrom facts prefixes stage patterns).Ends known fun joined =>
      ∀ row ∈ joined.rows, row.HoldsOnly known := by
  induction patterns generalizing stage with
  | nil => exact hold
  | cons pattern others inductionHypothesis =>
      rw [List.forall_mem_cons] at arePatterns
      obtain ⟨⟨terms, ⟨subject, predicate, object⟩, rfl⟩, areOthers⟩ := arePatterns
      unfold joinFrom
      split
      · exact hold
      · have resolved : (ResolvedPattern.ofPattern prefixes (terms.map Node.term)).Ends known
            fun _ => True := by
          refine (ends_ofNode prefixes subject).bind fun _ _ => ?_
          refine (ends_ofNode prefixes predicate.1).bind fun _ _ => ?_
          exact (ends_ofNode prefixes object).bind fun _ _ => trivial
        exact resolved.bind fun pattern _ =>
          inductionHypothesis areOthers (holdsOnly_step pattern areKnown hold)

end Join

/-! ## Filters -/

def Sparql.Node.literalValues : Node → List String
  | .binary _ left right => [left, right].filterMap fun
      | .term (.literal value _ _) => some value
      | _ => none
  | _ => []

section Filters

variable {known : String → Prop} {row : Row}

theorem ends_operandValue {operator : String} {left right node : Node} (side : node ∈ [left, right])
    (areKnown : ∀ value ∈ (Node.binary operator left right).literalValues, known value)
    (writable : node.isWritable = true) (holds : row.HoldsOnly known) :
    (Filter.operandValue row node).Ends known known := by
  cases node with
  | term kind =>
      cases kind with
      | «variable» name =>
          simp only [Filter.operandValue]
          cases found : Row.value? row name with
          | none => exact .query _
          | some value => exact holds name value found
      | literal value language datatype =>
          exact areKnown value (List.mem_filterMap.2 ⟨_, side, rfl⟩)
      | _ => exact .query _
  | _ =>
      simp only [Filter.operandValue, writable, if_true]
      exact .query _

theorem ends_holds {condition : Node} (writable : condition.isWritable = true)
    (areKnown : ∀ value ∈ condition.literalValues, known value) (holds : row.HoldsOnly known) :
    (Filter.holds row condition).Ends known fun _ => True := by
  cases condition with
  | binary operator left right =>
      obtain ⟨leftWritable, rightWritable⟩ := (Bool.and_eq_true _ _).mp writable
      simp only [Filter.holds]
      cases Comparison.ofOperator? operator with
      | none => exact .query _
      | some comparison =>
          have first := ends_operandValue (by simp) areKnown leftWritable holds
          have second := ends_operandValue (by simp) areKnown rightWritable holds
          refine first.bind fun leftValue leftKnown => second.bind fun rightValue rightKnown => ?_
          exact (Evaluation.ends_ofNumeral (failsAmong_coercePair leftKnown rightKnown)).bind
            fun _ _ => trivial
  | _ => exact .query _

def AreComparable (known : String → Prop) (conditions : List Node) : Prop :=
  ∀ condition ∈ conditions,
    condition.isWritable = true ∧ ∀ value ∈ condition.literalValues, known value

theorem ends_allHold {conditions : List Node} (comparable : AreComparable known conditions)
    (holds : row.HoldsOnly known) : (Filter.allHold row conditions).Ends known fun _ => True := by
  induction conditions with
  | nil => trivial
  | cons condition others inductionHypothesis =>
      obtain ⟨here, later⟩ := List.forall_mem_cons.1 comparable
      refine (ends_holds here.1 here.2 holds).bind fun verdict _ => ?_
      split
      · exact inductionHypothesis later
      · trivial

theorem ends_apply {conditions : List Node} (comparable : AreComparable known conditions)
    {rows : List Row} (hold : ∀ row ∈ rows, row.HoldsOnly known) :
    (Filter.apply conditions rows).Ends known fun kept => ∀ row ∈ kept, row.HoldsOnly known := by
  induction rows with
  | nil => exact hold
  | cons row others inductionHypothesis =>
      obtain ⟨here, later⟩ := List.forall_mem_cons.1 hold
      refine (ends_allHold comparable here).bind fun verdict _ => ?_
      refine (inductionHypothesis later).bind fun rest areRest => ?_
      split
      · exact List.forall_mem_cons.2 ⟨here, areRest⟩
      · exact areRest

end Filters

/-! ## Sorting -/

theorem holdsOnly_project {known : String → Prop} {row : Row} (holds : row.HoldsOnly known)
    (names : List String) : (Row.project names row).HoldsOnly known := by
  intro name value found
  have shown : (name, some value) ∈ (Row.project names row).pairs :=
    OrderedMap.mem_of_find? (Option.join_eq_some_iff.1 found)
  obtain ⟨other, -, same⟩ := List.mem_map.1 (OrderedMap.mem_of_mem_ofList shown)
  exact holds other value (Prod.mk.inj same).2

theorem failsAmong_firstFault {known : String → Prop} {conditions : List OrderCondition}
    {rows : List Row} (hold : ∀ row ∈ rows, row.HoldsOnly known) :
    FailsAmong known (Order.firstFault conditions rows) := by
  induction rows with
  | nil => exact failsAmong_ok _
  | cons row others inductionHypothesis =>
      obtain ⟨here, later⟩ := List.forall_mem_cons.1 hold
      have compared : ∀ behind : List Row, (∀ other ∈ behind, other.HoldsOnly known) →
          FailsAmong known
            (behind.forM fun other => discard (Order.compareRows row other conditions)) := by
        intro behind areBehind
        induction behind with
        | nil => exact failsAmong_ok _
        | cons other more compareMore =>
            obtain ⟨isOther, areMore⟩ := List.forall_mem_cons.1 areBehind
            exact (failsAmong_discard (failsAmong_compareRows here isOther)).bind fun _ =>
              compareMore areMore
      exact (compared others later).bind fun _ => inductionHypothesis later

theorem ends_sort {known : String → Prop} {conditions : List OrderCondition} {rows : List Row}
    (hold : ∀ row ∈ rows, row.HoldsOnly known) :
    (Order.sort conditions rows).Ends known fun _ => True := by
  unfold Order.sort
  split
  · exact (Evaluation.ends_ofNumeral (failsAmong_firstFault hold)).bind fun _ _ => trivial
  · trivial

/-! ## Queries -/

/-- The texts that a query over facts can compare: components of the facts, and literals of its
filters. -/
def IsCompared (facts : List Fact) (group : Group) (text : String) : Prop :=
  (∃ fact ∈ facts, text = fact.subject ∨ text = fact.predicate ∨ text = fact.object) ∨
    ∃ condition ∈ conditionsOf group, text ∈ condition.literalValues

theorem patternsOf_terms {group : Group} (isGroup : IsGroup group) :
    ∀ pattern ∈ patternsOf group, ∃ terms, IsPattern terms ∧ pattern = terms.map Node.term := by
  intro pattern inside
  obtain ⟨entry, known, held⟩ := List.mem_flatMap.1 inside
  have isEntry := isGroup.1 entry known
  cases entry with
  | triples patterns => exact isEntry.2 pattern held
  | _ => cases held

theorem areComparable_conditionsOf (facts : List Fact) {group : Group}
    (writable : ∀ entry ∈ group, entry.IsWritableFilter) :
    AreComparable (IsCompared facts group) (conditionsOf group) := by
  intro condition inside
  refine ⟨?_, fun value held => Or.inr ⟨condition, inside, held⟩⟩
  obtain ⟨entry, known, same⟩ := List.mem_filterMap.1 inside
  have isWritable := writable entry known
  cases entry with
  | filter inner =>
      cases same
      exact isWritable
  | _ => cases same

/-- A query that was read from a text runs, or fails in one of two ways. -/
theorem ends_execute (facts : List Fact) {text : String} {query : Query}
    (read : Query.ofText text = .ok query) :
    (execute facts query).Ends (IsCompared facts query.group) fun _ => True := by
  have wellFormed := (Query.isWellFormed_of_ofText read).form
  have writable := Query.isWritableFilter_of_ofText read
  obtain ⟨prefixes, form⟩ := query
  cases form with
  | ask body => exact .query _
  | unknown => exact .query _
  | select select =>
      have planned : (Evaluation.ofQuery (planOf select.group)).Ends
          (IsCompared facts select.group)
          fun plan => plan = (patternsOf select.group, conditionsOf select.group) := by
        refine Evaluation.ends_ofQuery fun plan success => ?_
        rcases planOf_cases select.group with ⟨-, known⟩ | ⟨-, error, fault⟩
        · exact Except.ok.inj (success.symm.trans known)
        · rw [fault] at success
          cases success
      have areKnown : ∀ fact ∈ facts, fact.HoldsOnly (IsCompared facts select.group) :=
        fun fact inside => ⟨Or.inl ⟨fact, inside, Or.inl rfl⟩,
          Or.inl ⟨fact, inside, Or.inr (Or.inl rfl)⟩, Or.inl ⟨fact, inside, Or.inr (Or.inr rfl)⟩⟩
      have starts : ∀ row ∈ Joined.start.rows, row.HoldsOnly (IsCompared facts select.group) :=
        fun row inside => List.mem_singleton.1 inside ▸ holdsOnly_empty
      refine planned.bind fun plan isPlan => ?_
      subst isPlan
      refine (ends_joinFrom prefixes areKnown (patternsOf_terms wellFormed.group) starts).bind
        fun joined hold => ?_
      refine (ends_apply (areComparable_conditionsOf facts writable) hold).bind
        fun kept areKept => ?_
      have shown : ∀ row ∈ kept.map (Row.project select.shown),
          row.HoldsOnly (IsCompared facts select.group) := by
        intro row inside
        obtain ⟨before, isKept, rfl⟩ := List.mem_map.1 inside
        exact holdsOnly_project (areKept before isKept) _
      exact (ends_sort shown).bind fun _ _ => trivial

theorem Engine.requireReady_of_ready {engine : Engine} (ready : engine.store.isReady = true) :
    engine.requireReady = .ok () := by
  rw [Engine.requireReady, if_pos ready]

theorem Engine.run_of_ofText {engine : Engine} {text : String} {query : Query}
    (ready : engine.store.isReady = true) (read : Query.ofText text = .ok query) :
    engine.run text =
      ((FactQuery.execute engine.store.contents query).mapError Engine.Error.fault >>= fun result =>
        .ok { result with rows := cutRows engine.maxResults result.rows }) := by
  simp only [Engine.run, Engine.execute, requireReady_of_ready ready, read, Except.mapError,
    ok_bind]
  rfl

theorem Engine.run_of_unread {engine : Engine} {text : String} {error : QueryError}
    (ready : engine.store.isReady = true) (read : Query.ofText text = .error error) :
    engine.run text = .error (.fault (.query error)) := by
  simp only [Engine.run, Engine.execute, requireReady_of_ready ready, read, Except.mapError,
    ok_bind, error_bind]

/-- On a store that is ready every text gives a result, or the query is at fault, or a numeral that
the query compares is padded so that it has no value. -/
theorem Engine.run_ends (engine : Engine) (text : String)
    (ready : engine.store.isReady = true) :
    (∃ result, engine.run text = .ok result) ∨
      (∃ error, engine.run text = .error (.fault (.query error))) ∨
        ∃ query value, Query.ofText text = .ok query ∧
          IsCompared engine.store.contents query.group value ∧ IsUnreadable value ∧
            engine.run text = .error (.fault (.numeral ⟨value⟩)) := by
  cases read : Query.ofText text with
  | error error => exact Or.inr (Or.inl ⟨error, Engine.run_of_unread ready read⟩)
  | ok query =>
      rw [Engine.run_of_ofText ready read]
      have ends := ends_execute engine.store.contents read
      cases outcome : FactQuery.execute engine.store.contents query with
      | ok result =>
          exact Or.inl ⟨{ result with rows := cutRows engine.maxResults result.rows }, rfl⟩
      | error fault =>
          rw [outcome] at ends
          cases ends with
          | query error => exact Or.inr (Or.inl ⟨error, rfl⟩)
          | numeral value isCompared unreadable =>
              exact Or.inr (Or.inr ⟨query, value, rfl, isCompared, unreadable, rfl⟩)

/-- A numeral behind a record separator is told from a text, and then has no value. -/
theorem Engine.run_ends_separator :
    let engine : Engine := ⟨⟨[⟨"s", "p", "\x1c5", none, none⟩], [], .ready⟩, none, some 7⟩
    let text := "SELECT ?s WHERE \x7b ?s ?p ?o FILTER(?o < 6) \x7d"
    engine.store.isReady = true ∧ ∃ query value, Query.ofText text = .ok query ∧
      IsCompared engine.store.contents query.group value ∧ IsUnreadable value ∧
        engine.run text = .error (.fault (.numeral ⟨value⟩)) := by
  intro engine text
  have ready : engine.store.isReady = true := by decide
  have noResult : (engine.run text).isOk = false := by decide +kernel
  have faultless : (match engine.run text with
      | .error (.fault (.query _)) => false
      | _ => true) = true := by decide +kernel
  refine ⟨ready, ?_⟩
  rcases Engine.run_ends engine text ready with ⟨result, success⟩ | ⟨error, fault⟩ | unreadable
  · rw [success] at noResult
    contradiction
  · rw [fault] at faultless
    contradiction
  · exact unreadable

/-- A run can fail though nothing is wrong with the query. -/
theorem Engine.run_escapes :
    ¬∀ (engine : Engine) (text : String), engine.store.isReady = true →
      (∃ result, engine.run text = .ok result) ∨
        ∃ error, engine.run text = .error (.fault (.query error)) := by
  intro always
  let engine : Engine := ⟨⟨[⟨"s", "p", "\x1c5", none, none⟩], [], .ready⟩, none, none⟩
  let text := "SELECT ?s WHERE \x7b ?s ?p ?o FILTER(?o < 6) \x7d"
  have unreadable : (match engine.run text with
      | .error (.fault (.numeral _)) => true
      | _ => false) = true := by decide +kernel
  rcases always engine text (by decide) with ⟨result, success⟩ | ⟨error, fault⟩
  · rw [success] at unreadable
    contradiction
  · rw [fault] at unreadable
    contradiction

end FactQuery
