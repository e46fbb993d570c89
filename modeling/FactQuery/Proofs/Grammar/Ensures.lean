import FactQuery.Proofs.Grammar.Tokens

/-!
# What a match says

A match tells something about its value and about the place behind it.  What it tells is said by a
precondition on the place and a postcondition, and passes through the combinators one by one: in a
choice, a later alternative also knows that the earlier ones have missed.
-/

set_option autoImplicit false

namespace FactQuery.Grammar

open FactQuery.Text

variable {α β : Type} {pre : Cursor → Prop}

/-- Every match at a place with `pre` has a value and a place behind it with `post`. -/
def Ensures (pre : Cursor → Prop) (parser : Parser α) (post : α → Cursor → Prop) : Prop :=
  ∀ place, pre place → ∀ value next, parser place = .matched value next → post value next

def Yields (parser : Parser α) (good : α → Prop) : Prop :=
  ∀ place value next, parser place = .matched value next → good value

theorem Ensures.weaken {parser : Parser α} {post : α → Cursor → Prop}
    (ensures : Ensures (fun _ => True) parser post) : Ensures pre parser post :=
  fun place _ value next run => ensures place trivial value next run

theorem Yields.ensures {parser : Parser α} {good : α → Prop} (yields : Yields parser good) :
    Ensures pre parser fun value _ => good value :=
  fun place _ value next run => yields place value next run

theorem Ensures.yields {parser : Parser α} {good : α → Prop}
    (ensures : Ensures (fun _ => True) parser fun value _ => good value) : Yields parser good :=
  fun place value next run => ensures place trivial value next run

/-! ## Sequences -/

theorem andThen_eq_matched {outcome : Outcome α} {step : α → Cursor → Outcome β} {value : β}
    {next : Cursor} (run : outcome.andThen step = .matched value next) :
    ∃ middle place, outcome = .matched middle place ∧ step middle place = .matched value next := by
  cases outcome with
  | matched middle place => exact ⟨middle, place, rfl, run⟩
  | missed => cases run
  | aborted error place => cases run

theorem Ensures.bind {parser : Parser α} {next : α → Parser β} {middle : α → Cursor → Prop}
    {post : β → Cursor → Prop} (first : Ensures pre parser middle)
    (second : ∀ value, Ensures (middle value) (next value) post) :
    Ensures pre (parser >>= next) post := by
  intro place fulfilled value last run
  obtain ⟨found, behind, firstRun, secondRun⟩ := andThen_eq_matched run
  exact second found behind (first place fulfilled found behind firstRun) value last secondRun

theorem Ensures.pure {value : α} {post : α → Cursor → Prop}
    (good : ∀ place, pre place → post value place) :
    Ensures pre (Pure.pure value : Parser α) post := by
  intro place fulfilled found next run
  cases run
  exact good place fulfilled

theorem Yields.bind {parser : Parser α} {next : α → Parser β} {middle : α → Prop}
    {good : β → Prop} (first : Yields parser middle)
    (second : ∀ value, middle value → Yields (next value) good) :
    Yields (parser >>= next) good := by
  intro place value last run
  obtain ⟨found, behind, firstRun, secondRun⟩ := andThen_eq_matched run
  exact second found (first place found behind firstRun) behind value last secondRun

theorem Yields.pure {value : α} {good : α → Prop} (isGood : good value) :
    Yields (Pure.pure value : Parser α) good := by
  intro place found next run
  cases run
  exact isGood

theorem Yields.after {parser : Parser α} {next : α → Parser β} {good : β → Prop}
    (second : ∀ value, Yields (next value) good) : Yields (parser >>= next) good := by
  intro place value last run
  obtain ⟨found, behind, _, secondRun⟩ := andThen_eq_matched run
  exact second found behind value last secondRun

theorem Yields.map {parser : Parser α} {change : α → β} {good : α → Prop} {changed : β → Prop}
    (yields : Yields parser good) (keeps : ∀ value, good value → changed (change value)) :
    Yields (change <$> parser) changed :=
  yields.bind fun value isGood => Yields.pure (keeps value isGood)

theorem Yields.mono {parser : Parser α} {good better : α → Prop} (yields : Yields parser good)
    (implies : ∀ value, good value → better value) : Yields parser better :=
  fun place value next run => implies value (yields place value next run)

/-! ## Choices -/

theorem Ensures.firstOf_nil {post : α → Cursor → Prop} :
    Ensures pre (Parser.firstOf []) post := by
  intro place fulfilled value next run
  cases run

theorem Ensures.firstOf_cons {parser : Parser α} {others : List (Parser α)}
    {post : α → Cursor → Prop} (first : Ensures pre parser post)
    (later : Ensures (fun place => pre place ∧ parser place = .missed) (Parser.firstOf others)
      post) :
    Ensures pre (Parser.firstOf (parser :: others)) post := by
  intro place fulfilled value next run
  simp only [Parser.firstOf] at run
  split at run
  · rename_i found behind firstRun
    cases run
    exact first place fulfilled value next firstRun
  · rename_i missed
    exact later place ⟨fulfilled, missed⟩ value next run
  · cases run

theorem Ensures.firstOf {parsers : List (Parser α)} {post : α → Cursor → Prop}
    (each : ∀ parser ∈ parsers, Ensures pre parser post) :
    Ensures pre (Parser.firstOf parsers) post := by
  induction parsers with
  | nil => exact Ensures.firstOf_nil
  | cons parser others inductionHypothesis =>
      have later := inductionHypothesis fun other inside =>
        each other (List.mem_cons_of_mem parser inside)
      refine Ensures.firstOf_cons (each parser List.mem_cons_self) ?_
      intro place fulfilled value next run
      exact later place fulfilled.1 value next run

theorem exists_of_firstOf {parsers : List (Parser α)} {place next : Cursor} {value : α}
    (run : Parser.firstOf parsers place = .matched value next) :
    ∃ parser ∈ parsers, parser place = .matched value next := by
  have each : ∀ parser ∈ parsers, Ensures (fun here => here = place) parser fun value next =>
      ∃ parser ∈ parsers, parser place = .matched value next := by
    rintro parser inside here rfl value next run
    exact ⟨parser, inside, run⟩
  exact Ensures.firstOf each place rfl value next run

theorem Yields.firstOf {parsers : List (Parser α)} {good : α → Prop}
    (each : ∀ parser ∈ parsers, Yields parser good) : Yields (Parser.firstOf parsers) good :=
  Ensures.yields (Ensures.firstOf fun parser inside => (each parser inside).ensures)

/-! ## Optional and repeated parts -/

theorem Yields.optional {parser : Parser α} {good : α → Prop} (yields : Yields parser good) :
    Yields (Parser.optional parser) fun found => ∀ value, found = some value → good value := by
  intro place found next run value isFound
  subst isFound
  unfold Parser.optional at run
  split at run
  · rename_i first behind firstRun
    cases run
    exact yields place value next firstRun
  · cases run
  · cases run

theorem Ensures.optional {parser : Parser α} {post : Cursor → Prop}
    (ensures : Ensures pre parser fun _ next => post next)
    (stays : ∀ place, pre place → post place) :
    Ensures pre (Parser.optional parser) fun _ next => post next := by
  intro place fulfilled found next run
  unfold Parser.optional at run
  split at run
  · rename_i first behind firstRun
    cases run
    exact ensures place fulfilled first next firstRun
  · cases run
    exact stays place fulfilled
  · cases run

theorem Yields.many {parser : Parser α} {good : α → Prop} (yields : Yields parser good) :
    Yields (Parser.many parser) fun values => ∀ value ∈ values, good value := by
  have within : ∀ bound, Yields (Parser.manyWithin parser bound)
      fun values => ∀ value ∈ values, good value := by
    intro bound
    induction bound with
    | zero =>
        intro place values next run
        cases run
        simp
    | succ bound inductionHypothesis =>
        intro place values next run
        simp only [Parser.manyWithin] at run
        split at run
        · rename_i first behind firstRun
          obtain ⟨others, last, laterRun, done⟩ := andThen_eq_matched run
          cases done
          rw [List.forall_mem_cons]
          exact ⟨yields place first behind firstRun,
            inductionHypothesis behind others next laterRun⟩
        · cases run
          simp
        · cases run
  intro place values next run
  exact within _ place values next run

theorem Yields.many1 {parser : Parser α} {good : α → Prop} (yields : Yields parser good) :
    Yields (Parser.many1 parser) fun values => ∀ value ∈ values, good value := by
  refine yields.bind fun first isGood => yields.many.bind fun others areGood => Yields.pure ?_
  rw [List.forall_mem_cons]
  exact ⟨isGood, areGood⟩

/-- Items that are all read at places of one kind, with separators that lead to such places. -/
theorem Ensures.separated1 {separator : Parser Unit} {parser : Parser α} {good : α → Prop}
    (leads : Ensures (fun _ => True) separator fun _ next => pre next)
    (ensures : Ensures pre parser fun value _ => good value) :
    Ensures pre (Parser.separated1 separator parser)
      fun values _ => values ≠ [] ∧ ∀ value ∈ values, good value := by
  have item : Yields (do separator; parser) good :=
    Ensures.yields (leads.bind fun _ => ensures)
  refine Ensures.bind ensures fun first => ?_
  intro place isGood values next run
  have whole : Yields (Parser.many (do separator; parser) >>= fun others =>
      Pure.pure (first :: others)) fun values => values ≠ [] ∧ ∀ value ∈ values, good value := by
    refine item.many.bind fun others areGood => Yields.pure ⟨by simp, ?_⟩
    rw [List.forall_mem_cons]
    exact ⟨isGood, areGood⟩
  exact whole place values next run

theorem Yields.separated1 {separator : Parser Unit} {parser : Parser α} {good : α → Prop}
    (yields : Yields parser good) :
    Yields (Parser.separated1 separator parser)
      fun values => values ≠ [] ∧ ∀ value ∈ values, good value :=
  Ensures.yields (Ensures.separated1 (fun _ _ _ _ _ => trivial) yields.ensures)

theorem Ensures.leftChain {operator : Parser β} {combine : β → α → α → α} {operand : Parser α}
    {good : α → Prop} {fits : β → Prop}
    (leads : Ensures (fun _ => True) operator fun sign next => fits sign ∧ pre next)
    (ensures : Ensures pre operand fun value _ => good value)
    (keeps : ∀ sign left right, fits sign → good left → good right →
      good (combine sign left right)) :
    Ensures pre (Parser.leftChain operator combine operand) fun value _ => good value := by
  have item : Yields (do
      let sign ← operator
      let next ← operand
      return (sign, next)) fun step => fits step.1 ∧ good step.2 := by
    refine Ensures.yields (leads.bind fun sign => ?_)
    rintro place ⟨isFitting, fulfilled⟩ step next run
    obtain ⟨value, behind, operandRun, done⟩ := andThen_eq_matched run
    cases done
    exact ⟨isFitting, ensures place fulfilled value next operandRun⟩
  have folded : ∀ (steps : List (β × α)) (first : α), good first →
      (∀ step ∈ steps, fits step.1 ∧ good step.2) →
      good (steps.foldl (fun left step => combine step.1 left step.2) first) := by
    intro steps
    induction steps with
    | nil => exact fun first isGood _ => isGood
    | cons step others inductionHypothesis =>
        intro first isGood areGood
        rw [List.forall_mem_cons] at areGood
        obtain ⟨⟨isFitting, isOperand⟩, areOthers⟩ := areGood
        exact inductionHypothesis _ (keeps step.1 first step.2 isFitting isGood isOperand) areOthers
  refine Ensures.bind ensures fun first => ?_
  intro place isGood value next run
  have whole : Yields (do
      let others ← Parser.many do
        let sign ← operator
        let next ← operand
        return (sign, next)
      return others.foldl (fun left step => combine step.1 left step.2) first) good :=
    item.many.bind fun others areGood => Yields.pure (folded others first isGood areGood)
  exact whole place value next run

theorem Yields.leftChain {operator : Parser β} {combine : β → α → α → α} {operand : Parser α}
    {good : α → Prop} {fits : β → Prop} (signs : Yields operator fits)
    (yields : Yields operand good)
    (keeps : ∀ sign left right, fits sign → good left → good right →
      good (combine sign left right)) :
    Yields (Parser.leftChain operator combine operand) good := by
  refine Ensures.yields (Ensures.leftChain ?_ yields.ensures keeps)
  exact fun place _ sign next run => ⟨signs place sign next run, trivial⟩

/-- A rule that keeps a postcondition from the levels inside to its own level. -/
theorem Ensures.nested {rule : Parser α → Parser α} {post : α → Cursor → Prop}
    (keeps : ∀ inner, Ensures pre inner post → Ensures pre (rule inner) post) :
    Ensures pre (Parser.nested rule) post := by
  have within : ∀ levels, Ensures pre (Parser.nestedWithin rule levels) post := by
    intro levels
    induction levels with
    | zero =>
        intro place fulfilled value next run
        cases run
    | succ levels inductionHypothesis => exact keeps _ inductionHypothesis
  intro place fulfilled value next run
  exact within _ place fulfilled value next run

/-! ## Tokens -/

theorem lexeme_eq_matched {scan : Scanner} {place next : Cursor} {token : List Char}
    (run : lexeme scan place = .matched token next) :
    scan place.skipLayout.rest = some (token, next.rest) ∧
      next.before = token.getLast?.or place.skipLayout.before := by
  unfold lexeme at run
  simp only at run
  split at run
  · rename_i taken rest scanned
    cases run
    exact ⟨scanned, rfl⟩
  · cases run

theorem Yields.lexeme {scan : Scanner} {good : List Char → Prop}
    (sound : ∀ text token rest, scan text = some (token, rest) → good token) :
    Yields (Grammar.lexeme scan) good :=
  fun _ token next run => sound _ token next.rest (lexeme_eq_matched run).1

/-! ## Where a caseless keyword may begin -/

/-- The character just passed does not belong to an identifier. -/
def Clear (place : Cursor) : Prop :=
  isBoundary capital place.before = true

theorem isBoundary_of_isLayoutBlank {c : Char} (blank : isLayoutBlank c = true) :
    isBoundary capital (some c) = true := by
  simp only [isLayoutBlank, Bool.or_eq_true, beq_iff_eq] at blank
  rcases blank with ((rfl | rfl) | rfl) | rfl <;> decide

/-- Layout never ends in an identifier, unless a comment runs to the end of the text. -/
theorem isBoundary_skipLayoutFrom (text : List Char) (commented : Bool) (before : Option Char)
    (clear : commented = false → isBoundary capital before = true)
    (more : (skipLayoutFrom commented before text).rest ≠ []) :
    isBoundary capital (skipLayoutFrom commented before text).before = true := by
  induction text generalizing commented before with
  | nil => exact absurd rfl more
  | cons c rest inductionHypothesis =>
      rw [skipLayoutFrom] at more ⊢
      split
      · rename_i running
        rw [if_pos running] at more
        refine inductionHypothesis _ _ (fun ended => ?_) more
        have lineEnd : c = '\n' := by simpa using ended
        rw [lineEnd]
        decide
      · rename_i notRunning
        rw [if_neg notRunning] at more
        split
        · rename_i blank
          rw [if_pos blank] at more
          exact inductionHypothesis _ _ (fun _ => isBoundary_of_isLayoutBlank blank) more
        · rename_i notBlank
          rw [if_neg notBlank] at more
          split
          · rename_i starts
            rw [if_pos starts] at more
            exact inductionHypothesis _ _ (fun running => by contradiction) more
          · exact clear (Bool.eq_false_iff.2 notRunning)

theorem Clear.skipLayout {place : Cursor} (clear : Clear place)
    (more : place.skipLayout.rest ≠ []) : Clear place.skipLayout :=
  isBoundary_skipLayoutFrom place.rest false place.before (fun _ => clear) more

theorem exactly_sound {token text taken rest : List Char}
    (found : exactly token text = some (taken, rest)) : taken = token := by
  unfold exactly at found
  obtain ⟨behind, _, same⟩ := Option.map_eq_some_iff.1 found
  exact (Prod.mk.inj same).1.symm

theorem symbol_clear {token : String} {last : Char} (ends : token.toList.getLast? = some last)
    (boundary : isBoundary capital (some last) = true) :
    Ensures (fun _ => True) (symbol token) fun _ next => Clear next := by
  intro place fulfilled value next run
  obtain ⟨taken, behind, scanned, done⟩ := andThen_eq_matched run
  cases done
  obtain ⟨found, before⟩ := lexeme_eq_matched scanned
  rw [exactly_sound found, ends] at before
  rw [Clear, before]
  exact boundary

theorem oneOf_clear {tokens : List String}
    (clear : ∀ token ∈ tokens, ∃ last, token.toList.getLast? = some last ∧
      isBoundary capital (some last) = true) :
    Ensures (fun _ => True) (oneOf tokens) fun _ next => Clear next := by
  refine Ensures.firstOf fun parser inside => ?_
  obtain ⟨token, known, rfl⟩ := List.mem_map.1 inside
  obtain ⟨last, ends, boundary⟩ := clear token known
  exact (symbol_clear ends boundary).bind fun _ => Ensures.pure fun _ isClear => isClear

end FactQuery.Grammar
