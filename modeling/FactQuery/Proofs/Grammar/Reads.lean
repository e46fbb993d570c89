import FactQuery.Grammar.Parser

/-!
# Reading a written text

Which text a parser takes, for which value, and which text it refuses.  Both are said of a text with
everything that stands behind it, since an ordered choice and a longest run look past what they
take.  What stands in front matters to keywords only, and `Reads` and `Misses` hold for all of it.
-/

set_option autoImplicit false

namespace FactQuery.Grammar

variable {α β : Type}

/-- Behind a character, the parser takes `text` for `value` and leaves `rest`. -/
def ReadsFrom (before : Option Char) (parser : Parser α) (text : List Char) (value : α)
    (rest : List Char) : Prop :=
  ∃ last, parser ⟨before, text ++ rest⟩ = .matched value ⟨last, rest⟩

/-- Wherever it stands, the parser takes `text` for `value` and leaves `rest`. -/
def Reads (parser : Parser α) (text : List Char) (value : α) (rest : List Char) : Prop :=
  ∀ before, ReadsFrom before parser text value rest

def MissesFrom (before : Option Char) (parser : Parser α) (text : List Char) : Prop :=
  parser ⟨before, text⟩ = .missed

def Misses (parser : Parser α) (text : List Char) : Prop :=
  ∀ before, MissesFrom before parser text

/-! ## Sequences -/

theorem Reads.pure (value : α) (rest : List Char) :
    Reads (Pure.pure value : Parser α) [] value rest :=
  fun before => ⟨before, rfl⟩

theorem ReadsFrom.bind {before : Option Char} {parser : Parser α} {next : α → Parser β}
    {text more rest : List Char} {value : α} {result : β}
    (first : ReadsFrom before parser text value (more ++ rest))
    (second : Reads (next value) more result rest) :
    ReadsFrom before (parser >>= next) (text ++ more) result rest := by
  obtain ⟨middle, firstRun⟩ := first
  obtain ⟨last, secondRun⟩ := second middle
  refine ⟨last, ?_⟩
  rw [Parser.bind_apply, List.append_assoc, firstRun]
  exact secondRun

theorem Reads.bind {parser : Parser α} {next : α → Parser β} {text more rest : List Char}
    {value : α} {result : β} (first : Reads parser text value (more ++ rest))
    (second : Reads (next value) more result rest) :
    Reads (parser >>= next) (text ++ more) result rest :=
  fun before => (first before).bind second

theorem Reads.bind_nil {parser : Parser α} {next : α → Parser β} {text rest : List Char}
    {value : α} {result : β} (first : Reads parser [] value (text ++ rest))
    (second : Reads (next value) text result rest) :
    Reads (parser >>= next) text result rest :=
  Reads.bind first second

theorem ReadsFrom.bind_end {before : Option Char} {parser : Parser α} {next : α → Parser β}
    {text rest : List Char} {value : α} {result : β}
    (first : ReadsFrom before parser text value rest)
    (second : Reads (next value) [] result rest) :
    ReadsFrom before (parser >>= next) text result rest := by
  obtain ⟨middle, firstRun⟩ := first
  obtain ⟨last, secondRun⟩ := second middle
  refine ⟨last, ?_⟩
  rw [Parser.bind_apply, firstRun]
  exact secondRun

theorem Reads.bind_end {parser : Parser α} {next : α → Parser β} {text rest : List Char}
    {value : α} {result : β} (first : Reads parser text value rest)
    (second : Reads (next value) [] result rest) :
    Reads (parser >>= next) text result rest :=
  fun before => (first before).bind_end second

theorem ReadsFrom.bind_last {before : Option Char} {parser : Parser α} {next : α → Parser β}
    {text more : List Char} {value : α} {result : β}
    (first : ReadsFrom before parser text value more)
    (second : Reads (next value) more result []) :
    ReadsFrom before (parser >>= next) (text ++ more) result [] := by
  rw [← List.append_nil more] at first
  exact first.bind second

theorem Reads.bind_last {parser : Parser α} {next : α → Parser β} {text more : List Char}
    {value : α} {result : β} (first : Reads parser text value more)
    (second : Reads (next value) more result []) :
    Reads (parser >>= next) (text ++ more) result [] :=
  fun before => (first before).bind_last second

theorem ReadsFrom.bind_pure {before : Option Char} {parser : Parser α} {next : α → β}
    {text rest : List Char} {value : α} (first : ReadsFrom before parser text value rest) :
    ReadsFrom before (parser >>= fun found => Pure.pure (next found)) text (next value) rest :=
  first.bind_end (Reads.pure (next value) rest)

theorem Reads.bind_pure {parser : Parser α} {next : α → β} {text rest : List Char} {value : α}
    (first : Reads parser text value rest) :
    Reads (parser >>= fun found => Pure.pure (next found)) text (next value) rest :=
  fun before => (first before).bind_pure

theorem MissesFrom.bind {before : Option Char} {parser : Parser α} {next : α → Parser β}
    {text : List Char} (missed : MissesFrom before parser text) :
    MissesFrom before (parser >>= next) text := by
  unfold MissesFrom at missed ⊢
  rw [Parser.bind_apply, missed]
  rfl

theorem Misses.bind {parser : Parser α} {next : α → Parser β} {text : List Char}
    (missed : Misses parser text) : Misses (parser >>= next) text :=
  fun before => (missed before).bind

theorem Misses.map {parser : Parser α} {change : α → β} {text : List Char}
    (missed : Misses parser text) : Misses (change <$> parser) text :=
  missed.bind

theorem ReadsFrom.bind_misses {before : Option Char} {parser : Parser α} {next : α → Parser β}
    {text rest : List Char} {value : α} (first : ReadsFrom before parser text value rest)
    (second : Misses (next value) rest) :
    MissesFrom before (parser >>= next) (text ++ rest) := by
  obtain ⟨middle, run⟩ := first
  unfold MissesFrom
  rw [Parser.bind_apply, run]
  exact second middle

/-! ## Choices -/

theorem ReadsFrom.firstOf_here {before : Option Char} {parser : Parser α} {others : List (Parser α)}
    {text rest : List Char} {value : α} (reads : ReadsFrom before parser text value rest) :
    ReadsFrom before (Parser.firstOf (parser :: others)) text value rest := by
  obtain ⟨last, run⟩ := reads
  refine ⟨last, ?_⟩
  simp only [Parser.firstOf, run]

theorem ReadsFrom.firstOf_later {before : Option Char} {parser : Parser α}
    {others : List (Parser α)} {text rest : List Char} {value : α}
    (missed : MissesFrom before parser (text ++ rest))
    (later : ReadsFrom before (Parser.firstOf others) text value rest) :
    ReadsFrom before (Parser.firstOf (parser :: others)) text value rest := by
  obtain ⟨last, run⟩ := later
  refine ⟨last, ?_⟩
  unfold MissesFrom at missed
  simp only [Parser.firstOf, missed, run]

theorem Reads.firstOf_here {parser : Parser α} {others : List (Parser α)} {text rest : List Char}
    {value : α} (reads : Reads parser text value rest) :
    Reads (Parser.firstOf (parser :: others)) text value rest :=
  fun before => (reads before).firstOf_here

theorem Reads.firstOf_later {parser : Parser α} {others : List (Parser α)} {text rest : List Char}
    {value : α} (missed : Misses parser (text ++ rest))
    (later : Reads (Parser.firstOf others) text value rest) :
    Reads (Parser.firstOf (parser :: others)) text value rest :=
  fun before => (later before).firstOf_later (missed before)

theorem Misses.firstOf {parsers : List (Parser α)} {text : List Char}
    (each : ∀ parser ∈ parsers, Misses parser text) : Misses (Parser.firstOf parsers) text := by
  intro before
  induction parsers with
  | nil => rfl
  | cons parser others inductionHypothesis =>
      have missed := each parser List.mem_cons_self before
      unfold MissesFrom at missed ⊢
      simp only [Parser.firstOf, missed]
      exact inductionHypothesis fun other inside => each other (List.mem_cons_of_mem parser inside)

/-! ## Optional and repeated parts -/

theorem ReadsFrom.optional_some {before : Option Char} {parser : Parser α} {text rest : List Char}
    {value : α} (reads : ReadsFrom before parser text value rest) :
    ReadsFrom before (Parser.optional parser) text (some value) rest := by
  obtain ⟨last, run⟩ := reads
  refine ⟨last, ?_⟩
  simp only [Parser.optional, run]

theorem Reads.optional_some {parser : Parser α} {text rest : List Char} {value : α}
    (reads : Reads parser text value rest) :
    Reads (Parser.optional parser) text (some value) rest :=
  fun before => (reads before).optional_some

theorem Misses.optional_none {parser : Parser α} {rest : List Char}
    (missed : Misses parser rest) : Reads (Parser.optional parser) [] none rest := by
  intro before
  have missedHere := missed before
  unfold MissesFrom at missedHere
  refine ⟨before, ?_⟩
  simp only [Parser.optional, List.nil_append, missedHere]

/-- A parser takes several texts in a row, each for its value, and then refuses what is left. -/
inductive ReadsEach (parser : Parser α) : List Char → List α → List Char → Prop where
  | stop {rest : List Char} (missed : Misses parser rest) : ReadsEach parser [] [] rest
  | more {text others rest : List Char} {value : α} {values : List α} (nonempty : text ≠ [])
      (first : Reads parser text value (others ++ rest))
      (later : ReadsEach parser others values rest) :
      ReadsEach parser (text ++ others) (value :: values) rest

theorem ReadsEach.single {parser : Parser α} {text rest : List Char} {value : α}
    (nonempty : text ≠ []) (reads : Reads parser text value rest) (missed : Misses parser rest) :
    ReadsEach parser text [value] rest := by
  have each : ReadsEach parser (text ++ []) [value] rest := .more nonempty reads (.stop missed)
  rw [List.append_nil] at each
  exact each

theorem ReadsEach.length_le {parser : Parser α} {text rest : List Char} {values : List α}
    (reads : ReadsEach parser text values rest) : values.length ≤ text.length := by
  induction reads with
  | stop missed => simp
  | more nonempty first later inductionHypothesis =>
      have positive := List.length_pos_iff.2 nonempty
      rw [List.length_append, List.length_cons]
      omega

theorem ReadsEach.manyWithin {parser : Parser α} {text rest : List Char} {values : List α}
    (reads : ReadsEach parser text values rest) (bound : Nat) (enough : values.length ≤ bound) :
    Reads (Parser.manyWithin parser bound) text values rest := by
  induction reads generalizing bound with
  | stop missed =>
      intro before
      refine ⟨before, ?_⟩
      cases bound with
      | zero => rfl
      | succ bound =>
          have missedHere := missed before
          unfold MissesFrom at missedHere
          simp only [Parser.manyWithin, List.nil_append, missedHere]
  | @more text others rest value values nonempty first later inductionHypothesis =>
      cases bound with
      | zero => simp at enough
      | succ bound =>
          intro before
          obtain ⟨middle, firstRun⟩ := first before
          obtain ⟨last, laterRun⟩ :=
            inductionHypothesis bound (Nat.le_of_succ_le_succ enough) middle
          refine ⟨last, ?_⟩
          simp only [Parser.manyWithin, List.append_assoc, firstRun, laterRun, Outcome.andThen]

/-- Repetition takes the texts that are taken one by one. -/
theorem ReadsEach.many {parser : Parser α} {text rest : List Char} {values : List α}
    (reads : ReadsEach parser text values rest) :
    Reads (Parser.many parser) text values rest := by
  intro before
  -- No text is empty, and so the characters ahead are enough to bound the repetition.
  have enough : values.length ≤ (text ++ rest).length := by
    have short := reads.length_le
    rw [List.length_append]
    omega
  exact reads.manyWithin _ enough before

/-- The first of the texts may depend on what stands in front of it. -/
theorem ReadsEach.many_after {before : Option Char} {parser : Parser α}
    {text others rest : List Char} {value : α} {values : List α} (nonempty : text ≠ [])
    (first : ReadsFrom before parser text value (others ++ rest))
    (later : ReadsEach parser others values rest) :
    ReadsFrom before (Parser.many parser) (text ++ others) (value :: values) rest := by
  have positive := List.length_pos_iff.2 nonempty
  have short := later.length_le
  have size : (text ++ others ++ rest).length = ((text ++ others ++ rest).length - 1) + 1 := by
    simp only [List.length_append]
    omega
  obtain ⟨middle, firstRun⟩ := first
  obtain ⟨last, laterRun⟩ :=
    later.manyWithin ((text ++ others ++ rest).length - 1)
      (by simp only [List.length_append]; omega) middle
  refine ⟨last, ?_⟩
  unfold Parser.many
  rw [size]
  simp only [Parser.manyWithin, List.append_assoc, firstRun]
  simp only [List.append_assoc] at laterRun
  rw [laterRun]
  rfl

theorem Misses.many_nil {parser : Parser α} {rest : List Char} (missed : Misses parser rest) :
    Reads (Parser.many parser) [] [] rest :=
  (ReadsEach.stop missed).many

theorem MissesFrom.many_bind {before : Option Char} {parser : Parser α}
    {next : List α → Parser β} {text rest : List Char} {value : β}
    (missed : MissesFrom before parser (text ++ rest))
    (second : ReadsFrom before (next []) text value rest) :
    ReadsFrom before (Parser.many parser >>= next) text value rest := by
  obtain ⟨last, run⟩ := second
  refine ⟨last, ?_⟩
  have nothing : Parser.many parser ⟨before, text ++ rest⟩ =
      .matched [] ⟨before, text ++ rest⟩ := by
    unfold MissesFrom at missed
    rw [Parser.many]
    cases bound : (Cursor.mk before (text ++ rest)).rest.length with
    | zero => rfl
    | succ bound => simp only [Parser.manyWithin, missed]
  rw [Parser.bind_apply, nothing]
  exact run

theorem ReadsFrom.separated1_single {before : Option Char} {separator : Parser Unit}
    {parser : Parser α} {text rest : List Char} {value : α}
    (reads : ReadsFrom before parser text value rest) (alone : Misses separator rest) :
    ReadsFrom before (Parser.separated1 separator parser) text [value] rest := by
  have noOthers : Reads (Parser.many (do separator; parser)) [] [] rest :=
    Misses.many_nil alone.bind
  exact reads.bind_end noOthers.bind_pure

theorem Reads.separated1_single {separator : Parser Unit} {parser : Parser α}
    {text rest : List Char} {value : α} (reads : Reads parser text value rest)
    (alone : Misses separator rest) :
    Reads (Parser.separated1 separator parser) text [value] rest :=
  fun before => (reads before).separated1_single alone

theorem Reads.leftChain_single {operator : Parser β} {combine : β → α → α → α}
    {operand : Parser α} {text rest : List Char} {value : α}
    (reads : Reads operand text value rest) (alone : Misses operator rest) :
    Reads (Parser.leftChain operator combine operand) text value rest := by
  have noOthers : Reads (Parser.many do
      let sign ← operator
      let next ← operand
      return (sign, next)) [] [] rest :=
    Misses.many_nil alone.bind
  exact reads.bind_end noOthers.bind_pure

/-! ## Rules that refer to themselves -/

/-- As many levels as the text is long are enough. -/
theorem Reads.nested_of_length {rule : Parser α → Parser α} {text rest : List Char} {value : α}
    (reads : ∀ levels, text.length ≤ levels →
      Reads (rule (Parser.nestedWithin rule levels)) text value rest) :
    Reads (Parser.nested rule) text value rest := by
  intro before
  have enough : text.length ≤ (text ++ rest).length := by
    rw [List.length_append]
    omega
  exact reads _ enough before

/-- A text is read if the rule reads it, however deep the levels inside may go. -/
theorem Reads.nested {rule : Parser α → Parser α} {text rest : List Char} {value : α}
    (reads : ∀ levels, Reads (rule (Parser.nestedWithin rule levels)) text value rest) :
    Reads (Parser.nested rule) text value rest :=
  Reads.nested_of_length fun levels _ => reads levels

theorem Misses.nestedWithin {rule : Parser α → Parser α} {text : List Char}
    (missed : ∀ inner, Misses (rule inner) text) (levels : Nat) :
    Misses (Parser.nestedWithin rule levels) text := by
  cases levels with
  | zero => exact fun _ => rfl
  | succ levels => exact missed _

theorem Misses.nested {rule : Parser α → Parser α} {text : List Char}
    (missed : ∀ inner, Misses (rule inner) text) : Misses (Parser.nested rule) text :=
  fun before => Misses.nestedWithin missed _ before

end FactQuery.Grammar
