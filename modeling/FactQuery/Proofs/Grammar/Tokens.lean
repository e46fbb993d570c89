import FactQuery.Grammar.Keyword
import FactQuery.Proofs.Grammar.Reads
import FactQuery.Token.QuotedText

/-!
# Reading tokens

A token is read behind any gap of blanks, if its scanner takes exactly the token off the text ahead.
How far a scanner goes is decided by the class of the character that follows, so what stands behind
a token is described by the classes that its first character is outside of.
-/

set_option autoImplicit false

namespace FactQuery.Grammar

open FactQuery.Text

/-! ## Letters and digits -/

theorem toNat_of_isAlpha {c : Char} (letter : c.isAlpha = true) :
    (65 ≤ c.toNat ∧ c.toNat ≤ 90) ∨ (97 ≤ c.toNat ∧ c.toNat ≤ 122) := by
  have cases : (c.isUpper || c.isLower) = true := letter
  rw [Bool.or_eq_true] at cases
  rcases cases with upper | lower
  · have range : decide (c.val ≥ 'A'.val ∧ c.val ≤ 'Z'.val) = true := upper
    rw [decide_eq_true_eq] at range
    exact Or.inl range
  · have range : (decide (c.val ≥ 'a'.val) && decide (c.val ≤ 'z'.val)) = true := lower
    rw [Bool.and_eq_true, decide_eq_true_eq, decide_eq_true_eq] at range
    exact Or.inr range

theorem toNat_of_isAlphanum {c : Char} (alphanumeric : c.isAlphanum = true) :
    (48 ≤ c.toNat ∧ c.toNat ≤ 57) ∨ (65 ≤ c.toNat ∧ c.toNat ≤ 90) ∨
      (97 ≤ c.toNat ∧ c.toNat ≤ 122) := by
  rw [Char.isAlphanum, Bool.or_eq_true] at alphanumeric
  rcases alphanumeric with letter | digit
  · exact Or.inr (toNat_of_isAlpha letter)
  · simp only [Char.isDigit, Bool.and_eq_true, decide_eq_true_eq] at digit
    exact Or.inl digit

theorem of_forall_ascii (good : Char → Prop) (each : ∀ n < 128, good (Char.ofNat n)) {c : Char}
    (small : c.toNat < 128) : good c := by
  have found := each c.toNat small
  rwa [Char.ofNat_toNat] at found

/-! ## Runs of a class -/

/-- The text is empty or its first character is outside a class. -/
def Stops (belongs : Char → Bool) (text : List Char) : Prop :=
  (text.head?.all fun c => !belongs c) = true

theorem Stops.cons_iff {belongs : Char → Bool} {c : Char} {rest : List Char} :
    Stops belongs (c :: rest) ↔ belongs c = false := by
  simp [Stops]

theorem Stops.mono {smaller larger : Char → Bool} {text : List Char}
    (inside : ∀ c, smaller c = true → larger c = true) (stops : Stops larger text) :
    Stops smaller text := by
  cases text with
  | nil => rfl
  | cons c rest =>
      rw [Stops.cons_iff] at stops ⊢
      cases belongs : smaller c with
      | false => rfl
      | true => rw [inside c belongs] at stops; contradiction

theorem Stops.dropWhile (belongs : Char → Bool) (text : List Char) :
    Stops belongs (text.dropWhile belongs) := by
  induction text with
  | nil => rfl
  | cons c rest inductionHypothesis =>
      rw [List.dropWhile_cons]
      split
      · exact inductionHypothesis
      · rename_i outside
        rw [Stops.cons_iff]
        exact Bool.eq_false_iff.2 outside

theorem Stops.takeWhile_eq_nil {belongs : Char → Bool} {text : List Char}
    (stops : Stops belongs text) : text.takeWhile belongs = [] := by
  cases text with
  | nil => rfl
  | cons c rest =>
      rw [Stops.cons_iff] at stops
      rw [List.takeWhile_cons, stops]
      rfl

theorem Stops.dropWhile_eq_self {belongs : Char → Bool} {text : List Char}
    (stops : Stops belongs text) : text.dropWhile belongs = text := by
  cases text with
  | nil => rfl
  | cons c rest =>
      rw [Stops.cons_iff] at stops
      rw [List.dropWhile_cons, stops]
      rfl

theorem takeWhile_run {belongs : Char → Bool} {run rest : List Char}
    (inside : ∀ c ∈ run, belongs c = true) (stops : Stops belongs rest) :
    (run ++ rest).takeWhile belongs = run := by
  rw [List.takeWhile_append_of_pos inside, stops.takeWhile_eq_nil, List.append_nil]

theorem dropWhile_run {belongs : Char → Bool} {run rest : List Char}
    (inside : ∀ c ∈ run, belongs c = true) (stops : Stops belongs rest) :
    (run ++ rest).dropWhile belongs = rest := by
  rw [List.dropWhile_append_of_pos inside, stops.dropWhile_eq_self]

theorem take_takeWhile_length (belongs : Char → Bool) (text : List Char) :
    text.take (text.takeWhile belongs).length = text.takeWhile belongs := by
  induction text with
  | nil => rfl
  | cons c rest inductionHypothesis =>
      rw [List.takeWhile_cons]
      split
      · rw [List.length_cons, List.take_succ_cons, inductionHypothesis]
      · rfl

theorem drop_takeWhile_length (belongs : Char → Bool) (text : List Char) :
    text.drop (text.takeWhile belongs).length = text.dropWhile belongs := by
  induction text with
  | nil => rfl
  | cons c rest inductionHypothesis =>
      rw [List.takeWhile_cons, List.dropWhile_cons]
      split
      · exact inductionHypothesis
      · rfl

theorem not_mem_run {belongs : Char → Bool} {run : List Char} {c : Char}
    (inside : ∀ d ∈ run, belongs d = true) (outside : belongs c = false) : c ∉ run := by
  intro found
  rw [inside c found] at outside
  contradiction

/-! ## Lines -/

theorem flatMap_lines {α : Type} (write : α → List Char) (first : α) (others : List α) :
    ((first :: others).flatMap fun item => write item ++ ['\n']) =
      write first ++ (others.flatMap fun item => ['\n'] ++ write item) ++ ['\n'] := by
  induction others generalizing first with
  | nil => simp
  | cons next others inductionHypothesis =>
      rw [List.flatMap_cons, inductionHypothesis next]
      simp

/-! ## Layout -/

def IsGap (gap : List Char) : Prop :=
  ∀ c ∈ gap, isLayoutBlank c = true

theorem IsGap.nil : IsGap [] := by
  simp [IsGap]

theorem IsGap.space : IsGap [' '] := by
  simp [IsGap, isLayoutBlank]

theorem IsGap.lineEnd : IsGap ['\n'] := by
  simp [IsGap, isLayoutBlank]

def isLayoutStart (c : Char) : Bool :=
  isLayoutBlank c || c == '#'

theorem isLayoutStart_eq_false {belongs : Char → Bool} {c : Char}
    (outside : ([' ', '\t', '\n', '\r', '#'].all fun d => !belongs d) = true)
    (inside : belongs c = true) : isLayoutStart c = false := by
  cases layout : isLayoutStart c with
  | false => rfl
  | true =>
      have known : c ∈ [' ', '\t', '\n', '\r', '#'] := by
        simp only [isLayoutStart, isLayoutBlank, Bool.or_eq_true, beq_iff_eq] at layout
        rcases layout with (((rfl | rfl) | rfl) | rfl) | rfl <;> simp
      have excluded := List.all_eq_true.1 outside c known
      rw [inside] at excluded
      contradiction

theorem skipLayout_of_stops {text : List Char} (starts : Stops isLayoutStart text)
    (before : Option Char) : (Cursor.mk before text).skipLayout = ⟨before, text⟩ := by
  cases text with
  | nil => rfl
  | cons c rest =>
      rw [Stops.cons_iff, isLayoutStart, Bool.or_eq_false_iff] at starts
      simp [Cursor.skipLayout, skipLayoutFrom, starts.1, starts.2]

/-- A gap is passed, and the token behind it is reached. -/
theorem skipLayout_gap {gap text : List Char} (blank : IsGap gap)
    (starts : Stops isLayoutStart text) (before : Option Char) :
    (Cursor.mk before (gap ++ text)).skipLayout = ⟨gap.getLast?.or before, text⟩ := by
  induction gap generalizing before with
  | nil => exact skipLayout_of_stops starts before
  | cons c gap inductionHypothesis =>
      have blankHere : isLayoutBlank c = true := blank c List.mem_cons_self
      have blankLater : IsGap gap := fun d inside => blank d (List.mem_cons_of_mem c inside)
      have step : (Cursor.mk before (c :: gap ++ text)).skipLayout =
          (Cursor.mk (some c) (gap ++ text)).skipLayout := by
        simp [Cursor.skipLayout, skipLayoutFrom, blankHere]
      rw [step, inductionHypothesis blankLater (some c), List.getLast?_cons]
      cases gap.getLast? <;> rfl

theorem skipLayout_rest {gap : List Char} (blank : IsGap gap) (before : Option Char) :
    (Cursor.mk before gap).skipLayout.rest = [] := by
  have ended : Stops isLayoutStart [] := rfl
  have passed := skipLayout_gap blank ended before
  rw [List.append_nil] at passed
  rw [passed]

/-! ## Tokens and symbols -/

theorem lexeme_reads {scan : Scanner} {gap token rest : List Char} (blank : IsGap gap)
    (starts : Stops isLayoutStart (token ++ rest))
    (scanned : scan (token ++ rest) = some (token, rest)) :
    Reads (lexeme scan) (gap ++ token) token rest := by
  intro before
  refine ⟨token.getLast?.or (gap.getLast?.or before), ?_⟩
  simp only [lexeme, List.append_assoc, skipLayout_gap blank starts, scanned, Cursor.past]

theorem lexeme_misses {scan : Scanner} {gap text : List Char} (blank : IsGap gap)
    (starts : Stops isLayoutStart text) (refused : scan text = none) :
    Misses (lexeme scan) (gap ++ text) := by
  intro before
  simp only [MissesFrom, lexeme, skipLayout_gap blank starts, refused]

@[simp]
theorem isPrefixOf?_nil (text : List Char) : List.isPrefixOf? [] text = some text := by
  cases text <;> rfl

@[simp]
theorem isPrefixOf?_cons_nil (c : Char) (token : List Char) :
    (c :: token).isPrefixOf? [] = none := rfl

@[simp]
theorem isPrefixOf?_cons_cons (c d : Char) (token text : List Char) :
    (c :: token).isPrefixOf? (d :: text) = if c == d then token.isPrefixOf? text else none := rfl

theorem exactly_append (token rest : List Char) :
    exactly token (token ++ rest) = some (token, rest) := by
  have found : token.isPrefixOf? (token ++ rest) = some rest := by
    induction token with
    | nil => exact isPrefixOf?_nil rest
    | cons c token inductionHypothesis => simp [inductionHypothesis]
  rw [exactly, found]
  rfl

theorem symbol_reads {token : String} {gap rest : List Char} (blank : IsGap gap)
    (starts : Stops isLayoutStart (token.toList ++ rest)) :
    Reads (symbol token) (gap ++ token.toList) () rest :=
  (lexeme_reads blank starts (exactly_append token.toList rest)).bind_pure

theorem symbol_misses {token : String} {gap text : List Char} (blank : IsGap gap)
    (starts : Stops isLayoutStart text) (refused : exactly token.toList text = none) :
    Misses (symbol token) (gap ++ text) :=
  (lexeme_misses blank starts refused).bind

theorem exactly_eq_none {c d : Char} (token rest : List Char) (different : c ≠ d) :
    exactly (c :: token) (d :: rest) = none := by
  simp [exactly, different]

/-! ## Keywords -/

def foldsToIdentifier (fold : Char → Char) (c : Char) : Bool :=
  isIdentifierChar (fold c)

theorem isIdentifierChar_capital {c : Char} (alphanumeric : c.isAlphanum = true) :
    foldsToIdentifier capital c = true := by
  have small : c.toNat < 128 := by
    have range := toNat_of_isAlphanum alphanumeric
    omega
  exact of_forall_ascii (fun c => c.isAlphanum = true → foldsToIdentifier capital c = true)
    (by decide) small alphanumeric

theorem isBoundary_head?_iff {fold : Char → Char} {text : List Char} :
    isBoundary fold text.head? = true ↔ Stops (foldsToIdentifier fold) text := by
  cases text with
  | nil => simp [isBoundary, Stops]
  | cons c rest => simp [isBoundary, Stops, foldsToIdentifier]

/-- A keyword that is found with a boundary behind it is the whole run of identifier characters. -/
theorem takeWhile_eq_take {belongs : Char → Bool} {text : List Char} {size : Nat}
    (inside : ∀ c ∈ text.take size, belongs c = true) (stops : Stops belongs (text.drop size)) :
    text.takeWhile belongs = text.take size ∧ text.dropWhile belongs = text.drop size := by
  have whole : text = text.take size ++ text.drop size := (List.take_append_drop size text).symm
  constructor
  · calc text.takeWhile belongs = (text.take size ++ text.drop size).takeWhile belongs := by
          rw [← whole]
      _ = text.take size := takeWhile_run inside stops
  · calc text.dropWhile belongs = (text.take size ++ text.drop size).dropWhile belongs := by
          rw [← whole]
      _ = text.drop size := dropWhile_run inside stops

/-- A keyword is matched where the whole run of identifier characters ahead is the keyword. -/
theorem foldedWord_apply {fold : Char → Char} {word : String}
    (isWord : ∀ c ∈ word.toList, isIdentifierChar c = true) (place : Cursor) :
    foldedWord fold word place =
      if isBoundary fold place.skipLayout.before = true ∧
          (place.skipLayout.rest.takeWhile (foldsToIdentifier fold)).map fold = word.toList then
        .matched () (place.skipLayout.past
          (place.skipLayout.rest.takeWhile (foldsToIdentifier fold))
          (place.skipLayout.rest.dropWhile (foldsToIdentifier fold)))
      else .missed := by
  simp only [foldedWord, scanFolded]
  generalize place.skipLayout = start
  obtain ⟨before, text⟩ := start
  -- The scanner looks at as many characters as the word has.  They are the whole run ahead exactly
  -- if a boundary stands behind them.
  by_cases taken : (text.take word.toList.length).map fold = word.toList
  · have inside : ∀ c ∈ text.take word.toList.length, foldsToIdentifier fold c = true := by
      intro c found
      exact isWord (fold c) (taken ▸ List.mem_map_of_mem found)
    by_cases stops : Stops (foldsToIdentifier fold) (text.drop word.toList.length)
    · obtain ⟨run, behind⟩ := takeWhile_eq_take inside stops
      have boundary := isBoundary_head?_iff.2 stops
      simp only [run, behind, taken, boundary, beq_self_eq_true, if_true, Bool.and_true, and_true]
    · have noBoundary : isBoundary fold (text.drop word.toList.length).head? = false :=
        Bool.eq_false_iff.2 fun boundary => stops (isBoundary_head?_iff.1 boundary)
      have longer : (text.takeWhile (foldsToIdentifier fold)).map fold ≠ word.toList := by
        intro same
        apply stops
        have size := congrArg List.length same
        rw [List.length_map] at size
        rw [← size, drop_takeWhile_length]
        exact Stops.dropWhile _ text
      simp only [taken, noBoundary, longer, beq_self_eq_true, if_true, Bool.and_false, and_false,
        Bool.false_eq_true, if_false]
  · have different : (text.takeWhile (foldsToIdentifier fold)).map fold ≠ word.toList := by
      intro same
      apply taken
      have size := congrArg List.length same
      rw [List.length_map] at size
      rw [← size, take_takeWhile_length, same]
    simp only [beq_eq_false_iff_ne.2 taken, different, and_false, Bool.false_eq_true, if_false]

/-- A word of identifier characters that folding leaves as it is. -/
def IsKeyword (fold : Char → Char) (word : String) : Prop :=
  word.toList ≠ [] ∧ (∀ c ∈ word.toList, isIdentifierChar c = true) ∧
    ∀ c ∈ word.toList, fold c = c

instance (fold : Char → Char) (word : String) : Decidable (IsKeyword fold word) :=
  decidable_of_iff (word.toList ≠ [] ∧ word.toList.all isIdentifierChar = true ∧
      (word.toList.all fun c => fold c == c) = true) (by simp [IsKeyword])

theorem foldedRun_readsFrom {fold : Char → Char} {word : String} {gap run rest : List Char}
    {before : Option Char} (isKeyword : IsKeyword fold word) (blank : IsGap gap)
    (starts : Stops isLayoutStart (run ++ rest)) (folded : run.map fold = word.toList)
    (boundary : isBoundary fold (gap.getLast?.or before) = true)
    (stops : Stops (foldsToIdentifier fold) rest) :
    ReadsFrom before (foldedWord fold word) (gap ++ run) () rest := by
  have inside : ∀ c ∈ run, foldsToIdentifier fold c = true :=
    fun c found => isKeyword.2.1 (fold c) (folded ▸ List.mem_map_of_mem found)
  refine ⟨run.getLast?.or (gap.getLast?.or before), ?_⟩
  rw [foldedWord_apply isKeyword.2.1, List.append_assoc, skipLayout_gap blank starts,
    takeWhile_run inside stops, dropWhile_run inside stops, if_pos ⟨boundary, folded⟩]
  rfl

theorem foldedWord_readsFrom {fold : Char → Char} {word : String} {gap rest : List Char}
    {before : Option Char} (isKeyword : IsKeyword fold word) (blank : IsGap gap)
    (boundary : isBoundary fold (gap.getLast?.or before) = true)
    (stops : Stops (foldsToIdentifier fold) rest) :
    ReadsFrom before (foldedWord fold word) (gap ++ word.toList) () rest := by
  obtain ⟨nonempty, isWord, fixed⟩ := isKeyword
  have starts : Stops isLayoutStart (word.toList ++ rest) := by
    cases letters : word.toList with
    | nil => exact absurd letters nonempty
    | cons c others =>
        rw [List.cons_append, Stops.cons_iff]
        exact isLayoutStart_eq_false (by decide) (isWord c (by simp [letters]))
  have folded : word.toList.map fold = word.toList := by
    rw [List.map_congr_left fixed, List.map_id']
  exact foldedRun_readsFrom ⟨nonempty, isWord, fixed⟩ blank starts folded boundary stops

/-- A keyword is refused where the run of identifier characters ahead is another word. -/
theorem foldedWord_misses {fold : Char → Char} {word : String} {gap text : List Char}
    (isKeyword : IsKeyword fold word) (blank : IsGap gap) (starts : Stops isLayoutStart text)
    (different : (text.takeWhile (foldsToIdentifier fold)).map fold ≠ word.toList) :
    Misses (foldedWord fold word) (gap ++ text) := by
  intro before
  rw [MissesFrom, foldedWord_apply isKeyword.2.1, skipLayout_gap blank starts]
  exact if_neg fun both => different both.2

theorem foldedRun_misses {fold : Char → Char} {word : String} {gap run rest : List Char}
    (isKeyword : IsKeyword fold word) (blank : IsGap gap)
    (starts : Stops isLayoutStart (run ++ rest))
    (inside : ∀ c ∈ run, foldsToIdentifier fold c = true)
    (stops : Stops (foldsToIdentifier fold) rest) (different : run.map fold ≠ word.toList) :
    Misses (foldedWord fold word) (gap ++ (run ++ rest)) := by
  refine foldedWord_misses isKeyword blank starts ?_
  rw [takeWhile_run inside stops]
  exact different

theorem foldedWord_misses_of_stops {fold : Char → Char} {word : String} {gap text : List Char}
    (isKeyword : IsKeyword fold word) (blank : IsGap gap) (starts : Stops isLayoutStart text)
    (stops : Stops (foldsToIdentifier fold) text) :
    Misses (foldedWord fold word) (gap ++ text) := by
  apply foldedWord_misses isKeyword blank starts
  rw [stops.takeWhile_eq_nil, List.map_nil]
  exact fun same => isKeyword.1 same.symm

/-- A sequence that begins with a keyword is refused where what follows is refused behind the run of
identifier characters ahead. -/
theorem foldedWord_bind_misses {α : Type} {fold : Char → Char} {word : String}
    {next : Unit → Parser α} {gap text : List Char} (isKeyword : IsKeyword fold word)
    (blank : IsGap gap) (starts : Stops isLayoutStart text)
    (refused : Misses (next ()) (text.dropWhile (foldsToIdentifier fold))) :
    Misses (foldedWord fold word >>= next) (gap ++ text) := by
  intro before
  rw [MissesFrom, Parser.bind_apply, foldedWord_apply isKeyword.2.1, skipLayout_gap blank starts]
  split
  · exact refused _
  · rfl

/-! ## Any layout in front -/

theorem stops_skipLayoutFrom (commented : Bool) (before : Option Char) (text : List Char) :
    Stops isLayoutStart (skipLayoutFrom commented before text).rest := by
  induction text generalizing commented before with
  | nil => rfl
  | cons c rest inductionHypothesis =>
      rw [skipLayoutFrom]
      split
      · exact inductionHypothesis _ _
      · split
        · exact inductionHypothesis _ _
        · rename_i notBlank
          split
          · exact inductionHypothesis _ _
          · rename_i noComment
            rw [Stops.cons_iff, isLayoutStart, Bool.or_eq_false_iff]
            exact ⟨Bool.eq_false_iff.2 notBlank, Bool.eq_false_iff.2 noComment⟩

theorem stops_skipLayout (place : Cursor) : Stops isLayoutStart place.skipLayout.rest :=
  stops_skipLayoutFrom false place.before place.rest

theorem skipLayout_skipLayout (place : Cursor) :
    place.skipLayout.skipLayout = place.skipLayout :=
  skipLayout_of_stops (stops_skipLayout place) _

/-- The parser does the same at a place and behind the layout there. -/
def PassesLayout {α : Type} (parser : Parser α) : Prop :=
  ∀ place, parser place = parser place.skipLayout

section PassesLayout

variable {α β : Type}

theorem lexeme_passes (scan : Scanner) : PassesLayout (lexeme scan) := by
  intro place
  simp only [lexeme, skipLayout_skipLayout]

theorem foldedWord_passes (fold : Char → Char) (word : String) :
    PassesLayout (foldedWord fold word) := by
  intro place
  simp only [foldedWord, skipLayout_skipLayout]

theorem PassesLayout.bind {parser : Parser α} {next : α → Parser β} (passes : PassesLayout parser) :
    PassesLayout (parser >>= next) := by
  intro place
  rw [Parser.bind_apply, Parser.bind_apply, passes]

theorem PassesLayout.map {parser : Parser α} (passes : PassesLayout parser) (change : α → β) :
    PassesLayout (change <$> parser) :=
  passes.bind

theorem PassesLayout.firstOf {parsers : List (Parser α)}
    (each : ∀ parser ∈ parsers, PassesLayout parser) : PassesLayout (Parser.firstOf parsers) := by
  intro place
  induction parsers with
  | nil => rfl
  | cons parser others inductionHypothesis =>
      rw [List.forall_mem_cons] at each
      simp only [Parser.firstOf, ← each.1 place, ← inductionHypothesis each.2]

theorem PassesLayout.missed {parser : Parser α} (passes : PassesLayout parser) {place : Cursor}
    (misses : Misses parser place.skipLayout.rest) : parser place = .missed := by
  rw [passes]
  exact misses place.skipLayout.before

theorem PassesLayout.matched {parser : Parser α} (passes : PassesLayout parser) {place : Cursor}
    {text rest : List Char} {value : α} (ahead : place.skipLayout.rest = text ++ rest)
    (reads : Reads parser text value rest) :
    ∃ next, next.rest = rest ∧ parser place = .matched value next := by
  obtain ⟨last, run⟩ := reads place.skipLayout.before
  refine ⟨⟨last, rest⟩, rfl, ?_⟩
  rw [passes, ← run, ← ahead]

end PassesLayout

end FactQuery.Grammar
