import FactQuery.Proofs.Grammar.Ensures
import Mathlib.Data.List.Basic

/-!
# How deep a rule goes

A rule that refers to itself is unfolded a number of times, and the length of the text ahead gives
that number.  Each level takes a character before it comes to the next, so the levels never run out,
and what the rule refers to is the rule itself.
-/

set_option autoImplicit false

namespace FactQuery.Grammar

variable {α β : Type} {ahead middle behind : Nat}

def Below (size : Nat) (place : Cursor) : Prop :=
  place.rest.length < size

/-- Where fewer than `ahead` characters are left, both parsers do the same, and a match leaves fewer
than `behind`. -/
structure AgreeWithin (ahead behind : Nat) (one other : Parser α) : Prop where
  same : ∀ place, Below ahead place → one place = other place
  leaves : Ensures (Below ahead) one fun _ next => Below behind next

def Shrinks (parser : Parser α) : Prop :=
  ∀ size, AgreeWithin size size parser parser

def Takes (parser : Parser α) : Prop :=
  ∀ size, AgreeWithin (size + 1) size parser parser

namespace AgreeWithin

theorem refl {parser : Parser α} (leaves : Ensures (Below ahead) parser fun _ => Below behind) :
    AgreeWithin ahead behind parser parser :=
  ⟨fun _ _ => rfl, leaves⟩

theorem zero (one other : Parser α) : AgreeWithin 0 behind one other :=
  ⟨fun _ within => absurd within (Nat.not_lt_zero _),
    fun _ within => absurd within (Nat.not_lt_zero _)⟩

theorem weaken {one other : Parser α} (agree : AgreeWithin ahead middle one other)
    (le : middle ≤ behind) : AgreeWithin ahead behind one other :=
  ⟨agree.same, fun place within value next run =>
    Nat.lt_of_lt_of_le (agree.leaves place within value next run) le⟩

/-! ## Sequences and choices -/

theorem pure (value : α) :
    AgreeWithin ahead ahead (Pure.pure value : Parser α) (Pure.pure value) :=
  refl (Ensures.pure fun _ within => within)

theorem bind {one other : Parser α} {next later : α → Parser β}
    (first : AgreeWithin ahead middle one other)
    (second : ∀ value, AgreeWithin middle behind (next value) (later value)) :
    AgreeWithin ahead behind (one >>= next) (other >>= later) := by
  refine ⟨fun place within => ?_, first.leaves.bind fun value => (second value).leaves⟩
  rw [Parser.bind_apply, Parser.bind_apply, ← first.same place within]
  cases run : one place with
  | matched value last => exact (second value).same last (first.leaves place within value last run)
  | missed => rfl
  | aborted error stop => rfl

theorem map {one other : Parser α} (change : α → β) (agree : AgreeWithin ahead behind one other) :
    AgreeWithin ahead behind (change <$> one) (change <$> other) :=
  agree.bind fun value => pure (change value)

theorem firstOf_nil : AgreeWithin ahead behind (Parser.firstOf ([] : List (Parser α)))
    (Parser.firstOf []) :=
  refl Ensures.firstOf_nil

theorem firstOf_cons {one other : Parser α} {parsers others : List (Parser α)}
    (first : AgreeWithin ahead behind one other)
    (later : AgreeWithin ahead behind (Parser.firstOf parsers) (Parser.firstOf others)) :
    AgreeWithin ahead behind (Parser.firstOf (one :: parsers)) (Parser.firstOf (other :: others)) := by
  refine ⟨fun place within => ?_, Ensures.firstOf_cons first.leaves ?_⟩
  · simp only [Parser.firstOf, ← first.same place within, later.same place within]
  · exact fun place fulfilled => later.leaves place fulfilled.1

/-! ## Optional and repeated parts -/

theorem optional {one other : Parser α} (agree : AgreeWithin ahead ahead one other) :
    AgreeWithin ahead ahead (Parser.optional one) (Parser.optional other) := by
  refine ⟨fun place within => ?_, agree.leaves.optional fun _ within => within⟩
  simp only [Parser.optional, agree.same place within]

theorem many {one other : Parser α} (agree : AgreeWithin ahead ahead one other) :
    AgreeWithin ahead ahead (Parser.many one) (Parser.many other) := by
  have each : ∀ bound,
      AgreeWithin ahead ahead (Parser.manyWithin one bound) (Parser.manyWithin other bound) := by
    intro bound
    induction bound with
    | zero => exact pure []
    | succ bound inductionHypothesis =>
        have further := fun value => inductionHypothesis.map (value :: ·)
        refine ⟨fun place within => ?_, ?_⟩
        · simp only [Parser.manyWithin, ← agree.same place within]
          cases run : one place with
          | matched value next =>
              exact (further value).same next (agree.leaves place within value next run)
          | missed => rfl
          | aborted error stop => rfl
        · intro place within values last run
          simp only [Parser.manyWithin] at run
          split at run
          · rename_i value next first
            exact (further value).leaves next (agree.leaves place within value next first) values
              last run
          · cases run
            exact within
          · cases run
  exact ⟨fun place => (each _).same place, fun place => (each _).leaves place⟩

theorem separated1 {separator separator' : Parser Unit} {one other : Parser α}
    (separators : AgreeWithin ahead ahead separator separator')
    (agree : AgreeWithin ahead ahead one other) :
    AgreeWithin ahead ahead (Parser.separated1 separator one)
      (Parser.separated1 separator' other) :=
  agree.bind fun _ => (separators.bind fun _ => agree).many.bind fun _ => pure _

theorem leftChain {operator : Parser β} {combine : β → α → α → α} {one other : Parser α}
    (operators : AgreeWithin ahead ahead operator operator)
    (agree : AgreeWithin ahead ahead one other) :
    AgreeWithin ahead ahead (Parser.leftChain operator combine one)
      (Parser.leftChain operator combine other) :=
  agree.bind fun _ =>
    (operators.bind fun _ => agree.bind fun _ => pure _).many.bind fun _ => pure _

theorem firstOf_self {parsers : List (Parser α)}
    (each : ∀ parser ∈ parsers, AgreeWithin ahead behind parser parser) :
    AgreeWithin ahead behind (Parser.firstOf parsers) (Parser.firstOf parsers) :=
  refl (Ensures.firstOf fun parser inside => (each parser inside).leaves)

/-! ## Levels -/

variable {rule : Parser α → Parser α}

/-- A rule that comes to the next level only behind a character: what it refers to is looked at with
one character less ahead. -/
def Narrows (rule : Parser α → Parser α) : Prop :=
  ∀ size one other, AgreeWithin size size one other →
    AgreeWithin (size + 1) (size + 1) (rule one) (rule other)

theorem nestedWithin (narrows : Narrows rule) {size levels more : Nat} (enough : size ≤ levels)
    (enoughToo : size ≤ more) :
    AgreeWithin size size (Parser.nestedWithin rule levels) (Parser.nestedWithin rule more) := by
  induction size generalizing levels more with
  | zero => exact zero _ _
  | succ size inductionHypothesis =>
      obtain ⟨levels, rfl⟩ := Nat.exists_eq_add_of_le' enough
      obtain ⟨more, rfl⟩ := Nat.exists_eq_add_of_le' enoughToo
      have inner : AgreeWithin size size (Parser.nestedWithin rule (levels + size))
          (Parser.nestedWithin rule (more + size)) :=
        inductionHypothesis (by omega) (by omega)
      exact narrows size _ _ inner

/-- As many levels as there are characters ahead do the same as the levels that are counted at each
place anew. -/
theorem nested (narrows : Narrows rule) (size : Nat) :
    AgreeWithin size size (Parser.nestedWithin rule size) (Parser.nested rule) := by
  refine ⟨fun place within => ?_, (nestedWithin narrows (Nat.le_refl _) (Nat.le_refl _)).leaves⟩
  have here : Below (place.rest.length + 1) place := Nat.lt_succ_self _
  exact (nestedWithin narrows within (Nat.le_refl _)).same place here

end AgreeWithin

/-- A nested rule is the rule with itself inside. -/
theorem Parser.nested_eq {rule : Parser α → Parser α} (narrows : AgreeWithin.Narrows rule) :
    Parser.nested rule = rule (Parser.nested rule) := by
  funext place
  have within : Below (place.rest.length + 1) place := Nat.lt_succ_self _
  exact (narrows _ _ _ (AgreeWithin.nested narrows place.rest.length)).same place within

/-! ## Progress -/

theorem Shrinks.of_succ {parser : Parser α}
    (agree : ∀ size, AgreeWithin (size + 1) (size + 1) parser parser) : Shrinks parser := by
  intro size
  cases size with
  | zero => exact AgreeWithin.zero _ _
  | succ size => exact agree size

theorem Takes.shrinks {parser : Parser α} (takes : Takes parser) : Shrinks parser :=
  .of_succ fun size => (takes size).weaken (Nat.le_succ size)

theorem Shrinks.bind {parser : Parser α} {next : α → Parser β} (first : Shrinks parser)
    (second : ∀ value, Shrinks (next value)) : Shrinks (parser >>= next) :=
  fun size => (first size).bind fun value => second value size

theorem Takes.bind {parser : Parser α} {next : α → Parser β} (first : Takes parser)
    (second : ∀ value, Shrinks (next value)) : Takes (parser >>= next) :=
  fun size => (first size).bind fun value => second value size

theorem Takes.map {parser : Parser α} (change : α → β) (takes : Takes parser) :
    Takes (change <$> parser) :=
  fun size => (takes size).map change

theorem Shrinks.pure (value : α) : Shrinks (Pure.pure value : Parser α) :=
  fun _ => AgreeWithin.pure value

theorem Takes.firstOf {parsers : List (Parser α)} (each : ∀ parser ∈ parsers, Takes parser) :
    Takes (Parser.firstOf parsers) :=
  fun size => AgreeWithin.firstOf_self fun parser inside => each parser inside size

theorem Shrinks.optional {parser : Parser α} (shrinks : Shrinks parser) :
    Shrinks (Parser.optional parser) :=
  fun size => (shrinks size).optional

theorem Shrinks.many {parser : Parser α} (shrinks : Shrinks parser) :
    Shrinks (Parser.many parser) :=
  fun size => (shrinks size).many

theorem Takes.separated1 {separator : Parser Unit} {parser : Parser α}
    (separators : Shrinks separator) (takes : Takes parser) :
    Takes (Parser.separated1 separator parser) :=
  takes.bind fun _ => (separators.bind fun _ => takes.shrinks).many.bind fun _ => Shrinks.pure _

theorem Shrinks.nested {rule : Parser α → Parser α} (narrows : AgreeWithin.Narrows rule) :
    Shrinks (Parser.nested rule) := by
  refine fun size => AgreeWithin.refl fun place within value next run => ?_
  have levels := AgreeWithin.nested narrows size
  rw [← levels.same place within] at run
  exact levels.leaves place within value next run

theorem Shrinks.missed : Shrinks fun _ => (.missed : Outcome α) :=
  fun _ => AgreeWithin.refl fun _ _ _ _ run => by cases run

theorem AgreeWithin.Narrows.shrinks {rule : Parser α → Parser α} (narrows : Narrows rule)
    {inner : Parser α} (shrinks : Shrinks inner) : Shrinks (rule inner) :=
  .of_succ fun size => narrows size inner inner (shrinks size)

/-! ## Tokens -/

theorem length_skipLayoutFrom_le (commented : Bool) (before : Option Char) (text : List Char) :
    (skipLayoutFrom commented before text).rest.length ≤ text.length := by
  induction text generalizing commented before with
  | nil => exact Nat.le_refl 0
  | cons c rest inductionHypothesis =>
      have further : ∀ commented before,
          (skipLayoutFrom commented before rest).rest.length ≤ rest.length + 1 :=
        fun commented before => Nat.le_succ_of_le (inductionHypothesis commented before)
      rw [skipLayoutFrom, List.length_cons]
      split
      · exact further _ _
      · split
        · exact further _ _
        · split
          · exact further _ _
          · exact Nat.le_refl _

theorem Below.skipLayout {size : Nat} {place : Cursor} (within : Below size place) :
    Below size place.skipLayout :=
  Nat.lt_of_le_of_lt (length_skipLayoutFrom_le false place.before place.rest) within

def Shortens (scan : Scanner) : Prop :=
  ∀ text token rest, scan text = some (token, rest) → rest.length < text.length

/-- A parser that looks at the text behind the layout takes what it matches there. -/
theorem Takes.of_skipLayout {parser : Parser α}
    (shorter : ∀ place value next, parser place = .matched value next →
      next.rest.length < place.skipLayout.rest.length) : Takes parser := by
  refine fun size => AgreeWithin.refl fun place within value next run => ?_
  have fewer := shorter place value next run
  have here : Below (size + 1) place.skipLayout := within.skipLayout
  unfold Below at here ⊢
  omega

theorem Shortens.takes {scan : Scanner} (shortens : Shortens scan) : Takes (lexeme scan) :=
  .of_skipLayout fun _ token next run =>
    shortens _ token next.rest (lexeme_eq_matched run).1

theorem shortens_of_append {scan : Scanner}
    (sound : ∀ text token rest, scan text = some (token, rest) →
      text = token ++ rest ∧ token ≠ []) : Shortens scan := by
  intro text token rest scanned
  obtain ⟨rfl, nonempty⟩ := sound text token rest scanned
  have positive := List.length_pos_iff.2 nonempty
  rw [List.length_append]
  omega

theorem symbol_eq_matched {token : String} {place next : Cursor}
    (run : symbol token place = .matched () next) :
    place.skipLayout.rest = token.toList ++ next.rest := by
  obtain ⟨taken, behind, scanned, done⟩ := andThen_eq_matched run
  cases done
  obtain ⟨rest, found, same⟩ := Option.map_eq_some_iff.1 (lexeme_eq_matched scanned).1
  obtain ⟨rfl, rfl⟩ := Prod.mk.inj same
  exact (List.isPrefixOf?_eq_some_iff_append_eq.1 found).symm

theorem symbol_takes {token : String} (nonempty : token.toList ≠ []) : Takes (symbol token) := by
  refine .of_skipLayout fun place value next run => ?_
  have positive := List.length_pos_iff.2 nonempty
  rw [symbol_eq_matched run, List.length_append]
  omega

theorem oneOf_takes {tokens : List String} (nonempty : ∀ token ∈ tokens, token.toList ≠ []) :
    Takes (oneOf tokens) := by
  refine Takes.firstOf fun parser inside => ?_
  obtain ⟨token, known, rfl⟩ := List.mem_map.1 inside
  exact (symbol_takes (nonempty token known)).bind fun _ => Shrinks.pure token

theorem foldedWord_takes {fold : Char → Char} {word : String} (nonempty : word.toList ≠ []) :
    Takes (foldedWord fold word) := by
  refine .of_skipLayout fun place value next run => ?_
  simp only [foldedWord, scanFolded] at run
  split at run
  · rename_i taken rest scanned
    split at scanned
    · rename_i same
      split at run
      · obtain ⟨rfl, rfl⟩ := Prod.mk.inj (Option.some.inj scanned)
        cases run
        have size := congrArg List.length (beq_iff_eq.1 same)
        have positive := List.length_pos_iff.2 nonempty
        rw [List.length_map, List.length_take] at size
        simp only [Cursor.past, List.length_drop]
        omega
      · cases run
    · cases scanned
  · cases run

theorem scanRun_sound {belongs : Char → Bool} {text token rest : List Char}
    (scanned : scanRun belongs text = some (token, rest)) :
    text = token ++ rest ∧ token ≠ [] ∧ ∀ c ∈ token, belongs c = true := by
  simp only [scanRun] at scanned
  split at scanned
  · cases scanned
  · rename_i nonempty
    obtain ⟨rfl, rfl⟩ := Prod.mk.inj (Option.some.inj scanned)
    exact ⟨List.takeWhile_append_dropWhile.symm, by simpa using nonempty,
      List.all_eq_true.1 List.all_takeWhile⟩

theorem scanWord_sound {starts continues : Char → Bool} {text token rest : List Char}
    (scanned : scanWord starts continues text = some (token, rest)) :
    text = token ++ rest ∧ ∃ c more, token = c :: more ∧ starts c = true ∧
      ∀ d ∈ more, continues d = true := by
  cases text with
  | nil => cases scanned
  | cons c others =>
      rw [scanWord] at scanned
      split at scanned
      · rename_i start
        obtain ⟨rfl, rfl⟩ := Prod.mk.inj (Option.some.inj scanned)
        exact ⟨by rw [List.cons_append, List.takeWhile_append_dropWhile], c, _, rfl, start,
          List.all_eq_true.1 List.all_takeWhile⟩
      · cases scanned

theorem scanRun_shortens (belongs : Char → Bool) : Shortens (scanRun belongs) := by
  refine shortens_of_append fun text token rest scanned => ?_
  obtain ⟨whole, nonempty, -⟩ := scanRun_sound scanned
  exact ⟨whole, nonempty⟩

theorem scanWord_shortens (starts continues : Char → Bool) :
    Shortens (scanWord starts continues) := by
  refine shortens_of_append fun text token rest scanned => ?_
  obtain ⟨whole, c, more, rfl, -⟩ := scanWord_sound scanned
  exact ⟨whole, List.cons_ne_nil c more⟩

end FactQuery.Grammar
