import FactQuery.Proofs.Prepending.Directives

/-!
# Statements in front of more text

A text that is read to its end has its statements read again when another text stands behind it, and
the reading goes on as the other text is read by itself.  The place where it goes on has a line feed
in front of it where the other text has nothing, and statements do not tell the two apart.
-/

set_option autoImplicit false

namespace FactQuery.Grammar

open FactQuery.Text

variable {α β : Type}

/-! ## The same ahead -/

/-- Behind the layout the same text is ahead, and a word may begin at the one place if it may at the
other. -/
structure SameAhead (place again : Cursor) : Prop where
  rest : place.skipLayout.rest = again.skipLayout.rest
  neighbour : SameNeighbour place.skipLayout.before again.skipLayout.before

theorem SameAhead.start {place : Cursor} {text : List Char}
    (onLine : place.skipLayout = skipLayoutFrom false (some '\n') text) :
    SameAhead place (Cursor.start text) := by
  suffices same : (skipLayoutFrom false (some '\n') text).rest =
      (skipLayoutFrom false none text).rest ∧ SameNeighbour
        (skipLayoutFrom false (some '\n') text).before (skipLayoutFrom false none text).before by
    rw [← onLine] at same
    exact ⟨same.1, same.2⟩
  have unmoved : SameNeighbour (some '\n') none := Or.inr ⟨rfl, rfl⟩
  cases text with
  | nil => exact ⟨rfl, unmoved⟩
  | cons c rest =>
      simp only [skipLayoutFrom]
      split
      · exact ⟨rfl, Or.inl rfl⟩
      · split
        · exact ⟨rfl, Or.inl rfl⟩
        · split
          · exact ⟨rfl, Or.inl rfl⟩
          · exact ⟨rfl, unmoved⟩

/-- The parser does the same wherever the same is ahead. -/
def SeesAhead (parser : Parser α) : Prop :=
  ∀ place again, SameAhead place again → parser place = parser again

namespace SeesAhead

theorem bind {parser : Parser α} (sees : SeesAhead parser) (next : α → Parser β) :
    SeesAhead (parser >>= next) := by
  intro place again same
  rw [Parser.bind_apply, Parser.bind_apply, sees place again same]

theorem map {parser : Parser α} (sees : SeesAhead parser) (change : α → β) :
    SeesAhead (change <$> parser) :=
  sees.bind _

theorem firstOf {parsers : List (Parser α)} (each : ∀ parser ∈ parsers, SeesAhead parser) :
    SeesAhead (Parser.firstOf parsers) := by
  intro place again same
  induction parsers with
  | nil => rfl
  | cons parser others inductionHypothesis =>
      rw [List.forall_mem_cons] at each
      simp only [Parser.firstOf, each.1 place again same, inductionHypothesis each.2]

/-- A token hides the character in front of it. -/
theorem past_eq (place again : Cursor) {taken : List Char} (nonempty : taken ≠ [])
    (rest : List Char) : place.past taken rest = again.past taken rest := by
  simp only [Cursor.past, List.getLast?_eq_some_getLast nonempty, Option.some_or]

theorem lexeme {scan : Scanner} (stays : StaysInside scan) : SeesAhead (Grammar.lexeme scan) := by
  intro place again same
  simp only [Grammar.lexeme, same.rest]
  cases scanned : scan again.skipLayout.rest with
  | none => rfl
  | some found =>
      obtain ⟨token, rest⟩ := found
      have nonempty := (stays.splits _ token rest scanned).2
      simp only [past_eq place.skipLayout again.skipLayout nonempty rest]

theorem symbol {text : String} (isSymbol : isSymbol text = true) : SeesAhead (symbol text) :=
  (lexeme (scansTokens_exactly isSymbol).toStaysInside).bind _

theorem foldedWord {fold : Char → Char} {word : String} (tame : IsTame fold)
    (isKeyword : IsKeyword fold word) : SeesAhead (foldedWord fold word) := by
  have run : SeesAhead (Grammar.lexeme (scanRun (foldsToIdentifier fold))) :=
    lexeme (scansTokens_scanRun tame).toStaysInside
  intro place again same
  rw [foldedWord_eq isKeyword, foldedWord_eq isKeyword, same.neighbour.isBoundary_eq tame,
    run place again same]

end SeesAhead

/-! ## Rows -/

section Rows

variable {parser : Parser α} {place middle last : Cursor} {value : α} {values : List α}

theorem many_matched (advances : Advances parser) (run : parser place = .matched value middle) :
    Parser.many parser place = (Parser.many parser middle).andThen fun values last =>
      .matched (value :: values) last := by
  have here : Below (place.rest.length + 1) place := Nat.lt_succ_self _
  have fewer : middle.rest.length < place.rest.length :=
    (advances.takes _).leaves place here value middle run
  obtain ⟨bound, enough⟩ : ∃ bound, place.rest.length = bound + 1 :=
    Nat.exists_eq_succ_of_ne_zero (by omega)
  have further : Parser.manyWithin parser bound middle = Parser.many parser middle :=
    manyWithin_eq advances (by omega) (Nat.le_refl _)
  rw [Parser.many, enough]
  simp only [Parser.manyWithin, run, further]

theorem many_aborted {error : EscapeError} {stop : Cursor} (advances : Advances parser)
    (run : parser place = .aborted error stop) :
    Parser.many parser place = .aborted error stop := by
  have ahead : place.rest.length ≠ 0 := by
    intro nothing
    have ended : place.skipLayout.rest = [] := by
      rw [Cursor.skipLayout, List.length_eq_zero_iff.1 nothing]
      rfl
    rw [advances.ends place ended] at run
    cases run
  obtain ⟨bound, enough⟩ := Nat.exists_eq_succ_of_ne_zero ahead
  simp only [Parser.many, enough, Parser.manyWithin, run]

theorem many_ne_missed (parser : Parser α) (place : Cursor) :
    Parser.many parser place ≠ .missed := by
  have within : ∀ bound place, Parser.manyWithin parser bound place ≠ .missed := by
    intro bound
    induction bound with
    | zero => exact fun _ missed => by cases missed
    | succ bound inductionHypothesis =>
        intro place missed
        simp only [Parser.manyWithin] at missed
        split at missed
        · rename_i value next _
          cases later : Parser.manyWithin parser bound next with
          | matched values last => simp [later, Outcome.andThen] at missed
          | missed => exact inductionHypothesis next later
          | aborted error stop => simp [later, Outcome.andThen] at missed
        · cases missed
        · cases missed
  exact within _ place

theorem runs_of_many (read : Parser.many parser place = .matched values last) :
    Runs parser place values last := by
  have within : ∀ bound {place values},
      Parser.manyWithin parser bound place = .matched values last →
        Runs parser place values last := by
    intro bound
    induction bound with
    | zero =>
        intro place values read
        cases read
        exact .stay last
    | succ bound inductionHypothesis =>
        intro place values read
        simp only [Parser.manyWithin] at read
        split at read
        · rename_i value next run
          obtain ⟨others, stop, later, done⟩ := andThen_eq_matched read
          cases done
          exact .step run (inductionHypothesis later)
        · cases read
          exact .stay last
        · cases read
  exact within _ read

theorem Runs.many (advances : Advances parser) (runs : Runs parser place values middle) :
    Parser.many parser place = (Parser.many parser middle).andThen fun later last =>
      .matched (values ++ later) last := by
  induction runs with
  | stay place =>
      cases Parser.many parser place <;> rfl
  | step run later inductionHypothesis =>
      rw [many_matched advances run, inductionHypothesis]
      generalize Parser.many parser _ = outcome
      cases outcome <;> rfl

/-- Two rows where the same is ahead: one reading, or there is nothing to read for either. -/
theorem SeesAhead.many (sees : SeesAhead parser) (advances : Advances parser) {again : Cursor}
    (same : SameAhead place again) :
    Parser.many parser place = Parser.many parser again ∨
      Parser.many parser place = .matched [] place ∧
        Parser.many parser again = .matched [] again := by
  have once := sees place again same
  cases run : parser again with
  | matched value next =>
      rw [run] at once
      left
      rw [many_matched advances once, many_matched advances run]
  | missed =>
      rw [run] at once
      exact Or.inr ⟨many_missed once, many_missed run⟩
  | aborted error stop =>
      rw [run] at once
      left
      rw [many_aborted advances once, many_aborted advances run]

variable {more : List Char} {doubtful : Site}

/-- What is matched without a slip is matched again with more text behind. -/
theorem Withstands.matched (withstands : Withstands more parser nowhere doubtful)
    (endsLine : place.EndsLine) (run : parser place = .matched value middle) :
    parser (place.extend more) = .matched value (middle.extend more) ∧ middle.EndsLine := by
  have both := withstands place endsLine
  rw [run] at both
  generalize parser (place.extend more) = other at both ⊢
  cases both with
  | matched nextEnds => exact ⟨rfl, nextEnds⟩
  | slipped slips => exact slips.elim

theorem Withstands.runs (withstands : Withstands more parser nowhere doubtful)
    (runs : Runs parser place values last) (endsLine : place.EndsLine) :
    Runs parser (place.extend more) values (last.extend more) ∧ last.EndsLine := by
  induction runs with
  | stay place => exact ⟨.stay _, endsLine⟩
  | step run later inductionHypothesis =>
      obtain ⟨again, nextEnds⟩ := withstands.matched endsLine run
      obtain ⟨further, lastEnds⟩ := inductionHypothesis nextEnds
      exact ⟨.step again further, lastEnds⟩

end Rows

end FactQuery.Grammar

namespace FactQuery.Turtle

open FactQuery.Text FactQuery.Grammar FactQuery.Token

theorem iri_seesAhead : SeesAhead iri := by
  have full : SeesAhead iriRef := (SeesAhead.lexeme scanIriRef_staysInside).bind _
  have short : SeesAhead prefixedName := (SeesAhead.lexeme scanPrefixedName_staysInside).bind _
  refine .firstOf ?_
  simp only [List.forall_mem_cons]
  exact ⟨full.bind _, short, by simp⟩

theorem statement_seesAhead : SeesAhead statement := by
  have directive : ∀ {α : Type} {mark word : String} {byMark byWord : Unit → Parser α},
      isSymbol mark = true → IsKeyword capital word →
      SeesAhead (Parser.firstOf [symbol mark >>= byMark, caselessKeyword word >>= byWord]) := by
    intro α mark word byMark byWord isSymbol isKeyword
    refine .firstOf ?_
    simp only [List.forall_mem_cons]
    exact ⟨(SeesAhead.symbol isSymbol).bind _,
      (SeesAhead.foldedWord isTame_capital isKeyword).bind _, by simp⟩
  have labelled : SeesAhead blankLabel := (SeesAhead.lexeme scanBlankLabel_staysInside).bind _
  have inBrackets : SeesAhead (bracketed properties) := (SeesAhead.symbol (by decide)).bind _
  have about : SeesAhead subject := by
    refine .firstOf ?_
    simp only [List.forall_mem_cons]
    exact ⟨iri_seesAhead.map _, labelled.map _, inBrackets.map _, by simp⟩
  refine .firstOf ?_
  simp only [List.forall_mem_cons]
  exact ⟨directive (by decide) (by decide), directive (by decide) (by decide), about.bind _,
    by simp⟩

/-- Behind a text that ends its last line and has been read to its end, statements are read as if
there were nothing in front. -/
theorem statements_behind {front : List Char} {found : List Statement} {last : Cursor}
    (endsLine : (Cursor.start front).EndsLine)
    (read : statements (Cursor.start front) = .matched found last) (ended : atEnd last)
    (text : List Char) :
    ∃ place, SameAhead place (Cursor.start text) ∧
      statements (Cursor.start (front ++ text)) =
        (statements place).andThen fun later next => .matched (found ++ later) next := by
  have advances : Advances statement := ⟨statement_takes, statement_missesEnd⟩
  have withstands : Withstands text statement nowhere anywhere := statement_withstands
  obtain ⟨runs, lastEnds⟩ := withstands.runs (runs_of_many read) endsLine
  refine ⟨last.extend text, .start ?_, runs.many advances⟩
  rcases lastEnds.skipLayout text with ⟨-, onLine⟩ | ⟨before, left, here, -⟩
  · exact onLine
  · have nothing : last.skipLayout.rest = [] := ended
    simp [here] at nothing

end FactQuery.Turtle
