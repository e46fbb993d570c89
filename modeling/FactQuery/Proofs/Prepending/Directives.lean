import FactQuery.Proofs.Prepending.Turtle

/-!
# Directives in front of more text

The words `PREFIX` and `BASE` can also begin a prefixed name, so where a directive runs out of text
the other statements are tried at the same place.  They run out as well: the name would have to end
where the directive ends.
-/

set_option autoImplicit false

namespace FactQuery.Turtle

open FactQuery.Text FactQuery.Grammar FactQuery.Token

variable {more : List Char}

/-! ## Names that look like directives -/

/-- Whether only layout is ahead does not depend on the character just passed. -/
theorem atEnd_of_rest {one other : Cursor} (same : one.rest = other.rest) (ended : atEnd one) :
    atEnd other := by
  have free : ∀ text commented before before', (skipLayoutFrom commented before text).rest =
      (skipLayoutFrom commented before' text).rest := by
    intro text
    cases text with
    | nil => intros; rfl
    | cons c rest =>
        intro commented before before'
        simp only [skipLayoutFrom]
        split
        · rfl
        · split
          · rfl
          · split <;> rfl
  have nothing : (skipLayoutFrom false one.before one.rest).rest = [] := ended
  show (skipLayoutFrom false other.before other.rest).rest = []
  rw [← same, free one.rest false other.before one.before, nothing]

theorem skipLayout_ahead {place : Cursor} {c : Char} {rest : List Char}
    (ahead : place.rest = c :: rest) (noLayout : isLayoutStart c = false) :
    place.skipLayout.rest = c :: rest := by
  have starts : Stops isLayoutStart place.rest := by
    rw [ahead]
    exact Stops.cons_iff.2 noLayout
  rw [← ahead]
  exact congrArg Cursor.rest (skipLayout_of_stops starts place.before)

theorem not_atEnd {place : Cursor} {c : Char} {rest : List Char} (ahead : place.rest = c :: rest)
    (noLayout : isLayoutStart c = false) : ¬atEnd place := by
  intro ended
  have nothing : place.skipLayout.rest = [] := ended
  rw [skipLayout_ahead ahead noLayout] at nothing
  contradiction

theorem foldedWord_eq_matched {fold : Char → Char} {word : String} (isKeyword : IsKeyword fold word)
    {place next : Cursor} (run : foldedWord fold word place = .matched () next) :
    ∃ letters, place.skipLayout.rest = letters ++ next.rest ∧ letters.map fold = word.toList ∧
      (∀ c ∈ letters, foldsToIdentifier fold c = true) ∧
        Stops (foldsToIdentifier fold) next.rest := by
  rw [foldedWord_apply isKeyword.2.1] at run
  split at run
  · rename_i found
    cases run
    exact ⟨_, List.takeWhile_append_dropWhile.symm, found.2, List.all_eq_true.1 List.all_takeWhile,
      Stops.dropWhile _ _⟩
  · cases run

/-- The colon of a prefixed name stands behind the letters that the name begins with. -/
theorem exists_colon {letters rest token last : List Char} (noColon : ':' ∉ letters)
    (scanned : scanPrefixedName (letters ++ rest) = some (token, last)) :
    ∃ front localPart, (∀ c ∈ front, isLabelChar c = true) ∧ IsLocal localPart ∧
      rest = front ++ ':' :: (localPart.toList ++ last) := by
  obtain ⟨label, localPart, isLabel, isLocal, rfl, whole⟩ := scanPrefixedName_sound scanned
  rw [colonJoined, List.append_assoc, List.cons_append, List.append_eq_append_iff] at whole
  rcases whole with ⟨front, same, behind⟩ | ⟨front, same, behind⟩
  · refine ⟨front, localPart, fun c inside => ?_, isLocal, behind⟩
    exact isLabel.2 c (same ▸ List.mem_append_right letters inside)
  · cases front with
    | nil => exact ⟨[], localPart, by simp, isLocal, behind.symm⟩
    | cons c front =>
        obtain ⟨rfl, -⟩ := List.cons.inj behind
        exact absurd (same ▸ List.mem_append_right _ List.mem_cons_self) noColon

theorem label_eq_nil {label : String} {text rest : List Char} (isLabel : IsLabel label)
    (whole : text = label.toList ++ rest) (stops : Stops (foldsToIdentifier capital) text) :
    label.toList = [] := by
  cases letters : label.toList with
  | nil => rfl
  | cons c others =>
      have letter : c.isAlpha = true := by simpa [letters] using isLabel.1
      rw [whole, letters, List.cons_append, Stops.cons_iff,
        isIdentifierChar_capital (by simp [Char.isAlphanum, letter])] at stops
      contradiction

theorem atEnd_behind_local {localPart : String} {place next : Cursor} (isLocal : IsLocal localPart)
    (whole : place.rest = localPart.toList ++ next.rest) (ended : atEnd place) : atEnd next := by
  cases letters : localPart.toList with
  | nil =>
      rw [letters] at whole
      exact atEnd_of_rest whole ended
  | cons c others =>
      have starts : isLocalStart c = true := by simpa [letters] using isLocal.1
      rw [letters] at whole
      exact absurd ended (not_atEnd whole (isLayoutStart_eq_false (by decide) starts))

def endsBehindLabel : Site := fun place =>
  atEnd place ∨ ∃ label last, prefixLabel place = .matched label last ∧ atEnd last

/-- The word of a directive, at a place where the directive runs out of text. -/
structure CutShort (word : String) (place behind : Cursor) : Prop where
  isKeyword : IsKeyword capital word
  letter : word.toList.head? ≠ some '_'
  found : caselessKeyword word place = .matched () behind
  ended : endsBehindLabel behind

theorem CutShort.exists_letter {word : String} {place behind : Cursor}
    (cut : CutShort word place behind) :
    ∃ c rest, place.skipLayout.rest = c :: rest ∧ foldsToIdentifier capital c = true ∧ c ≠ '_' := by
  obtain ⟨letters, whole, folded, inside, -⟩ :=
    foldedWord_eq_matched cut.isKeyword cut.found
  cases letters with
  | nil => exact absurd folded.symm cut.isKeyword.1
  | cons c letters =>
      refine ⟨c, letters ++ behind.rest, whole, inside c List.mem_cons_self, ?_⟩
      rintro rfl
      apply cut.letter
      rw [← folded]
      rfl

/-- A name that is read there is a prefixed one. -/
theorem CutShort.exists_scanned {word : String} {place behind next : Cursor} {name : Iri}
    (cut : CutShort word place behind) (read : iri place = .matched name next) :
    ∃ token, scanPrefixedName place.skipLayout.rest = some (token, next.rest) := by
  obtain ⟨parser, known, run⟩ := exists_of_firstOf read
  simp only [List.mem_cons, List.not_mem_nil, or_false] at known
  rcases known with rfl | rfl
  · obtain ⟨value, middle, refRun, -⟩ := andThen_eq_matched run
    obtain ⟨token, last, scanned, -⟩ := andThen_eq_matched refRun
    obtain ⟨value, -, rfl, angle⟩ := scanIriRef_angled_sound (lexeme_eq_matched scanned).1
    obtain ⟨c, rest, ahead, letter, -⟩ := cut.exists_letter
    rw [ahead] at angle
    obtain ⟨rfl, -⟩ := List.cons.inj angle
    exact absurd letter (by decide)
  · obtain ⟨token, last, scanned, done⟩ := andThen_eq_matched run
    cases done
    exact ⟨token, (lexeme_eq_matched scanned).1⟩

theorem CutShort.atEnd_of_iri {word : String} {place behind next : Cursor} {name : Iri}
    (cut : CutShort word place behind) (read : iri place = .matched name next) : atEnd next := by
  obtain ⟨letters, whole, -, inside, stops⟩ := foldedWord_eq_matched cut.isKeyword cut.found
  have noColon : ':' ∉ letters := fun colon => absurd (inside ':' colon) (by decide)
  obtain ⟨token, scanned⟩ := cut.exists_scanned read
  rw [whole] at scanned
  obtain ⟨front, localPart, areLabel, isLocal, colon⟩ := exists_colon noColon scanned
  have ahead : behind.skipLayout.rest = behind.rest := by
    rw [colon]
    cases front with
    | nil => exact skipLayout_ahead colon rfl
    | cons c front =>
        have noLayout := isLayoutStart_eq_false (by decide) (areLabel c List.mem_cons_self)
        exact skipLayout_ahead colon noLayout
  rcases cut.ended with ended | ⟨label, last, labelled, ended⟩
  · have nothing : behind.skipLayout.rest = [] := ended
    rw [ahead, colon] at nothing
    simp at nothing
  · obtain ⟨token, stop, run, done⟩ := andThen_eq_matched labelled
    cases done
    obtain ⟨label, isLabel, rfl, labelEnds⟩ := scanPrefixLabel_sound (lexeme_eq_matched run).1
    rw [ahead, List.append_assoc] at labelEnds
    -- The word ends in front of the colon, so the label is empty and the name is the word.
    rw [label_eq_nil isLabel labelEnds stops, List.nil_append, List.singleton_append, colon]
      at labelEnds
    cases front with
    | nil => exact atEnd_behind_local isLocal (List.cons.inj labelEnds).2.symm ended
    | cons c front =>
        obtain ⟨rfl, -⟩ := List.cons.inj labelEnds
        exact absurd (areLabel ':' List.mem_cons_self) (by decide)

/-! ## Where triples do not begin -/

theorem properties_missesEnd : MissesEnd properties := by
  rw [properties_eq]
  exact (predicate_missesEnd.bind _).bind _

theorem nodes_refuse {place : Cursor} {c : Char} {rest : List Char}
    (ahead : place.skipLayout.rest = c :: rest) (noNode : (c == '_' || c == '[') = false) :
    blankLabel place = .missed ∧ bracketed properties place = .missed := by
  have starts := stops_skipLayout place
  rw [ahead] at starts
  have misses := nodes_miss properties IsGap.nil starts (Stops.cons_iff.2 noNode)
  rw [List.nil_append, ← ahead] at misses
  exact ⟨blankLabel_passes.missed misses.1, (bracketed_passes _).missed misses.2⟩

/-- Triples do not begin with a mark. -/
theorem triples_refuse_mark {place : Cursor} {rest : List Char}
    (ahead : place.skipLayout.rest = '@' :: rest) : triples place = .missed := by
  obtain ⟨noLabel, noBracket⟩ := nodes_refuse ahead rfl
  have noName : iri place = .missed := by
    have misses : Misses iri ([] ++ '@' :: rest) := iri_misses IsGap.nil rfl rfl
    rw [List.nil_append, ← ahead] at misses
    exact iri_passes.missed misses
  have noSubject : subject place = .missed :=
    (firstOf_missed (map_missed noName)).trans <| (firstOf_missed (map_missed noLabel)).trans <|
      firstOf_missed (map_missed noBracket)
  exact bind_missed noSubject

/-- No triples are stated where a directive runs out. -/
theorem CutShort.triples_slip {word : String} {place behind : Cursor}
    (cut : CutShort word place behind) : Slips nowhere True (triples place) := by
  cases read : triples place with
  | missed => trivial
  | aborted error stop => trivial
  | matched value last =>
      obtain ⟨about, next, subjectRun, propertiesRun⟩ := andThen_eq_matched read
      obtain ⟨stated, middle, statedRun, stopRun⟩ := andThen_eq_matched propertiesRun
      obtain ⟨_, closed, dotRun, -⟩ := andThen_eq_matched stopRun
      have ended : atEnd next := by
        obtain ⟨c, rest, ahead, letter, noUnderscore⟩ := cut.exists_letter
        have noBracket : c ≠ '[' := by
          rintro rfl
          exact absurd letter (by decide)
        have noNode := nodes_refuse ahead (by simp [noUnderscore, noBracket])
        obtain ⟨parser, known, run⟩ := exists_of_firstOf subjectRun
        simp only [List.mem_cons, List.not_mem_nil, or_false] at known
        rcases known with rfl | rfl | rfl
        · obtain ⟨name, stop, read, done⟩ := andThen_eq_matched run
          cases done
          exact cut.atEnd_of_iri read
        · rw [map_missed noNode.1] at run
          contradiction
        · rw [map_missed noNode.2] at run
          contradiction
      rw [optional_missed (properties_missesEnd next ended)] at statedRun
      cases statedRun
      rw [symbol_missesEnd (by decide) next ended] at dotRun
      contradiction

/-! ## Directives -/

def marked (word : String) : Site :=
  fun place => atEnd place ∨ ∃ rest, place.skipLayout.rest = word.toList ++ rest

def endsEarly (word : String) : Site :=
  fun place => atEnd place ∨ ∃ behind, CutShort word place behind

theorem Slips.firstOf {α : Type} {parsers : List (Parser α)} {place : Cursor}
    (each : ∀ parser ∈ parsers, Slips nowhere True (parser place)) :
    Slips nowhere True (Parser.firstOf parsers place) := by
  induction parsers with
  | nil => trivial
  | cons parser others inductionHypothesis =>
      rw [List.forall_mem_cons] at each
      have here := each.1
      simp only [Parser.firstOf]
      generalize parser place = outcome at here ⊢
      cases outcome with
      | matched value next => exact here.elim
      | missed => exact inductionHypothesis each.2
      | aborted error stop => trivial

theorem caselessKeyword_refuses_mark {word : String} (isKeyword : IsKeyword capital word)
    {place : Cursor} {rest : List Char} (ahead : place.skipLayout.rest = '@' :: rest) :
    caselessKeyword word place = .missed := by
  have stops : Stops (foldsToIdentifier capital) ('@' :: rest) := Stops.cons_iff.2 (by decide)
  have misses : Misses (caselessKeyword word) ([] ++ '@' :: rest) :=
    foldedWord_misses_of_stops isKeyword IsGap.nil rfl stops
  rw [List.nil_append, ← ahead] at misses
  exact (foldedWord_passes _ _).missed misses

section Alternatives

variable {word : String} {place : Cursor}

theorem atEnd.triples_slip (ended : atEnd place) : Slips nowhere True (triples place) := by
  rw [triples_missesEnd place ended]
  trivial

theorem marked.triples_slip {others : List Char} (isMarked : marked word place)
    (same : word.toList = '@' :: others) : Slips nowhere True (triples place) := by
  rcases isMarked with ended | ⟨rest, ahead⟩
  · exact atEnd.triples_slip ended
  · rw [same] at ahead
    rw [triples_refuse_mark ahead]
    trivial

theorem endsEarly.triples_slip (early : endsEarly word place) :
    Slips nowhere True (triples place) := by
  rcases early with ended | ⟨behind, cut⟩
  · exact atEnd.triples_slip ended
  · exact cut.triples_slip

theorem marked.baseDirective_refuses (isMarked : marked "@prefix" place) :
    baseDirective place = .missed := by
  rcases isMarked with ended | ⟨rest, ahead⟩
  · exact baseDirective_missesEnd place ended
  · have noMark : symbol "@base" place = .missed := by
      have refused : exactly "@base".toList ("@prefix".toList ++ rest) = none := rfl
      show (lexeme (exactly "@base".toList) place).andThen _ = .missed
      simp only [lexeme, ahead, refused]
      rfl
    have noWord : caselessKeyword "BASE" place = .missed :=
      caselessKeyword_refuses_mark (by decide) ahead
    exact (firstOf_missed (bind_missed noMark)).trans (firstOf_missed (bind_missed noWord))

theorem endsEarly.baseDirective_refuses (early : endsEarly "PREFIX" place) :
    baseDirective place = .missed := by
  rcases early with ended | ⟨behind, cut⟩
  · exact baseDirective_missesEnd place ended
  · obtain ⟨c, rest, ahead, letter, -⟩ := cut.exists_letter
    have noMark : symbol "@base" place = .missed := by
      have unmarked : c ≠ '@' := by
        rintro rfl
        exact absurd letter (by decide)
      have barred : barring (fun d => d == '@') place :=
        barring_of_ahead ahead (by simp [unmarked])
      exact symbol_refuses (by decide) barred
    have noWord : caselessKeyword "BASE" place = .missed := by
      have found := cut.found
      rw [caselessKeyword, foldedWord_apply cut.isKeyword.2.1] at found
      rw [caselessKeyword, foldedWord_apply (by decide : IsKeyword capital "BASE").2.1]
      split at found
      · rename_i isPrefix
        rw [isPrefix.2, if_neg]
        exact fun both => absurd both.2 (by decide)
      · cases found
    exact (firstOf_missed (bind_missed noMark)).trans (firstOf_missed (bind_missed noWord))

end Alternatives

section Directives

variable {α : Type}

theorem iriRef_stop_withstands (value : String → α) :
    Withstands more (do
      let name ← iriRef
      symbol "."
      return value name) nowhere anywhere := by
  have stop : Withstands more (symbol ".") nowhere atEnd := Withstands.symbol (by decide)
  exact iriRef_withstands.bind_tight (fun name => stop.map _) (fun _ _ => trivial)
    fun _ _ _ _ _ => trivial

/-- A directive begins with a mark and its word, or with the word in either case. -/
theorem directive_withstands {mark word : String} {others : List Char} {doubtful doubtful' : Site}
    {byMark byWord : Unit → Parser α} (isSymbol : isSymbol mark = true)
    (same : mark.toList = '@' :: others) (isKeyword : IsKeyword capital word)
    (markLater : Withstands more (byMark ()) nowhere anywhere)
    (wordLater : Withstands more (byWord ()) nowhere doubtful')
    (leads : ∀ place behind, caselessKeyword word place = .matched () behind → doubtful' behind →
      CutShort word place behind)
    (marks : ∀ place, marked mark place → doubtful place)
    (words : ∀ place, endsEarly word place → doubtful place) :
    Withstands more (Parser.firstOf [symbol mark >>= byMark, caselessKeyword word >>= byWord])
      nowhere doubtful := by
  have marking : Withstands more (symbol mark >>= byMark) nowhere (marked mark) :=
    (Withstands.symbol isSymbol).bind_tight (fun _ => markLater) (fun _ => Or.inl)
      fun _ _ behind run _ => Or.inr ⟨behind.rest, symbol_eq_matched run⟩
  have wording : Withstands more (caselessKeyword word >>= byWord) nowhere (endsEarly word) :=
    (Withstands.foldedWord isTame_capital isKeyword).bind_tight (fun _ => wordLater)
      (fun _ => Or.inl) fun place _ behind run ended =>
        Or.inr ⟨behind, leads place behind run ended⟩
  refine .firstOf_cons marking (.firstOf_cons wording .firstOf_nil fun place _ => words place) ?_
  intro place _ isMarked
  have noWord : caselessKeyword word place = .missed := by
    rcases isMarked with ended | ⟨rest, ahead⟩
    · exact foldedWord_missesEnd isKeyword.1 place ended
    · rw [same] at ahead
      exact caselessKeyword_refuses_mark isKeyword ahead
  rw [firstOf_missed (bind_missed noWord)]
  exact marks place isMarked

end Directives

theorem baseDirective_withstands :
    Withstands more baseDirective nowhere fun place => Slips nowhere True (triples place) := by
  refine directive_withstands (by decide) rfl (by decide) (iriRef_stop_withstands _)
    (iriRef_withstands.map _) ?_ ?_ ?_
  · intro place behind run ended
    exact ⟨by decide, by decide, run, Or.inl ended⟩
  · intro place isMarked
    exact isMarked.triples_slip rfl
  · intro place early
    exact early.triples_slip

theorem declaration_withstands :
    Withstands more declaration nowhere fun place =>
      Slips nowhere True (Parser.firstOf [baseDirective, triples] place) := by
  have byWord : Withstands more (do
      let label ← prefixLabel
      let name ← iriRef
      return Statement.declare label name) nowhere endsBehindLabel :=
    prefixLabel_withstands.bind_tight (fun label => iriRef_withstands.map _) (fun _ => Or.inl)
      fun place label last run ended => Or.inr ⟨label, last, run, ended⟩
  refine directive_withstands (by decide) rfl (by decide)
    (prefixLabel_withstands.bind_tight (fun label => iriRef_stop_withstands _) (fun _ _ => trivial)
      fun _ _ _ _ _ => trivial) byWord ?_ ?_ ?_
  · intro place behind run ended
    exact ⟨by decide, by decide, run, ended⟩
  · intro place isMarked
    rw [firstOf_missed isMarked.baseDirective_refuses]
    exact Slips.firstOf (by simpa using isMarked.triples_slip rfl)
  · intro place early
    rw [firstOf_missed early.baseDirective_refuses]
    exact Slips.firstOf (by simpa using early.triples_slip)

/-- A statement that is matched is matched again with more text behind. -/
theorem statement_withstands : Withstands more statement nowhere anywhere := by
  have stated : Withstands more (Parser.firstOf [triples]) nowhere anywhere :=
    .firstOf_cons triples_withstand .firstOf_nil fun _ _ _ => trivial
  have based : Withstands more (Parser.firstOf [baseDirective, triples]) nowhere anywhere := by
    refine .firstOf_cons baseDirective_withstands stated fun place _ slips => ?_
    exact (Slips.firstOf (by simpa using slips)).mono (fun _ => id) fun _ => trivial
  exact .firstOf_cons declaration_withstands based
    fun place _ slips => slips.mono (fun _ => id) fun _ => trivial

end FactQuery.Turtle
