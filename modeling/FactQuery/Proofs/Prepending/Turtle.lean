import FactQuery.Proofs.Layout.Turtle
import FactQuery.Proofs.Prepending.Tokens
import FactQuery.Proofs.Turtle.LiteralPlace

/-!
# Statements in front of more text

Behind a slip no full stop can follow, and no semicolon or closing bracket either.  So a statement
that is matched in the first text has not slipped on its way, and is matched again with more text
behind.
-/

set_option autoImplicit false

namespace FactQuery.Turtle

open FactQuery.Text FactQuery.Grammar FactQuery.Token

variable {more : List Char}

def isCloser (c : Char) : Bool :=
  c == ';' || c == '.' || c == ']'

def isSeparator (c : Char) : Bool :=
  c == ',' || isCloser c

def isMark (c : Char) : Bool :=
  isSuffixFront c || isSeparator c

def isBareFront (c : Char) : Bool :=
  isNumberFront c || foldsToIdentifier id c

def isLiteralFront (c : Char) : Bool :=
  isQuote c || isBareFront c

theorem barring_separators {place : Cursor} (barred : barring isMark place) :
    barring isSeparator place :=
  barred.mono fun c separator => by simp [isMark, separator]

theorem barring_closers {place : Cursor} (barred : barring isSeparator place) :
    barring isCloser place :=
  barred.mono fun c closer => by simp [isSeparator, closer]

/-! ## Terms -/

theorem blankLabel_withstands : Withstands more blankLabel nowhere atEnd :=
  (Withstands.lexeme scanBlankLabel_staysInside).map _

theorem keyword_withstands {word : String} (isKeyword : IsKeyword id word) :
    Withstands more (keyword word) nowhere atEnd :=
  Withstands.foldedWord isTame_id isKeyword

theorem numberText_missesEnd {scan : Scanner}
    (known : scan ∈ [scanDouble, scanDecimal, scanInteger]) : MissesEnd (numberText scan) := by
  refine (lexeme_missesEnd ?_).bind _
  simp only [List.mem_cons, List.not_mem_nil, or_false] at known
  rcases known with rfl | rfl | rfl <;> rfl

theorem number_missesEnd : MissesEnd number := by
  refine .firstOf ?_
  simp only [List.forall_mem_cons]
  exact ⟨(numberText_missesEnd (by simp)).bind _, (numberText_missesEnd (by simp)).bind _,
    (numberText_missesEnd (by simp)).bind _, by simp⟩

theorem number_withstands : Withstands more number nowhere atEnd := by
  have each : ∀ scan ∈ [scanDouble, scanDecimal, scanInteger],
      Withstands more (numberText scan) nowhere atEnd ∧ MissesEnd (numberText scan) :=
    fun scan known =>
      ⟨(Withstands.lexeme (number_staysInside known)).map _, numberText_missesEnd known⟩
  simp only [List.forall_mem_cons] at each
  refine .firstOf_tokens ?_
  simp only [List.forall_mem_cons]
  exact ⟨⟨each.1.1.map _, each.1.2.bind _⟩, ⟨each.2.1.1.map _, each.2.1.2.bind _⟩,
    ⟨each.2.2.1.1.map _, each.2.2.1.2.bind _⟩, by simp⟩

theorem boolean_withstands : Withstands more boolean nowhere atEnd := by
  refine .firstOf_tokens ?_
  simp only [List.forall_mem_cons]
  exact ⟨⟨(keyword_withstands (by decide)).map _, (foldedWord_missesEnd (by decide)).bind _⟩,
    ⟨(keyword_withstands (by decide)).map _, (foldedWord_missesEnd (by decide)).bind _⟩, by simp⟩

theorem boolean_missesEnd : MissesEnd boolean := by
  refine .firstOf ?_
  simp only [List.forall_mem_cons]
  exact ⟨(foldedWord_missesEnd (by decide)).bind _, (foldedWord_missesEnd (by decide)).bind _,
    by simp⟩

theorem predicate_missesEnd : MissesEnd predicate := by
  refine .firstOf ?_
  simp only [List.forall_mem_cons]
  exact ⟨iri_missesEnd, (foldedWord_missesEnd (by decide)).bind _, by simp⟩

theorem predicate_withstands : Withstands more predicate nowhere atEnd := by
  refine .firstOf_tokens ?_
  simp only [List.forall_mem_cons]
  exact ⟨⟨iri_withstands, iri_missesEnd⟩, ⟨(keyword_withstands (by decide)).map _,
    (foldedWord_missesEnd (by decide)).bind _⟩, by simp⟩

/-- What follows a string that has slipped is the quote of another one. -/
theorem quotedLiteral_withstands :
    Withstands more quotedLiteral (barring isSeparator) (barring isBareFront) := by
  have text : Withstands more quotedText (barring isMark) (barring isBareFront) :=
    quotedText_withstands (by decide) (by decide)
  have suffix : Withstands more (Parser.optional literalSuffix) (barring isSeparator) nowhere :=
    ((literalSuffix_withstands (by decide)).mono (fun _ isLoose => isLoose.elim)
      fun _ => id).optional fun _ => id
  refine text.bind (fun value => suffix.bind (fun found => ?_) (fun _ => id)
    (fun _ _ _ _ isDoubtful => isDoubtful) ?_) (fun _ => id)
    (fun _ _ _ _ isDoubtful => isDoubtful.elim) ?_
  · rcases found with _ | (tag | name) <;> exact .pure _
  · intro place found behind _ barred
    rcases found with _ | (tag | name) <;> exact barred
  · intro place value behind _ barred
    have refused := literalSuffix_refuses rfl rfl barred
    simp only [Parser.bind_apply, optional_missed refused, Outcome.andThen]
    exact barring_separators barred

/-! ## Where literals do not begin -/

theorem number_passes : PassesLayout number := by
  refine PassesLayout.firstOf ?_
  simp only [List.forall_mem_cons]
  exact ⟨(lexeme_passes _).bind.bind, (lexeme_passes _).bind.bind, (lexeme_passes _).bind.bind,
    by simp⟩

theorem boolean_passes : PassesLayout boolean := by
  refine PassesLayout.firstOf ?_
  simp only [List.forall_mem_cons]
  exact ⟨(foldedWord_passes _ _).bind, (foldedWord_passes _ _).bind, by simp⟩

section Refusals

variable {place : Cursor}

theorem bareLiterals_refuse (barred : barring isBareFront place) :
    Parser.firstOf [number, boolean] place = .missed := by
  have noNumber : barring isNumberFront place :=
    barred.mono fun c front => by simp [isBareFront, front]
  have noWord : barring (foldsToIdentifier id) place :=
    barred.mono fun c front => by simp [isBareFront, front]
  have starts := stops_skipLayout place
  have numberMisses : Misses number ([] ++ place.skipLayout.rest) :=
    numberChoice_misses (fun value datatype => Object.literal value none (some (.full datatype)))
      IsGap.nil starts noNumber
  have booleanMisses : Misses boolean ([] ++ place.skipLayout.rest) := by
    refine Misses.firstOf ?_
    simp only [List.forall_mem_cons]
    exact ⟨(foldedWord_misses_of_stops (by decide) IsGap.nil starts noWord).bind,
      (foldedWord_misses_of_stops (by decide) IsGap.nil starts noWord).bind, by simp⟩
  rw [firstOf_missed (number_passes.missed numberMisses)]
  exact firstOf_missed (boolean_passes.missed booleanMisses)

theorem literals_refuse (barred : barring isLiteralFront place) :
    Parser.firstOf [quotedLiteral, number, boolean] place = .missed := by
  have noQuote : barring isQuote place :=
    barred.mono fun c quote => by simp [isLiteralFront, quote]
  have stringMissed : quotedLiteral place = .missed :=
    bind_missed (quotedText_passes.missed
      (quotedText_misses IsGap.nil (stops_skipLayout place) noQuote))
  rw [firstOf_missed stringMissed]
  exact bareLiterals_refuse (barred.mono fun c front => by simp [isLiteralFront, front])

theorem barring_of_predicate {next : Cursor} {name : Iri}
    (run : predicate place = .matched name next) : barring isCloser place := by
  cases ahead : place.skipLayout.rest with
  | nil => exact barring_of_atEnd ahead
  | cons c rest =>
      refine barring_of_ahead ahead ?_
      by_contra closes
      rw [Bool.not_eq_false] at closes
      have outside : isNameFront c = false ∧ foldsToIdentifier id c = false := by
        simp only [isCloser, Bool.or_eq_true, beq_iff_eq] at closes
        rcases closes with (rfl | rfl) | rfl <;> decide
      have starts := stops_skipLayout place
      have passes : PassesLayout predicate := by
        refine PassesLayout.firstOf ?_
        simp only [List.forall_mem_cons]
        exact ⟨iri_passes, (foldedWord_passes _ _).bind, by simp⟩
      have missed : predicate place = .missed := by
        rw [ahead] at starts
        refine passes.missed (Misses.firstOf ?_)
        simp only [List.forall_mem_cons]
        rw [ahead]
        exact ⟨iri_misses IsGap.nil starts (Stops.cons_iff.2 outside.1),
          (foldedWord_misses_of_stops (by decide) IsGap.nil starts
            (Stops.cons_iff.2 outside.2)).bind, by simp⟩
      rw [missed] at run
      contradiction

end Refusals

/-! ## Properties -/

section Inside

variable {inner : Parser (List Property)}

theorem bracketed_withstands
    (withstands : Withstands more inner (barring isCloser) (barring isCloser)) :
    Withstands more (bracketed inner) nowhere (barring isLiteralFront) := by
  have closing : Withstands more (symbol "]") nowhere atEnd := Withstands.symbol (by decide)
  have stated : Withstands more (do
      let inside ← Parser.optional inner
      symbol "]"
      return inside.getD []) nowhere anywhere := by
    refine (withstands.optional fun _ => id).bind (fun inside => closing.bind_tight
      (fun _ => .pure _) (fun _ => id) fun _ _ _ _ isDoubtful => isDoubtful.elim)
      (fun _ _ => trivial) (fun _ _ _ _ _ => trivial) ?_
    intro place inside behind _ barred
    rw [bind_missed (symbol_refuses (by decide) barred)]
    trivial
  refine (Withstands.symbol (by decide)).bind_tight (fun _ => stated) (fun _ => barring_of_atEnd) ?_
  intro place _ behind run _
  exact barring_of_symbol run (by decide)

theorem object_withstands
    (withstands : Withstands more inner (barring isCloser) (barring isCloser)) :
    Withstands more (object inner) (barring isSeparator) anywhere := by
  have tight : ∀ place, nowhere place → barring isSeparator place := fun _ isLoose => isLoose.elim
  have stringEnds : MissesEnd quotedLiteral := quotedText_missesEnd.bind _
  have bare :
      Withstands more (Parser.firstOf [number, boolean]) (barring isSeparator) anywhere := by
    refine .firstOf_token (number_withstands.mono tight fun _ => id) (.firstOf_cons
      (boolean_withstands.mono tight fun _ => id) .firstOf_nil fun _ _ _ => trivial)
      (.firstOf ?_) fun _ _ => trivial
    simp only [List.forall_mem_singleton]
    exact boolean_missesEnd
  have literals : Withstands more (Parser.firstOf [quotedLiteral, number, boolean])
      (barring isSeparator) anywhere := by
    refine .firstOf_cons quotedLiteral_withstands bare fun place _ barred => ?_
    rw [bareLiterals_refuse barred]
    trivial
  have nodes : Withstands more (Parser.firstOf [.anonymous <$> bracketed inner, quotedLiteral,
      number, boolean]) (barring isSeparator) anywhere := by
    refine .firstOf_cons (((bracketed_withstands withstands).map _).mono tight fun _ => id) literals
      fun place _ barred => ?_
    rw [literals_refuse barred]
    trivial
  refine .firstOf_token ((iri_withstands.map _).mono tight fun _ => id) (.firstOf_token
    ((blankLabel_withstands.map _).mono tight fun _ => id) nodes (.firstOf ?_) fun _ _ => trivial)
    (.firstOf ?_) fun _ _ => trivial
  · simp only [List.forall_mem_cons]
    exact ⟨(bracketed_missesEnd _).map _, stringEnds, number_missesEnd, boolean_missesEnd, by simp⟩
  · simp only [List.forall_mem_cons]
    exact ⟨blankLabel_missesEnd.map _, (bracketed_missesEnd _).map _, stringEnds, number_missesEnd,
      boolean_missesEnd, by simp⟩

theorem objects_withstand (shrinks : Shrinks inner)
    (withstands : Withstands more inner (barring isCloser) (barring isCloser)) :
    Withstands more (Parser.separated1 (symbol ",") (object inner)) (barring isCloser)
      anywhere := by
  have objects := object_withstands withstands
  have item : Withstands more (do symbol ","; object inner) (barring isSeparator)
      (barring isCloser) := by
    refine (Withstands.symbol (by decide)).bind_tight (fun _ => objects)
      (fun _ => barring_of_atEnd) ?_
    intro place _ behind run _
    exact barring_of_symbol run (by decide)
  have refuses : ∀ place, barring isSeparator place →
      (do symbol ","; object inner : Parser Object) place = .missed :=
    fun _ barred => bind_missed (symbol_refuses (by decide) barred)
  have advances : Advances (do symbol ","; object inner) :=
    (symbol_advances (by decide)).bind fun _ => (object_takes shrinks).shrinks
  have row := item.many advances refuses (fun _ => barring_closers) fun _ => id
  refine objects.bind_onward (fun first => row.map _) ?_
  intro first behind barred
  refine ⟨[first], behind, ?_, barring_closers barred⟩
  rw [Parser.bind_apply, many_missed (refuses behind barred)]
  rfl

theorem propertyGroup_withstands (shrinks : Shrinks inner)
    (withstands : Withstands more inner (barring isCloser) (barring isCloser)) :
    Withstands more (propertyGroup inner) (barring isCloser) (barring isCloser) := by
  refine predicate_withstands.bind_tight (fun name => (objects_withstand shrinks withstands).map _)
    (fun _ => barring_of_atEnd) ?_
  intro place name behind run _
  exact barring_of_predicate run

theorem laterGroup_withstands (shrinks : Shrinks inner)
    (withstands : Withstands more inner (barring isCloser) (barring isCloser)) :
    Withstands more (laterGroup inner) (barring isCloser) atEnd :=
  (Withstands.symbol (by decide)).bind_tight
    (fun _ => (propertyGroup_withstands shrinks withstands).optional fun _ => id) (fun _ => id)
    fun _ _ _ _ isDoubtful => isDoubtful.elim

theorem propertyRule_withstands (shrinks : Shrinks inner)
    (withstands : Withstands more inner (barring isCloser) (barring isCloser)) :
    Withstands more (propertyRule inner) (barring isCloser) (barring isCloser) := by
  have refuses : ∀ place, barring isCloser place → laterGroup inner place = .missed :=
    fun _ barred => bind_missed (symbol_refuses (by decide) barred)
  have advances : Advances (laterGroup inner) :=
    ⟨laterGroup_takes shrinks, (symbol_missesEnd (by decide)).bind _⟩
  have later : Withstands more (Parser.many (laterGroup inner)) (barring isCloser) nowhere :=
    (laterGroup_withstands shrinks withstands).many advances refuses (fun _ => id)
      fun _ => barring_of_atEnd
  refine (propertyGroup_withstands shrinks withstands).bind_onward (fun first => later.map _) ?_
  intro first behind barred
  refine ⟨first, behind, ?_, barred⟩
  have halted := many_missed (refuses behind barred)
  rw [laterGroup] at halted
  rw [Parser.bind_apply, halted]
  simp [Outcome.andThen, Parser.pure_apply]

theorem properties_withstand : Withstands more properties (barring isCloser) (barring isCloser) :=
  Withstands.nested propertyRule_narrows Shrinks.missed
    (fun _ shrinks => propertyRule_narrows.shrinks shrinks)
    fun _ shrinks withstands => propertyRule_withstands shrinks withstands

end Inside

/-! ## Triples -/

theorem subject_withstands : Withstands more subject nowhere anywhere := by
  have node : Withstands more (Parser.firstOf [Subject.anonymous <$> bracketed properties]) nowhere
      anywhere :=
    .firstOf_cons ((bracketed_withstands properties_withstand).map _) .firstOf_nil
      fun _ _ _ => trivial
  refine .firstOf_token (iri_withstands.map _) (.firstOf_token (blankLabel_withstands.map _) node
    (.firstOf ?_) fun _ _ => trivial) (.firstOf ?_) fun _ _ => trivial
  · simp only [List.forall_mem_singleton]
    exact (bracketed_missesEnd _).map _
  · simp only [List.forall_mem_cons]
    exact ⟨blankLabel_missesEnd.map _, (bracketed_missesEnd _).map _, by simp⟩

/-- No full stop follows a slip, so triples that are matched have not slipped. -/
theorem triples_withstand : Withstands more triples nowhere anywhere := by
  have stop : Withstands more (symbol ".") nowhere atEnd := Withstands.symbol (by decide)
  have closed : ∀ about, Withstands more (do
      let stated ← Parser.optional properties
      symbol "."
      return Statement.triples about (stated.getD [])) nowhere anywhere := by
    refine fun about => (properties_withstand.optional fun _ => id).bind (fun stated =>
      stop.bind_tight (fun _ => .pure _) (fun _ => id) fun _ _ _ _ isDoubtful => isDoubtful.elim)
      (fun _ _ => trivial) (fun _ _ _ _ _ => trivial) ?_
    intro place stated behind _ barred
    rw [bind_missed (symbol_refuses (by decide) barred)]
    trivial
  exact subject_withstands.bind_tight closed (fun _ _ => trivial) fun _ _ _ _ _ => trivial

end FactQuery.Turtle
