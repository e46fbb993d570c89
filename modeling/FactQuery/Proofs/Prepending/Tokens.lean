import FactQuery.Proofs.Prepending.Withstands

/-!
# Tokens in front of more text

Names, numbers and keywords end on their line, so they never slip.  A string may: three quotes that
are not closed in the first text are an empty string with a quote behind it, and nothing of the
grammar begins there.
-/

set_option autoImplicit false

namespace FactQuery.Grammar

open FactQuery.Text FactQuery.Token

/-- The next token does not begin with a character of the class. -/
def barring (belongs : Char → Bool) : Site :=
  fun place => Stops belongs place.skipLayout.rest

section Barring

variable {belongs smaller : Char → Bool} {place : Cursor}

theorem barring_of_atEnd (ended : atEnd place) : barring belongs place := by
  have nothing : place.skipLayout.rest = [] := ended
  rw [barring, nothing]
  rfl

theorem barring_of_ahead {c : Char} {rest : List Char} (ahead : place.skipLayout.rest = c :: rest)
    (outside : belongs c = false) : barring belongs place := by
  rw [barring, ahead]
  exact Stops.cons_iff.2 outside

theorem barring.mono (barred : barring belongs place)
    (inside : ∀ c, smaller c = true → belongs c = true) : barring smaller place :=
  Stops.mono inside barred

theorem symbol_refuses {token : String}
    (front : token.toList.head?.any belongs = true) (barred : barring belongs place) :
    symbol token place = .missed := by
  have refused : exactly token.toList place.skipLayout.rest = none := by
    rw [barring] at barred
    cases same : token.toList with
    | nil => simp [same] at front
    | cons c others =>
        have isFront : belongs c = true := by simpa [same] using front
        cases ahead : place.skipLayout.rest with
        | nil => rfl
        | cons d rest =>
            rw [ahead, Stops.cons_iff] at barred
            refine exactly_eq_none others rest ?_
            rintro rfl
            rw [isFront] at barred
            contradiction
  show (lexeme (exactly token.toList) place).andThen _ = .missed
  simp only [lexeme, refused]
  rfl

theorem barring_of_symbol {token : String} {next : Cursor}
    (run : symbol token place = .matched () next)
    (front : (token.toList.head?.any fun c => !belongs c) = true) : barring belongs place := by
  have ahead := symbol_eq_matched run
  cases same : token.toList with
  | nil => simp [same] at front
  | cons c others =>
      rw [same] at ahead
      exact barring_of_ahead ahead (by simpa [same] using front)

end Barring

end FactQuery.Grammar

namespace FactQuery.Token

open FactQuery.Text FactQuery.Grammar

variable {more : List Char}

/-! ## Names -/

theorem iriRef_withstands : Withstands more iriRef nowhere atEnd :=
  (Withstands.lexeme scanIriRef_staysInside).map _

theorem prefixLabel_withstands : Withstands more prefixLabel nowhere atEnd :=
  (Withstands.lexeme scanPrefixLabel_staysInside).map _

theorem iri_withstands : Withstands more iri nowhere atEnd := by
  refine .firstOf_tokens ?_
  simp only [List.forall_mem_cons]
  refine ⟨⟨iriRef_withstands.map _, ?_⟩,
    ⟨(Withstands.lexeme scanPrefixedName_staysInside).map _, ?_⟩, by simp⟩
  · exact ((lexeme_missesEnd rfl).bind _).bind _
  · exact (lexeme_missesEnd rfl).bind _

/-! ## Strings -/

/-- Which string a quote begins is decided by the quotes behind it. -/
theorem firstQuoted_cons {mark : Char} (quote : isQuote mark = true) (rest : List Char) :
    firstQuoted (mark :: rest) =
      (((QuoteStyle.long mark).split? (mark :: rest)).map (Prod.mk (.long mark))).or
        (((QuoteStyle.short mark).split? (mark :: rest)).map (Prod.mk (.short mark))) := by
  have other : ∀ {style : QuoteStyle}, style.delimiter.head? ≠ some mark →
      style.split? (mark :: rest) = none := split?_of_other
  rcases eq_of_isQuote quote with rfl | rfl
  · have noLong := @other (.long '\x27') (by simp [QuoteStyle.delimiter])
    have noShort := @other (.short '\x27') (by simp [QuoteStyle.delimiter])
    simp only [firstQuoted, QuoteStyle.all, List.findSome?_cons, noLong, noShort]
    cases (QuoteStyle.long '\x22').split? ('\x22' :: rest) <;>
      cases (QuoteStyle.short '\x22').split? ('\x22' :: rest) <;> rfl
  · have noLong := @other (.long '\x22') (by simp [QuoteStyle.delimiter])
    have noShort := @other (.short '\x22') (by simp [QuoteStyle.delimiter])
    simp only [firstQuoted, QuoteStyle.all, List.findSome?_cons, noLong, noShort]
    cases (QuoteStyle.long '\x27').split? ('\x27' :: rest) <;>
      cases (QuoteStyle.short '\x27').split? ('\x27' :: rest) <;> rfl

/-- Three quotes that close nothing are an empty string with a quote behind it. -/
theorem split?_short_of_three {mark : Char} (quote : isQuote mark = true) (rest : List Char) :
    (QuoteStyle.short mark).split? (mark :: mark :: mark :: rest) = some ([], mark :: rest) := by
  rcases eq_of_isQuote quote with rfl | rfl <;> rfl

theorem three_of_split?_append {mark : Char} (quote : isQuote mark = true)
    {front more : List Char} {found : List Char × List Char}
    (split : (QuoteStyle.long mark).split? (front ++ '\n' :: more) = some found) :
    ∃ rest, front = mark :: mark :: mark :: rest := by
  have solid : ∀ c ∈ [mark, mark, mark], isLayoutBlank c = false := by
    intro c inside
    simp only [List.mem_cons, List.not_mem_nil, or_false, or_self] at inside
    rw [inside]
    rcases eq_of_isQuote quote with rfl | rfl <;> rfl
  obtain ⟨rest, opens, -⟩ := Option.bind_eq_some_iff.1 split
  rw [QuoteStyle.delimiter, isPrefixOf?_ahead solid (EndsToken.cons_iff.2 rfl)] at opens
  obtain ⟨behind, inside, -⟩ := Option.map_eq_some_iff.1 opens
  exact ⟨behind, (List.isPrefixOf?_eq_some_iff_append_eq.1 inside).symm⟩

/-- A string that is found in the first text is found again, unless it is empty and a quote stands
behind it. -/
theorem firstQuoted_extend {front behind : List Char} {style : QuoteStyle} {body : List Char}
    (found : firstQuoted (front ++ ['\n']) = some (style, body, behind)) (more : List Char) :
    firstQuoted (front ++ '\n' :: more) = some (style, body, behind ++ more) ∨
      ∃ mark rest, isQuote mark = true ∧ behind = mark :: rest := by
  have isString : ¬Stops isQuote (front ++ ['\n']) := by
    intro stops
    rw [firstQuoted_of_stops stops] at found
    contradiction
  cases front with
  | nil => exact absurd rfl isString
  | cons mark front =>
      have quote : isQuote mark = true := by
        by_contra other
        exact isString (Stops.cons_iff.2 (Bool.eq_false_iff.2 other))
      have whole : mark :: front ++ '\n' :: more = mark :: (front ++ ['\n'] ++ more) := by simp
      rw [List.cons_append, firstQuoted_cons quote, Option.or_eq_some_iff] at found
      rw [whole, firstQuoted_cons quote]
      rcases found with long | ⟨-, short⟩
      · obtain ⟨pair, split, same⟩ := Option.map_eq_some_iff.1 long
        cases same
        have again : (QuoteStyle.long mark).split? (mark :: (front ++ ['\n'] ++ more)) = _ :=
          split?_append split more
        left
        rw [again]
        rfl
      · obtain ⟨pair, split, same⟩ := Option.map_eq_some_iff.1 short
        cases same
        cases longer : (QuoteStyle.long mark).split? (mark :: (front ++ ['\n'] ++ more)) with
        | none =>
            have again : (QuoteStyle.short mark).split? (mark :: (front ++ ['\n'] ++ more)) = _ :=
              split?_append split more
            left
            rw [again]
            rfl
        | some other =>
            right
            rw [← whole] at longer
            obtain ⟨rest, three⟩ := three_of_split?_append quote longer
            rw [← List.cons_append, three, List.cons_append, List.cons_append, List.cons_append,
              split?_short_of_three quote] at split
            cases split
            exact ⟨mark, rest ++ ['\n'], quote, rfl⟩

/-- No string takes the end of the last line. -/
theorem endsLine_behind_string {front body behind : List Char} {style : QuoteStyle}
    (found : firstQuoted (front ++ ['\n']) = some (style, body, behind)) :
    ∃ left, behind = left ++ ['\n'] := by
  obtain ⟨known, inside, split⟩ := List.exists_of_findSome?_eq_some found
  obtain ⟨pair, split, same⟩ := Option.map_eq_some_iff.1 split
  cases same
  obtain ⟨rest, opened, closed⟩ := split?_sound split
  have taken : ∃ taken mark, isQuote mark = true ∧ front ++ ['\n'] = taken ++ mark :: behind := by
    cases style with
    | short mark =>
        refine ⟨[mark] ++ body, mark, ?_, ?_⟩
        · simp only [QuoteStyle.all, List.mem_cons] at inside
          rcases inside with same | same | same | same | same <;> cases same <;> rfl
        · rw [opened, (splitShortBody_sound closed).1, List.append_assoc]
          rfl
    | long mark =>
        refine ⟨[mark, mark, mark] ++ body ++ [mark, mark], mark, ?_, ?_⟩
        · simp only [QuoteStyle.all, List.mem_cons] at inside
          rcases inside with same | same | same | same | same <;> cases same <;> rfl
        · rw [opened, splitLongBody_sound closed]
          simp [QuoteStyle.delimiter]
  obtain ⟨taken, mark, quote, whole⟩ := taken
  rcases List.eq_nil_or_concat behind with rfl | ⟨left, last, rfl⟩
  · obtain ⟨-, same⟩ := List.append_inj' whole rfl
    obtain rfl : '\n' = mark := (List.cons.inj same).1
    contradiction
  · refine ⟨left, ?_⟩
    rw [List.concat_eq_append, ← List.cons_append, ← List.append_assoc] at whole
    rw [List.concat_eq_append, ← (List.append_inj' whole rfl).2]

def AvoidsQuotes (belongs : Char → Bool) : Prop :=
  belongs '\x22' = false ∧ belongs '\x27' = false

instance (belongs : Char → Bool) : Decidable (AvoidsQuotes belongs) :=
  inferInstanceAs (Decidable (_ ∧ _))

theorem AvoidsQuotes.eq_false {belongs : Char → Bool} (avoids : AvoidsQuotes belongs) {c : Char}
    (quote : isQuote c = true) : belongs c = false := by
  rcases eq_of_isQuote quote with rfl | rfl
  · exact avoids.1
  · exact avoids.2

theorem quotedText_withstands {after here : Char → Bool} (noQuoteAfter : AvoidsQuotes after)
    (noQuoteHere : AvoidsQuotes here) :
    Withstands more quotedText (barring after) (barring here) := by
  intro place endsLine
  rcases endsLine.skipLayout more with ⟨ended, -⟩ | ⟨before, left, ahead, aheadToo⟩
  · rw [quotedText_missesEnd place ended]
    exact .slipped (barring_of_atEnd ended)
  · rw [quotedText_apply, quotedText_apply, aheadToo]
    cases found : firstQuoted place.skipLayout.rest with
    | none =>
        cases text : place.skipLayout.rest with
        | nil => simp [ahead] at text
        | cons c rest =>
            by_cases quote : isQuote c = true
            · exact .slipped (barring_of_ahead text (noQuoteHere.eq_false quote))
            · have stops : Stops isQuote (left ++ '\n' :: more) := by
                rw [ahead] at text
                cases left with
                | nil => rfl
                | cons d left =>
                    rw [List.cons_append, List.cons.injEq] at text
                    rw [List.cons_append, Stops.cons_iff, text.1]
                    exact Bool.eq_false_iff.2 quote
              simp only [firstQuoted_of_stops stops]
              exact .missed
    | some string =>
        obtain ⟨style, body, behind⟩ := string
        rw [ahead] at found ⊢
        simp only
        cases decoded : unescape body with
        | error error => exact .slipped trivial
        | ok text =>
            rcases firstQuoted_extend found more with again | ⟨mark, rest, quote, rfl⟩
            · simp only [again, decoded]
              exact .matched (endsLine_behind_string found)
            · have noLayout : Stops isLayoutStart (mark :: rest) :=
                Stops.cons_iff.2 (isLayoutStart_eq_false (by decide) quote)
              have aheadNext := congrArg Cursor.rest
                (skipLayout_of_stops noLayout (style.delimiter.getLast?.or before))
              exact .slipped (barring_of_ahead aheadNext (noQuoteAfter.eq_false quote))

theorem literalSuffix_withstands {after : Char → Bool} (noCaret : after '^' = false) :
    Withstands more literalSuffix nowhere (barring after) := by
  have tag : Withstands more (LiteralSuffix.language <$> languageTag) nowhere atEnd :=
    ((Withstands.lexeme scanLanguageTag_staysInside).map _).map _
  have name : Withstands more (LiteralSuffix.datatype <$> datatype) nowhere (barring after) := by
    refine Withstands.map _ ((Withstands.symbol (by decide)).bind_tight
      (fun _ => iri_withstands) (fun _ => barring_of_atEnd) ?_)
    intro place _ next run _
    exact barring_of_symbol run (by simp [noCaret])
  refine .firstOf_token tag (.firstOf_cons name .firstOf_nil fun _ _ isDoubtful => isDoubtful) ?_
    fun _ => barring_of_atEnd
  refine .firstOf ?_
  simp only [List.forall_mem_singleton]
  exact ((symbol_missesEnd (by decide)).bind _).map _

theorem literalSuffix_refuses {belongs : Char → Bool} (tag : belongs '@' = true)
    (caret : belongs '^' = true) {place : Cursor} (barred : barring belongs place) :
    literalSuffix place = .missed := by
  have stops : Stops isSuffixFront place.skipLayout.rest := by
    refine Stops.mono (fun c front => ?_) barred
    simp only [isSuffixFront, Bool.or_eq_true, beq_iff_eq] at front
    rcases front with rfl | rfl
    · exact tag
    · exact caret
  exact literalSuffix_passes.missed
    (literalSuffix_misses IsGap.nil (stops_skipLayout place) stops)

end FactQuery.Token
