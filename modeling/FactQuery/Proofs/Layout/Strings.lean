import FactQuery.Proofs.Layout.Respects

/-!
# Strings are taken whole

A string ends at its last quote, whatever stands behind it, so a quoted word is read as the same
string in front of any layout.
-/

set_option autoImplicit false

namespace FactQuery.Token

open FactQuery.Text FactQuery.Grammar

/-! ## The end of a string -/

theorem splitShortBody_append {mark : Char} {text body behind : List Char}
    (found : splitShortBody mark text = some (body, behind)) (rest : List Char) :
    splitShortBody mark (text ++ rest) = some (body, behind ++ rest) := by
  induction text using splitShortBody.induct mark generalizing body behind with
  | case1 => contradiction
  | case2 c isBackslash => simp [splitShortBody, isBackslash] at found
  | case3 c isBackslash d more isFeed => simp [splitShortBody, isBackslash, isFeed] at found
  | case4 c isBackslash d more notFeed inductionHypothesis =>
      simp only [splitShortBody, isBackslash, if_true, if_neg notFeed] at found
      obtain ⟨⟨front, last⟩, run, same⟩ := Option.map_eq_some_iff.1 found
      cases same
      simp only [List.cons_append, splitShortBody, isBackslash, if_true, if_neg notFeed,
        inductionHypothesis run, Option.map_some]
  | case5 c more notBackslash isMark =>
      rw [splitShortBody.eq_def] at found ⊢
      simp only [if_neg notBackslash, if_pos isMark] at found
      cases found
      simp only [List.cons_append, if_neg notBackslash, if_pos isMark]
  | case6 c more notBackslash notMark lineEnd =>
      rw [splitShortBody.eq_def] at found
      simp only [if_neg notBackslash, if_neg notMark, if_pos lineEnd] at found
      contradiction
  | case7 c more notBackslash notMark noLineEnd inductionHypothesis =>
      rw [splitShortBody.eq_def] at found ⊢
      simp only [if_neg notBackslash, if_neg notMark, if_neg noLineEnd] at found
      obtain ⟨⟨front, last⟩, run, same⟩ := Option.map_eq_some_iff.1 found
      cases same
      simp only [List.cons_append, if_neg notBackslash, if_neg notMark, if_neg noLineEnd,
        inductionHypothesis run, Option.map_some]

theorem splitLongBody_append {mark : Char} {text body behind : List Char}
    (found : splitLongBody mark text = some (body, behind)) (rest : List Char) :
    splitLongBody mark (text ++ rest) = some (body, behind ++ rest) := by
  induction text using splitLongBody.induct mark generalizing body behind with
  | case1 => contradiction
  | case2 c isBackslash => simp [splitLongBody, isBackslash] at found
  | case3 c isBackslash d more inductionHypothesis =>
      simp only [splitLongBody, isBackslash, if_true] at found
      obtain ⟨⟨front, last⟩, run, same⟩ := Option.map_eq_some_iff.1 found
      cases same
      simp only [List.cons_append, splitLongBody, isBackslash, if_true, inductionHypothesis run,
        Option.map_some]
  | case4 c more notBackslash closes =>
      obtain ⟨others, whole⟩ := List.isPrefixOf_iff_prefix.1 closes
      obtain ⟨rfl, rfl⟩ : mark = c ∧ mark :: mark :: others = more := List.cons.inj whole
      rw [splitLongBody.eq_def] at found ⊢
      simp only [if_neg notBackslash, if_pos closes] at found
      cases found
      have closesToo : [mark, mark, mark].isPrefixOf (mark :: mark :: mark :: (others ++ rest)) =
          true := List.isPrefixOf_iff_prefix.2 ⟨others ++ rest, rfl⟩
      simp only [List.cons_append, if_neg notBackslash, if_pos closesToo]
      rfl
  | case5 c more notBackslash notClosing inductionHypothesis =>
      rw [splitLongBody.eq_def] at found ⊢
      simp only [if_neg notBackslash, if_neg notClosing] at found
      obtain ⟨⟨front, last⟩, run, same⟩ := Option.map_eq_some_iff.1 found
      cases same
      have notClosingToo : ¬[mark, mark, mark].isPrefixOf (c :: more ++ rest) = true := by
        have long := splitLongBody_sound run
        intro closes
        apply notClosing
        rw [List.isPrefixOf_iff_prefix] at closes ⊢
        refine List.prefix_of_prefix_length_le closes (List.prefix_append _ rest) ?_
        rw [long]
        simp only [List.length_cons, List.length_nil, List.length_append]
        omega
      simp only [List.cons_append] at notClosingToo ⊢
      simp only [if_neg notBackslash, if_neg notClosingToo, inductionHypothesis run,
        Option.map_some]

theorem split?_append {style : QuoteStyle} {text body behind : List Char}
    (found : style.split? text = some (body, behind)) (rest : List Char) :
    style.split? (text ++ rest) = some (body, behind ++ rest) := by
  obtain ⟨inside, rfl, closed⟩ := split?_sound found
  have opened : style.delimiter.isPrefixOf? (style.delimiter ++ (inside ++ rest)) =
      some (inside ++ rest) := List.isPrefixOf?_eq_some_iff_append_eq.2 rfl
  rw [QuoteStyle.split?, List.append_assoc, opened, Option.bind_some]
  cases style with
  | short quote => exact splitShortBody_append closed rest
  | long quote => exact splitLongBody_append closed rest

theorem head?_ne_of_splitShortBody {mark : Char} {text body behind : List Char}
    (noBackslash : mark ≠ '\\') (found : splitShortBody mark text = some (body, behind)) :
    body.head? ≠ some mark := by
  unfold splitShortBody at found
  split at found
  · contradiction
  · rename_i c rest
    split at found
    · rename_i isBackslash
      split at found
      · contradiction
      · split at found
        · contradiction
        · obtain ⟨inside, -, same⟩ := Option.map_eq_some_iff.1 found
          cases same
          simp [beq_iff_eq.1 isBackslash, noBackslash.symm]
    · split at found
      · cases found
        simp
      · rename_i notMark
        split at found
        · contradiction
        · obtain ⟨inside, -, same⟩ := Option.map_eq_some_iff.1 found
          cases same
          simpa using notMark

/-! ## Which style a string has -/

theorem split?_of_other {style : QuoteStyle} {mark : Char} {later : List Char}
    (different : style.delimiter.head? ≠ some mark) : style.split? (mark :: later) = none := by
  cases style <;> simp_all [QuoteStyle.split?, QuoteStyle.delimiter]

/-- The first style in which the text begins with a string, with the body and the text behind. -/
def firstQuoted (text : List Char) : Option (QuoteStyle × List Char × List Char) :=
  QuoteStyle.all.findSome? fun style => (style.split? text).map fun found => (style, found)

theorem quotedText_apply (place : Cursor) :
    quotedText place =
      match firstQuoted place.skipLayout.rest with
      | none => .missed
      | some (style, body, behind) =>
        match unescape body with
        | .ok text => .matched (String.ofList text) (place.skipLayout.past style.delimiter behind)
        | .error error => .aborted error place.skipLayout := by
  rw [quotedText, firstQuoted]
  induction QuoteStyle.all with
  | nil => rfl
  | cons style others inductionHypothesis =>
      simp only [List.map_cons, Parser.firstOf, List.findSome?_cons, quotedIn]
      cases style.split? place.skipLayout.rest with
      | none => exact inductionHypothesis
      | some found =>
          simp only [Option.map_some]
          cases unescape found.1 <;> rfl

theorem firstQuoted_of_stops {text : List Char} (stops : Stops isQuote text) :
    firstQuoted text = none := by
  rw [firstQuoted, List.findSome?_eq_none_iff]
  intro style known
  rw [split?_eq_none known stops]
  rfl

/-- The style and the body of a quoted word do not depend on what stands behind it. -/
theorem IsQuoted.exists_firstQuoted {word : List Char} (isQuoted : IsQuoted word) :
    ∃ style body, ∀ rest, EndsToken rest → firstQuoted (word ++ rest) = some (style, body, rest) := by
  obtain ⟨style, known, body, split⟩ := isQuoted
  refine ⟨style, body, fun rest ends => ?_⟩
  have here : style.split? (word ++ rest) = some (body, rest) := split?_append split rest
  have notLong : ∀ {mark}, mark ≠ '\\' → isLayoutBlank mark = false →
      (QuoteStyle.short mark).split? word = some (body, []) →
      (QuoteStyle.long mark).split? (word ++ rest) = none := by
    intro mark noBackslash noBlank short
    obtain ⟨inside, rfl, closed⟩ := split?_sound short
    have noMark := head?_ne_of_splitShortBody noBackslash closed
    obtain ⟨rfl, -⟩ := splitShortBody_sound closed
    have noQuote : rest.head? ≠ some mark := by
      cases rest with
      | nil => simp
      | cons c more =>
          rintro same
          cases same
          rw [EndsToken.cons_iff, noBlank] at ends
          contradiction
    have missed : (QuoteStyle.long mark).split? (mark :: (body ++ mark :: rest)) = none :=
      split?_long_of_short noMark fun _ => noQuote
    simpa [QuoteStyle.delimiter] using missed
  obtain ⟨inside, opened, -⟩ := split?_sound split
  simp only [QuoteStyle.all, List.mem_cons, List.not_mem_nil, or_false] at known
  rcases known with rfl | rfl | rfl | rfl
  · simp [firstQuoted, QuoteStyle.all, here]
  · have noDouble : (QuoteStyle.long '\x22').split? (word ++ rest) = none := by
      rw [opened]
      exact split?_of_other (by simp [QuoteStyle.delimiter])
    simp [firstQuoted, QuoteStyle.all, here, noDouble]
  · have noSingle : (QuoteStyle.long '\x27').split? (word ++ rest) = none := by
      rw [opened]
      exact split?_of_other (by simp [QuoteStyle.delimiter])
    have noDouble := notLong (by decide) (by decide) split
    simp [firstQuoted, QuoteStyle.all, here, noSingle, noDouble]
  · have noDouble : ∀ style : QuoteStyle, style.delimiter.head? = some '\x22' →
        style.split? (word ++ rest) = none := by
      intro style double
      rw [opened]
      exact split?_of_other (by simp [double])
    have noSingle := notLong (by decide) (by decide) split
    simp [firstQuoted, QuoteStyle.all, here, noSingle, noDouble (.long '\x22') rfl,
      noDouble (.short '\x22') rfl]

theorem IsQuoted.exists_last {word : List Char} (isQuoted : IsQuoted word) :
    ∃ c, word.getLast? = some c ∧ isQuote c = true := by
  obtain ⟨style, known, body, split⟩ := isQuoted
  obtain ⟨inside, rfl, closed⟩ := split?_sound split
  have mark : ∀ {quote}, style = .short quote ∨ style = .long quote → isQuote quote = true := by
    intro quote same
    simp only [QuoteStyle.all, List.mem_cons, List.not_mem_nil, or_false] at known
    rcases known with rfl | rfl | rfl | rfl <;> simp_all <;> subst same <;> rfl
  cases style with
  | short quote =>
      obtain ⟨rfl, -⟩ := splitShortBody_sound closed
      exact ⟨quote, by simp [QuoteStyle.delimiter, List.getLast?_cons], mark (Or.inl rfl)⟩
  | long quote =>
      rw [splitLongBody_sound closed]
      exact ⟨quote, by simp [QuoteStyle.delimiter, List.getLast?_cons], mark (Or.inr rfl)⟩

end FactQuery.Token
