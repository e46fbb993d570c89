import FactQuery.Proofs.Grammar.Tokens
import FactQuery.Token.QuotedText
import Mathlib.Data.List.Basic

/-!
# Reading quoted strings

A text is written in double quotes with a backslash in front of whatever would end the string, leave
its line or be changed on the way: the backslash, the quote, line feed, carriage return and tab.
Reading gives the text back.
-/

set_option autoImplicit false

namespace FactQuery.Token

open FactQuery.Text FactQuery.Grammar

def escapeLetter? (c : Char) : Option Char :=
  if c == '\\' || c == '\x22' then some c
  else if c == '\n' then some 'n'
  else if c == '\r' then some 'r'
  else if c == '\t' then some 't'
  else none

def escapeChar (c : Char) : List Char :=
  match escapeLetter? c with
  | some letter => ['\\', letter]
  | none => [c]

def escape (text : List Char) : List Char :=
  text.flatMap escapeChar

def quote (text : List Char) : List Char :=
  '\x22' :: (escape text ++ ['\x22'])

theorem escape_cons (c : Char) (rest : List Char) :
    escape (c :: rest) = escapeChar c ++ escape rest := by
  rw [escape, List.flatMap_cons, escape]

theorem eq_of_escapeLetter?_eq_some {c letter : Char} (found : escapeLetter? c = some letter) :
    (c = '\\' ∧ letter = '\\') ∨ (c = '\x22' ∧ letter = '\x22') ∨ (c = '\n' ∧ letter = 'n') ∨
      (c = '\r' ∧ letter = 'r') ∨ (c = '\t' ∧ letter = 't') := by
  unfold escapeLetter? at found
  grind

theorem ne_of_escapeLetter?_eq_none {c : Char} (plain : escapeLetter? c = none) :
    c ≠ '\\' ∧ c ≠ '\x22' ∧ c ≠ '\n' ∧ c ≠ '\r' ∧ c ≠ '\t' := by
  unfold escapeLetter? at plain
  grind

theorem escape_eq_self {text : List Char} (plain : ∀ c ∈ text, escapeLetter? c = none) :
    escape text = text := by
  induction text with
  | nil => rfl
  | cons c rest inductionHypothesis =>
      have plainRest : ∀ d ∈ rest, escapeLetter? d = none :=
        fun d inside => plain d (List.mem_cons_of_mem c inside)
      rw [escape_cons, inductionHypothesis plainRest, escapeChar, plain c List.mem_cons_self]
      rfl

theorem tab_not_mem_escape (text : List Char) : '\t' ∉ escape text := by
  intro inside
  obtain ⟨c, _, written⟩ := List.mem_flatMap.1 inside
  unfold escapeChar at written
  cases found : escapeLetter? c with
  | none =>
      rw [found] at written
      have same : '\t' = c := List.mem_singleton.1 written
      exact (ne_of_escapeLetter?_eq_none found).2.2.2.2 same.symm
  | some letter =>
      rw [found] at written
      rcases eq_of_escapeLetter?_eq_some found with
        ⟨_, rfl⟩ | ⟨_, rfl⟩ | ⟨_, rfl⟩ | ⟨_, rfl⟩ | ⟨_, rfl⟩ <;> simp at written

theorem tab_not_mem_quote (text : List Char) : '\t' ∉ quote text := by
  simp [quote, tab_not_mem_escape]

/-- Decoding undoes the writing of a text. -/
theorem unescape_escape (text : List Char) : unescape (escape text) = .ok text := by
  induction text with
  | nil => rfl
  | cons c rest inductionHypothesis =>
      rw [escape_cons, escapeChar]
      cases found : escapeLetter? c with
      | none =>
          have noBackslash := (ne_of_escapeLetter?_eq_none found).1
          rw [List.singleton_append, unescape.eq_def]
          simp [noBackslash, inductionHypothesis, Except.map]
      | some letter =>
          rcases eq_of_escapeLetter?_eq_some found with
            ⟨rfl, rfl⟩ | ⟨rfl, rfl⟩ | ⟨rfl, rfl⟩ | ⟨rfl, rfl⟩ | ⟨rfl, rfl⟩ <;>
            simp [unescape, letterEscape?, inductionHypothesis, Except.map]

/-- The first quote that ends the string is the one behind the whole of the written text. -/
theorem splitShortBody_escape (text rest : List Char) :
    splitShortBody '\x22' (escape text ++ '\x22' :: rest) = some (escape text, rest) := by
  induction text with
  | nil =>
      rw [escape, List.flatMap_nil, List.nil_append, splitShortBody.eq_def]
      rfl
  | cons c text inductionHypothesis =>
      rw [escape_cons, escapeChar]
      cases found : escapeLetter? c with
      | none =>
          obtain ⟨noBackslash, noQuote, noFeed, noReturn, _⟩ := ne_of_escapeLetter?_eq_none found
          rw [List.singleton_append, List.cons_append, splitShortBody.eq_def]
          simp [noBackslash, noQuote, noFeed, noReturn, inductionHypothesis]
      | some letter =>
          rcases eq_of_escapeLetter?_eq_some found with
            ⟨rfl, rfl⟩ | ⟨rfl, rfl⟩ | ⟨rfl, rfl⟩ | ⟨rfl, rfl⟩ | ⟨rfl, rfl⟩ <;>
            simp [splitShortBody, inductionHypothesis]

theorem head?_escape_ne_quote (text : List Char) : (escape text).head? ≠ some '\x22' := by
  cases text with
  | nil => simp [escape]
  | cons c rest =>
      rw [escape_cons, escapeChar]
      cases found : escapeLetter? c with
      | none =>
          have noQuote := (ne_of_escapeLetter?_eq_none found).2.1
          simpa using noQuote
      | some letter => simp

/-- A short string does not begin with three quotes, unless it is empty and a quote stands behind
it. -/
theorem split?_long_of_short {mark : Char} {body rest : List Char}
    (noMark : body.head? ≠ some mark) (noQuote : body = [] → rest.head? ≠ some mark) :
    (QuoteStyle.long mark).split? (mark :: (body ++ mark :: rest)) = none := by
  cases body with
  | nil =>
      cases rest with
      | nil => simp [QuoteStyle.split?, QuoteStyle.delimiter]
      | cons d others =>
          have different : mark ≠ d := fun same => noQuote rfl (by simp [← same])
          simp [QuoteStyle.split?, QuoteStyle.delimiter, different]
  | cons c others =>
      have different : mark ≠ c := fun same => noMark (by simp [← same])
      simp [QuoteStyle.split?, QuoteStyle.delimiter, different]

theorem split?_long_quote {text rest : List Char} (noQuote : rest.head? ≠ some '\x22') :
    (QuoteStyle.long '\x22').split? (quote text ++ rest) = none := by
  rw [quote, List.cons_append, List.append_assoc]
  exact split?_long_of_short (head?_escape_ne_quote text) fun _ => noQuote

def isQuote (c : Char) : Bool :=
  c == '\x22' || c == '\x27'

/-- A quoted string is read as the text that it writes. -/
theorem quotedText_reads {gap text rest : List Char} (blank : IsGap gap)
    (noQuote : rest.head? ≠ some '\x22') :
    Reads quotedText (gap ++ quote text) (String.ofList text) rest := by
  have starts : Stops isLayoutStart (quote text ++ rest) := rfl
  -- Long strings are tried first, and an empty text is written as two quotes in a row.
  have notLong : Misses (quotedIn (.long '\x22')) (gap ++ quote text ++ rest) := by
    intro before
    rw [MissesFrom, quotedIn, List.append_assoc, skipLayout_gap blank starts,
      split?_long_quote noQuote]
  have notSingle : Misses (quotedIn (.long '\x27')) (gap ++ quote text ++ rest) := by
    intro before
    rw [MissesFrom, quotedIn, List.append_assoc, skipLayout_gap blank starts]
    rfl
  have short : Reads (quotedIn (.short '\x22')) (gap ++ quote text) (String.ofList text) rest := by
    intro before
    have found : (QuoteStyle.short '\x22').split? (quote text ++ rest) =
        some (escape text, rest) := by
      rw [quote, List.cons_append, List.append_assoc]
      exact splitShortBody_escape text rest
    refine ⟨some '\x22', ?_⟩
    rw [quotedIn, List.append_assoc, skipLayout_gap blank starts]
    simp only [found, unescape_escape, Cursor.past]
    rfl
  exact (short.firstOf_here.firstOf_later notSingle).firstOf_later notLong

theorem split?_eq_none {style : QuoteStyle} {text : List Char} (known : style ∈ QuoteStyle.all)
    (stops : Stops isQuote text) : style.split? text = none := by
  have quotes : style.delimiter.head?.all (fun c => isQuote c) = true ∧ style.delimiter ≠ [] := by
    simp only [QuoteStyle.all, List.mem_cons, List.not_mem_nil, or_false] at known
    rcases known with rfl | rfl | rfl | rfl <;> decide
  cases text with
  | nil =>
      cases delimiter : style.delimiter with
      | nil => exact absurd delimiter quotes.2
      | cons c others => simp [QuoteStyle.split?, delimiter]
  | cons d rest =>
      rw [Stops.cons_iff] at stops
      cases delimiter : style.delimiter with
      | nil => exact absurd delimiter quotes.2
      | cons c others =>
          have quoteHere : isQuote c = true := by simpa [delimiter] using quotes.1
          have different : c ≠ d := fun same => by simp [← same, quoteHere] at stops
          simp [QuoteStyle.split?, delimiter, different]

theorem quotedText_misses {gap text : List Char} (blank : IsGap gap)
    (starts : Stops isLayoutStart text) (stops : Stops isQuote text) :
    Misses quotedText (gap ++ text) := by
  have each : ∀ parser ∈ QuoteStyle.all.map quotedIn, Misses parser (gap ++ text) := by
    intro parser found before
    obtain ⟨style, known, rfl⟩ := List.mem_map.1 found
    rw [MissesFrom, quotedIn, skipLayout_gap blank starts, split?_eq_none known stops]
  exact Misses.firstOf each

theorem quotedIn_passes (style : QuoteStyle) : PassesLayout (quotedIn style) := by
  intro place
  simp only [quotedIn, skipLayout_skipLayout]

theorem quotedText_passes : PassesLayout quotedText := by
  refine PassesLayout.firstOf fun parser inside => ?_
  obtain ⟨style, -, rfl⟩ := List.mem_map.1 inside
  exact quotedIn_passes style

theorem exists_quote {place next : Cursor} {value : String}
    (run : quotedText place = .matched value next) :
    ∃ c more, place.skipLayout.rest = c :: more ∧ isQuote c = true := by
  cases ahead : place.skipLayout.rest with
  | nil =>
      have missed : quotedText place = .missed :=
        quotedText_passes.missed (ahead ▸ quotedText_misses IsGap.nil rfl rfl)
      rw [missed] at run
      cases run
  | cons c more =>
      refine ⟨c, more, rfl, ?_⟩
      by_contra other
      have stops : Stops isQuote (c :: more) := Stops.cons_iff.2 (Bool.eq_false_iff.2 other)
      have starts : Stops isLayoutStart (c :: more) := ahead ▸ stops_skipLayout place
      have missed : quotedText place = .missed :=
        quotedText_passes.missed (ahead ▸ quotedText_misses IsGap.nil starts stops)
      rw [missed] at run
      cases run

/-! ## Where a string ends -/

theorem splitLongBody_sound {mark : Char} {text body behind : List Char}
    (found : splitLongBody mark text = some (body, behind)) :
    text = body ++ mark :: mark :: mark :: behind := by
  induction text using splitLongBody.induct mark generalizing body behind with
  | case1 => contradiction
  | case2 c isBackslash => simp [splitLongBody, isBackslash] at found
  | case3 c isBackslash d more inductionHypothesis =>
      simp only [splitLongBody, isBackslash, if_true] at found
      obtain ⟨⟨front, last⟩, run, same⟩ := Option.map_eq_some_iff.1 found
      cases same
      rw [inductionHypothesis run]
      rfl
  | case4 c more notBackslash closes =>
      obtain ⟨rest, whole⟩ := List.isPrefixOf_iff_prefix.1 closes
      rw [splitLongBody.eq_def] at found
      simp only [if_neg notBackslash, if_pos closes] at found
      cases whole
      cases found
      rfl
  | case5 c more notBackslash notClosing inductionHypothesis =>
      rw [splitLongBody.eq_def] at found
      simp only [if_neg notBackslash, if_neg notClosing] at found
      obtain ⟨⟨front, last⟩, run, same⟩ := Option.map_eq_some_iff.1 found
      cases same
      rw [inductionHypothesis run]
      rfl

theorem splitShortBody_sound {mark : Char} {text body behind : List Char}
    (found : splitShortBody mark text = some (body, behind)) :
    text = body ++ mark :: behind ∧
      ('\\' ∉ body.dropLast → ∀ c ∈ body, c ≠ '\\' ∧ c ≠ mark ∧ c ≠ '\n' ∧ c ≠ '\r') := by
  induction text using splitShortBody.induct mark generalizing body behind with
  | case1 => contradiction
  | case2 c isBackslash => simp [splitShortBody, isBackslash] at found
  | case3 c isBackslash d more isFeed => simp [splitShortBody, isBackslash, isFeed] at found
  | case4 c isBackslash d more notFeed inductionHypothesis =>
      simp only [splitShortBody, isBackslash, if_true, if_neg notFeed] at found
      obtain ⟨⟨front, last⟩, run, same⟩ := Option.map_eq_some_iff.1 found
      cases same
      rw [(inductionHypothesis run).1, beq_iff_eq.1 isBackslash]
      exact ⟨rfl, fun noEscape => absurd (by simp) noEscape⟩
  | case5 c more notBackslash isMark =>
      rw [splitShortBody.eq_def] at found
      simp only [if_neg notBackslash, if_pos isMark] at found
      cases found
      rw [beq_iff_eq.1 isMark]
      exact ⟨rfl, by simp⟩
  | case6 c more notBackslash notMark lineEnd =>
      rw [splitShortBody.eq_def] at found
      simp only [if_neg notBackslash, if_neg notMark, if_pos lineEnd] at found
      contradiction
  | case7 c more notBackslash notMark noLineEnd inductionHypothesis =>
      rw [splitShortBody.eq_def] at found
      simp only [if_neg notBackslash, if_neg notMark, if_neg noLineEnd] at found
      obtain ⟨⟨front, last⟩, run, same⟩ := Option.map_eq_some_iff.1 found
      cases same
      obtain ⟨whole, plain⟩ := inductionHypothesis run
      refine ⟨by rw [whole]; rfl, fun noEscape => ?_⟩
      have noEscapeLater : '\\' ∉ front.dropLast := by
        intro escaped
        cases front with
        | nil => simp at escaped
        | cons d others => exact noEscape (by simp [escaped])
      rw [List.forall_mem_cons]
      refine ⟨?_, plain noEscapeLater⟩
      simp only [beq_iff_eq, Bool.or_eq_true, not_or] at notBackslash notMark noLineEnd
      exact ⟨notBackslash, notMark, noLineEnd.1, noLineEnd.2⟩

theorem split?_sound {style : QuoteStyle} {text body behind : List Char}
    (found : style.split? text = some (body, behind)) :
    ∃ rest, text = style.delimiter ++ rest ∧ style.splitBody rest = some (body, behind) := by
  obtain ⟨rest, opens, split⟩ := Option.bind_eq_some_iff.1 found
  exact ⟨rest, (List.isPrefixOf?_eq_some_iff_append_eq.1 opens).symm, split⟩

end FactQuery.Token
