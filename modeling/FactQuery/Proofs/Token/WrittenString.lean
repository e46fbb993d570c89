import FactQuery.Proofs.Text.Unescape
import FactQuery.Proofs.Token.QuotedText

/-!
# Strings in every written form

A string stands in one of four styles of quotes.  Each of its characters stands for itself or is
escaped, by a letter or by its code point.  A long string may also hold quotes of its own kind, up
to two of them in a row and none at its end.  Whatever the form, the value is read.
-/

set_option autoImplicit false

namespace FactQuery.Token

open FactQuery.Text FactQuery.Grammar

namespace QuoteStyle

def quote : QuoteStyle → Char
  | .short quote => quote
  | .long quote => quote

/-- How many quotes may stand in a row inside a string without ending it. -/
def freeQuotes : QuoteStyle → Nat
  | .short _ => 0
  | .long _ => 2

/-- Short strings stay on their line. -/
def isPlain (style : QuoteStyle) (c : Char) : Bool :=
  c != '\\' && c != style.quote &&
    match style with
    | .short _ => c != '\n' && c != '\r'
    | .long _ => true

end QuoteStyle

/-! ## Written characters -/

/-- One character of a string, as it is written. -/
inductive Piece where
  | plain (c : Char)
  | letter (mark c : Char)
  /-- The code point of a character in hexadecimal digits.  Surrogates belong to no character. -/
  | code (digits : List Char) (c : Char)

namespace Piece

def meaning : Piece → Char
  | .plain c => c
  | .letter _ c => c
  | .code _ c => c

def write : Piece → List Char
  | .plain c => [c]
  | .letter mark _ => ['\\', mark]
  | .code digits _ => '\\' :: (if digits.length = 4 then 'u' else 'U') :: digits

/-- The piece writes its character in strings of a style. -/
def IsValid (style : QuoteStyle) : Piece → Prop
  | .plain c => style.isPlain c = true ∧ c ≠ '\t'
  | .letter mark c => letterEscape? mark = some c
  | .code digits c =>
    (digits.length = 4 ∨ digits.length = 8) ∧ hexValue? digits = some c.toNat

instance (style : QuoteStyle) (piece : Piece) : Decidable (piece.IsValid style) :=
  match piece with
  | .plain _ => inferInstanceAs (Decidable (_ ∧ _))
  | .letter mark c => inferInstanceAs (Decidable (letterEscape? mark = some c))
  | .code _ _ => inferInstanceAs (Decidable ((_ ∨ _) ∧ _))

end Piece

/-- A string as it is written: its style and its characters, each with the quotes in front of it. -/
structure WrittenString where
  style : QuoteStyle
  parts : List (Nat × Piece)

namespace WrittenString

def writePart (style : QuoteStyle) (part : Nat × Piece) : List Char :=
  List.replicate part.1 style.quote ++ part.2.write

def body (string : WrittenString) : List Char :=
  string.parts.flatMap (writePart string.style)

def write (string : WrittenString) : List Char :=
  string.style.delimiter ++ (string.body ++ string.style.delimiter)

def value (string : WrittenString) : List Char :=
  string.parts.flatMap fun part =>
    List.replicate part.1 string.style.quote ++ [part.2.meaning]

structure IsValid (string : WrittenString) : Prop where
  style : string.style ∈ QuoteStyle.all
  quotes : ∀ part ∈ string.parts, part.1 ≤ string.style.freeQuotes
  pieces : ∀ part ∈ string.parts, part.2.IsValid string.style

end WrittenString

/-! ## Finding the end -/

/-- The text belongs to the body of a string, whatever stands behind it. -/
def Passes (style : QuoteStyle) (text : List Char) : Prop :=
  ∀ rest, style.splitBody (text ++ rest) =
    (style.splitBody rest).map fun found => (text ++ found.1, found.2)

namespace Passes

variable {style : QuoteStyle}

theorem nil : Passes style [] := by
  intro rest
  simp

theorem append {first second : List Char} (passesFirst : Passes style first)
    (passesSecond : Passes style second) : Passes style (first ++ second) := by
  intro rest
  rw [List.append_assoc, passesFirst, passesSecond, Option.map_map]
  simp [Function.comp_def]

theorem flatMap {α : Type} {items : List α} {write : α → List Char}
    (each : ∀ item ∈ items, Passes style (write item)) : Passes style (items.flatMap write) := by
  induction items with
  | nil => exact nil
  | cons item items inductionHypothesis =>
      rw [List.forall_mem_cons] at each
      rw [List.flatMap_cons]
      exact each.1.append (inductionHypothesis each.2)

theorem plain {c : Char} (isPlain : style.isPlain c = true) : Passes style [c] := by
  intro rest
  rw [List.singleton_append]
  cases style with
  | short quote =>
      simp only [QuoteStyle.isPlain, QuoteStyle.quote, Bool.and_eq_true, bne_iff_ne] at isPlain
      obtain ⟨⟨noBackslash, noQuote⟩, noFeed, noReturn⟩ := isPlain
      rw [QuoteStyle.splitBody, splitShortBody.eq_def]
      simp [noBackslash, noQuote, noFeed, noReturn]
  | long quote =>
      simp only [QuoteStyle.isPlain, QuoteStyle.quote, Bool.and_eq_true, bne_iff_ne] at isPlain
      obtain ⟨⟨noBackslash, noQuote⟩, -⟩ := isPlain
      rw [QuoteStyle.splitBody, splitLongBody.eq_def]
      simp [noBackslash, Ne.symm noQuote]

theorem escape {c : Char} (noFeed : c ≠ '\n') : Passes style ['\\', c] := by
  intro rest
  cases style with
  | short quote => simp [QuoteStyle.splitBody, splitShortBody, noFeed]
  | long quote => simp [QuoteStyle.splitBody, splitLongBody]

/-- Up to two quotes end no long string, if another character stands behind them. -/
theorem longQuotes {quote c : Char} {count : Nat} {more : List Char} (few : count ≤ 2)
    (noBackslash : quote ≠ '\\') (different : quote ≠ c)
    (passes : Passes (.long quote) (c :: more)) :
    Passes (.long quote) (List.replicate count quote ++ c :: more) := by
  induction count with
  | zero => exact passes
  | succ count inductionHypothesis =>
      intro rest
      have later := inductionHypothesis (Nat.le_of_succ_le few) rest
      have notClosing : [quote, quote, quote].isPrefixOf
          (quote :: (List.replicate count quote ++ c :: more ++ rest)) = false := by
        match count, few with
        | 0, _ => simp [List.isPrefixOf, different]
        | 1, _ => simp [List.isPrefixOf, different]
      rw [QuoteStyle.splitBody] at later ⊢
      rw [List.replicate_succ, List.cons_append, List.cons_append, splitLongBody.eq_def]
      simp only [beq_iff_eq, noBackslash, if_false, notClosing, Bool.false_eq_true, later,
        Option.map_map, Function.comp_def, List.cons_append]

theorem quotes {count : Nat} {c : Char} {more : List Char} (few : count ≤ style.freeQuotes)
    (noBackslash : style.quote ≠ '\\') (different : style.quote ≠ c)
    (passes : Passes style (c :: more)) :
    Passes style (List.replicate count style.quote ++ c :: more) := by
  cases style with
  | short quote =>
      have nothing : count = 0 := Nat.le_zero.1 few
      subst nothing
      exact passes
  | long quote => exact longQuotes few noBackslash different passes

end Passes

/-! ## Pieces -/

variable {style : QuoteStyle}

theorem quote_of_mem_all (known : style ∈ QuoteStyle.all) :
    style.quote = '\x22' ∨ style.quote = '\x27' := by
  simp only [QuoteStyle.all, List.mem_cons, List.not_mem_nil, or_false] at known
  rcases known with rfl | rfl | rfl | rfl
  · exact Or.inl rfl
  · exact Or.inr rfl
  · exact Or.inl rfl
  · exact Or.inr rfl

theorem quote_ne_backslash (known : style ∈ QuoteStyle.all) : style.quote ≠ '\\' := by
  rcases quote_of_mem_all known with same | same <;> rw [same] <;> decide

theorem hexDigit?_of_mem {digits : List Char} {value : Nat}
    (known : hexValue? digits = some value) : ∀ c ∈ digits, (hexDigit? c).isSome = true := by
  have folded : ∀ (digits : List Char) (start value : Nat),
      digits.foldlM (fun value c => (hexDigit? c).map (16 * value + ·)) start = some value →
        ∀ c ∈ digits, (hexDigit? c).isSome = true := by
    intro digits
    induction digits with
    | nil => simp
    | cons digit digits inductionHypothesis =>
        intro start value found
        rw [List.foldlM_cons] at found
        obtain ⟨next, here, later⟩ := Option.bind_eq_some_iff.1 found
        obtain ⟨number, isDigit, -⟩ := Option.map_eq_some_iff.1 here
        exact List.forall_mem_cons.2 ⟨by rw [isDigit]; rfl, inductionHypothesis next value later⟩
  exact folded digits 0 value known

theorem isPlain_of_hexDigit? {c : Char} (known : style ∈ QuoteStyle.all)
    (digit : (hexDigit? c).isSome = true) : style.isPlain c = true ∧ c ≠ '\t' := by
  have outside : ∀ d : Char, (hexDigit? d).isSome = false → c ≠ d := by
    rintro d noDigit rfl
    rw [digit] at noDigit
    contradiction
  have noQuote : c ≠ style.quote := by
    rcases quote_of_mem_all known with same | same
    · rw [same]
      exact outside _ (by decide)
    · rw [same]
      exact outside _ (by decide)
  refine ⟨?_, outside _ (by decide)⟩
  cases style with
  | short quote =>
      simp [QuoteStyle.isPlain, noQuote, outside '\\' (by decide), outside '\n' (by decide),
        outside '\r' (by decide)]
  | long quote => simp [QuoteStyle.isPlain, noQuote, outside '\\' (by decide)]

namespace Piece

variable {piece : Piece}

theorem code_digits {digits : List Char} {c : Char} (known : style ∈ QuoteStyle.all)
    (valid : (Piece.code digits c).IsValid style) :
    ∀ digit ∈ digits, style.isPlain digit = true ∧ digit ≠ '\t' :=
  fun digit inside => isPlain_of_hexDigit? known (hexDigit?_of_mem valid.2 digit inside)

theorem passes (known : style ∈ QuoteStyle.all) (valid : piece.IsValid style) :
    Passes style piece.write := by
  cases piece with
  | plain c => exact .plain valid.1
  | letter mark c =>
      refine .escape ?_
      rintro rfl
      cases valid
  | code digits c =>
      have single : digits = digits.flatMap fun digit => [digit] := by simp
      have body : Passes style digits := by
        rw [single]
        exact .flatMap fun digit inside => .plain (code_digits known valid digit inside).1
      have marked : (if digits.length = 4 then 'u' else 'U') ≠ '\n' := by
        split <;> decide
      exact (Passes.escape marked).append body

theorem front (known : style ∈ QuoteStyle.all) (valid : piece.IsValid style) :
    ∃ c more, piece.write = c :: more ∧ style.quote ≠ c := by
  cases piece with
  | plain c =>
      refine ⟨c, [], rfl, ?_⟩
      have isPlain := valid.1
      simp only [QuoteStyle.isPlain, Bool.and_eq_true, bne_iff_ne] at isPlain
      exact Ne.symm isPlain.1.2
  | letter mark c => exact ⟨'\\', [mark], rfl, quote_ne_backslash known⟩
  | code digits c => exact ⟨'\\', _, rfl, quote_ne_backslash known⟩

theorem unescape_write (valid : piece.IsValid style) (rest : List Char) :
    unescape (piece.write ++ rest) = (unescape rest).map (piece.meaning :: ·) := by
  cases piece with
  | plain c =>
      have isPlain := valid.1
      simp only [QuoteStyle.isPlain, Bool.and_eq_true, bne_iff_ne] at isPlain
      exact unescape_plain isPlain.1.1 rest
  | letter mark c => exact unescape_letter valid rest
  | code digits c =>
      obtain ⟨size, known⟩ := valid
      rcases size with four | eight
      · have step := unescape_short four known rest
        rw [charAt_toNat] at step
        rw [write, if_pos four]
        exact step
      · have step := unescape_long eight known rest
        rw [if_pos (toNat_le c), charAt_toNat] at step
        rw [write, if_neg (by omega)]
        exact step

theorem tab_not_mem_write (known : style ∈ QuoteStyle.all) (valid : piece.IsValid style) :
    '\t' ∉ piece.write := by
  cases piece with
  | plain c =>
      rw [write, List.mem_singleton]
      exact Ne.symm valid.2
  | letter mark c =>
      have different : '\t' ≠ mark := by
        rintro rfl
        cases valid
      simp [write, different]
  | code digits c =>
      have inside : '\t' ∉ digits := fun found => (code_digits known valid '\t' found).2 rfl
      have marked : '\t' ≠ (if digits.length = 4 then 'u' else 'U') := by
        split <;> decide
      simp [write, inside, marked]

end Piece

/-! ## Strings -/

namespace WrittenString

variable {string : WrittenString}

theorem body_passes (valid : string.IsValid) : Passes string.style string.body := by
  refine .flatMap fun part inside => ?_
  obtain ⟨c, more, written, different⟩ := Piece.front valid.style (valid.pieces part inside)
  have passes := Piece.passes valid.style (valid.pieces part inside)
  rw [writePart, written]
  rw [written] at passes
  exact .quotes (valid.quotes part inside) (quote_ne_backslash valid.style) different passes

theorem unescape_quotes {quote : Char} (noBackslash : quote ≠ '\\') (count : Nat)
    (rest : List Char) :
    unescape (List.replicate count quote ++ rest) =
      (unescape rest).map (List.replicate count quote ++ ·) := by
  induction count with
  | zero =>
      rw [List.replicate_zero, List.nil_append]
      cases unescape rest with
      | ok text => rfl
      | error error => rfl
  | succ count inductionHypothesis =>
      rw [List.replicate_succ, List.cons_append, unescape.eq_def]
      simp only [beq_iff_eq, noBackslash, if_false, inductionHypothesis]
      cases unescape rest with
      | ok text => rfl
      | error error => rfl

/-- Decoding the body gives the value. -/
theorem unescape_body (valid : string.IsValid) : unescape string.body = .ok string.value := by
  obtain ⟨style, parts⟩ := string
  obtain ⟨known, -, pieces⟩ := valid
  simp only [body, value] at known pieces ⊢
  induction parts with
  | nil => rfl
  | cons part parts inductionHypothesis =>
      rw [List.forall_mem_cons] at pieces
      rw [List.flatMap_cons, List.flatMap_cons, writePart, List.append_assoc,
        unescape_quotes (quote_ne_backslash known), Piece.unescape_write pieces.1,
        inductionHypothesis pieces.2]
      simp [Except.map]

theorem tab_not_mem_write (valid : string.IsValid) : '\t' ∉ string.write := by
  have noTab : '\t' ≠ string.style.quote := by
    rcases quote_of_mem_all valid.style with same | same <;> rw [same] <;> decide
  have outside : '\t' ∉ string.style.delimiter := by
    cases style : string.style with
    | short quote => simpa [QuoteStyle.delimiter, style, QuoteStyle.quote] using noTab
    | long quote => simpa [QuoteStyle.delimiter, style, QuoteStyle.quote] using noTab
  have inside : '\t' ∉ string.body := by
    intro found
    obtain ⟨part, known, held⟩ := List.mem_flatMap.1 found
    rcases List.mem_append.1 held with quotes | piece
    · exact noTab (List.eq_of_mem_replicate quotes)
    · exact Piece.tab_not_mem_write valid.style (valid.pieces part known) piece
  simp [write, outside, inside]

theorem head?_body_ne {mark : Char} (valid : string.IsValid) (short : string.style = .short mark) :
    string.body.head? ≠ some mark := by
  obtain ⟨style, parts⟩ := string
  obtain ⟨known, quotes, pieces⟩ := valid
  simp only at short
  subst short
  cases parts with
  | nil => simp [body]
  | cons part parts =>
      rw [List.forall_mem_cons] at quotes pieces
      have nothing : part.1 = 0 := Nat.le_zero.1 quotes.1
      obtain ⟨c, more, written, different⟩ := Piece.front known pieces.1
      rw [QuoteStyle.quote] at different
      rw [body, List.flatMap_cons, writePart, nothing, written]
      simpa using Ne.symm different

end WrittenString

/-! ## Reading -/

variable {string : WrittenString}

theorem splitBody_delimiter (known : style ∈ QuoteStyle.all) (rest : List Char) :
    style.splitBody (style.delimiter ++ rest) = some ([], rest) := by
  simp only [QuoteStyle.all, List.mem_cons, List.not_mem_nil, or_false] at known
  rcases known with rfl | rfl | rfl | rfl <;>
    simp [QuoteStyle.splitBody, QuoteStyle.delimiter, splitLongBody.eq_def, splitShortBody.eq_def]

theorem split?_write (valid : string.IsValid) (rest : List Char) :
    string.style.split? (string.write ++ rest) = some (string.body, rest) := by
  have opens : ∀ behind, string.style.delimiter.isPrefixOf? (string.style.delimiter ++ behind) =
      some behind := by
    intro behind
    cases string.style <;> simp [QuoteStyle.delimiter]
  rw [WrittenString.write, List.append_assoc, QuoteStyle.split?, opens, Option.bind_some,
    List.append_assoc, WrittenString.body_passes valid, splitBody_delimiter valid.style]
  simp

theorem write_front (string : WrittenString) (rest : List Char) :
    ∃ others, string.write ++ rest = string.style.quote :: others := by
  obtain ⟨style, parts⟩ := string
  cases style with
  | short mark => exact ⟨_, rfl⟩
  | long mark => exact ⟨_, rfl⟩

theorem write_short {mark : Char} (short : string.style = .short mark) (rest : List Char) :
    string.write ++ rest = mark :: (string.body ++ mark :: rest) := by
  simp [WrittenString.write, short, QuoteStyle.delimiter]

theorem stops_string {belongs : Char → Bool} (valid : string.IsValid)
    (apart : belongs '\x22' = false ∧ belongs '\x27' = false) (rest : List Char) :
    Stops belongs (string.write ++ rest) := by
  obtain ⟨others, written⟩ := write_front string rest
  rw [written, Stops.cons_iff]
  rcases quote_of_mem_all valid.style with same | same <;> rw [same]
  · exact apart.1
  · exact apart.2

theorem quotedIn_reads {gap : List Char} (blank : IsGap gap) (valid : string.IsValid)
    (rest : List Char) :
    Reads (quotedIn string.style) (gap ++ string.write) (String.ofList string.value) rest := by
  intro before
  refine ⟨string.style.delimiter.getLast?.or (gap.getLast?.or before), ?_⟩
  rw [quotedIn, List.append_assoc, skipLayout_gap blank (stops_string valid (by decide) rest)]
  simp only [split?_write valid, WrittenString.unescape_body valid, Cursor.past]

theorem quotedIn_misses {gap text : List Char} (blank : IsGap gap)
    (starts : Stops isLayoutStart text) (refused : style.split? text = none) :
    Misses (quotedIn style) (gap ++ text) := by
  intro before
  rw [MissesFrom, quotedIn, skipLayout_gap blank starts, refused]

theorem quotedIn_misses_quote {gap : List Char} (blank : IsGap gap) (valid : string.IsValid)
    (different : style.quote ≠ string.style.quote) (rest : List Char) :
    Misses (quotedIn style) (gap ++ string.write ++ rest) := by
  rw [List.append_assoc]
  refine quotedIn_misses blank (stops_string valid (by decide) rest) ?_
  obtain ⟨others, written⟩ := write_front string rest
  rw [written]
  cases style with
  | short mark =>
      rw [QuoteStyle.quote] at different
      simp [QuoteStyle.split?, QuoteStyle.delimiter, different]
  | long mark =>
      rw [QuoteStyle.quote] at different
      simp [QuoteStyle.split?, QuoteStyle.delimiter, different]

/-- No long string begins where a short one stands, unless it is empty and a quote stands behind
it. -/
theorem split?_long_write {mark : Char} {rest : List Char} (valid : string.IsValid)
    (short : string.style = .short mark) (noQuote : string.body = [] → rest.head? ≠ some mark) :
    (QuoteStyle.long mark).split? (string.write ++ rest) = none := by
  rw [write_short short]
  exact split?_long_of_short (WrittenString.head?_body_ne valid short) noQuote

/-- A string is read as its value where no long string begins instead. -/
theorem quotedText_reads_unless_long {gap rest : List Char} (blank : IsGap gap)
    (valid : string.IsValid) (noLong : ∀ mark, string.style = .short mark →
      (QuoteStyle.long mark).split? (string.write ++ rest) = none) :
    Reads quotedText (gap ++ string.write) (String.ofList string.value) rest := by
  have read := quotedIn_reads blank valid rest
  have starts : Stops isLayoutStart (string.write ++ rest) := stops_string valid (by decide) rest
  have other : ∀ {style : QuoteStyle}, style.quote ≠ string.style.quote →
      Misses (quotedIn style) (gap ++ string.write ++ rest) :=
    fun different => quotedIn_misses_quote blank valid different rest
  have long : ∀ {mark : Char}, string.style = .short mark →
      Misses (quotedIn (.long mark)) (gap ++ string.write ++ rest) := by
    intro mark short
    rw [List.append_assoc]
    exact quotedIn_misses blank starts (noLong mark short)
  have known := valid.style
  simp only [QuoteStyle.all, List.mem_cons, List.not_mem_nil, or_false] at known
  rcases known with style | style | style | style
  · rw [style] at read
    exact read.firstOf_here
  · rw [style] at read other
    exact read.firstOf_here.firstOf_later (other (by decide))
  · have notLong := long style
    rw [style] at read other
    exact (read.firstOf_here.firstOf_later (other (by decide))).firstOf_later notLong
  · have notLong := long style
    rw [style] at read other
    exact ((read.firstOf_here.firstOf_later (other (by decide))).firstOf_later
      notLong).firstOf_later (other (by decide))

/-- A string is read as its value, in whatever form it is written. -/
theorem quotedText_reads_written {gap rest : List Char} (blank : IsGap gap)
    (valid : string.IsValid) (noQuote : Stops isQuote rest) :
    Reads quotedText (gap ++ string.write) (String.ofList string.value) rest := by
  refine quotedText_reads_unless_long blank valid fun mark short =>
    split?_long_write valid short fun _ same => ?_
  have isMark : isQuote mark = true := by
    have quotes := quote_of_mem_all valid.style
    rw [short, QuoteStyle.quote] at quotes
    rcases quotes with rfl | rfl <;> rfl
  rw [Stops, same] at noQuote
  simp [isMark] at noQuote

end FactQuery.Token
