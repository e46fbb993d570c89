import FactQuery.Proofs.Token.WrittenString

/-!
# Strings with the fewest escapes

A style has few characters that cannot stand for themselves: the backslash and the quote, and in a
short string the two that end a line.  With these escaped and every other character kept, each text
can be written in each style.
-/

set_option autoImplicit false

namespace FactQuery.Token

open FactQuery.Text FactQuery.Grammar

namespace QuoteStyle

def escapeLetter? (style : QuoteStyle) (c : Char) : Option Char :=
  if c == '\\' || c == style.quote then some c
  else
    match style with
    | .short _ => if c == '\n' then some 'n' else if c == '\r' then some 'r' else none
    | .long _ => none

def writeChar (style : QuoteStyle) (c : Char) : List Char :=
  match style.escapeLetter? c with
  | some letter => ['\\', letter]
  | none => [c]

/-- A text between quotes, with the escapes that it cannot do without. -/
def write (style : QuoteStyle) (text : List Char) : List Char :=
  style.delimiter ++ (text.flatMap style.writeChar ++ style.delimiter)

/-! ## The pieces -/

def piece (style : QuoteStyle) (c : Char) : Piece :=
  match style.escapeLetter? c with
  | some letter => .letter letter c
  | none => .plain c

def keep (style : QuoteStyle) (text : List Char) : WrittenString :=
  ⟨style, text.map fun c => (0, style.piece c)⟩

variable {style : QuoteStyle} {text : List Char} {c : Char}

theorem write_piece (style : QuoteStyle) (c : Char) :
    (style.piece c).write = style.writeChar c ∧ (style.piece c).meaning = c := by
  rw [piece, writeChar]
  cases style.escapeLetter? c <;> exact ⟨rfl, rfl⟩

theorem body_keep (style : QuoteStyle) (text : List Char) :
    (style.keep text).body = text.flatMap style.writeChar := by
  simp [WrittenString.body, WrittenString.writePart, keep, List.flatMap_map, write_piece]

theorem write_keep (style : QuoteStyle) (text : List Char) :
    (style.keep text).write = style.write text := by
  rw [WrittenString.write, body_keep]
  rfl

theorem value_keep (style : QuoteStyle) (text : List Char) : (style.keep text).value = text := by
  simp [WrittenString.value, keep, List.flatMap_map, write_piece]

theorem writeChar_ne_nil (style : QuoteStyle) (c : Char) : style.writeChar c ≠ [] := by
  unfold writeChar
  split <;> simp

theorem eq_of_escapeLetter? {letter : Char} (found : style.escapeLetter? c = some letter) :
    (c = '\\' ∨ c = style.quote) ∧ letter = c ∨ c = '\n' ∧ letter = 'n' ∨
      c = '\r' ∧ letter = 'r' := by
  unfold escapeLetter? at found
  split at found
  · rename_i special
    rw [Bool.or_eq_true, beq_iff_eq, beq_iff_eq] at special
    exact .inl ⟨special, (Option.some.inj found).symm⟩
  · split at found
    · split at found
      · rename_i isFeed
        exact .inr (.inl ⟨beq_iff_eq.1 isFeed, (Option.some.inj found).symm⟩)
      · split at found
        · rename_i isReturn
          exact .inr (.inr ⟨beq_iff_eq.1 isReturn, (Option.some.inj found).symm⟩)
        · cases found
    · cases found

theorem letterEscape?_of_escapeLetter? {letter : Char} (known : style ∈ QuoteStyle.all)
    (found : style.escapeLetter? c = some letter) : letterEscape? letter = some c := by
  rcases eq_of_escapeLetter? found with ⟨rfl | rfl, rfl⟩ | ⟨rfl, rfl⟩ | ⟨rfl, rfl⟩
  · rfl
  · rcases quote_of_mem_all known with same | same <;> rw [same] <;> rfl
  · rfl
  · rfl

theorem isPlain_of_escapeLetter? (kept : style.escapeLetter? c = none) :
    style.isPlain c = true := by
  unfold escapeLetter? at kept
  split at kept
  · cases kept
  · rename_i ordinary
    simp only [Bool.or_eq_true, beq_iff_eq, not_or] at ordinary
    cases style with
    | long quote => simp [isPlain, ordinary]
    | short quote =>
        simp only at kept
        split at kept
        · cases kept
        · split at kept
          · cases kept
          · rename_i noFeed noReturn
            rw [beq_iff_eq] at noFeed noReturn
            simp [isPlain, ordinary, noFeed, noReturn]

/-- A tab is the one character that no string keeps. -/
theorem keep_isValid (known : style ∈ QuoteStyle.all) (noTab : '\t' ∉ text) :
    (style.keep text).IsValid := by
  refine ⟨known, fun part inside => ?_, fun part inside => ?_⟩
  · obtain ⟨c, -, rfl⟩ := List.mem_map.1 inside
    exact Nat.zero_le _
  · obtain ⟨c, held, rfl⟩ := List.mem_map.1 inside
    show (style.piece c).IsValid style
    rw [piece]
    cases found : style.escapeLetter? c with
    | some letter => exact letterEscape?_of_escapeLetter? known found
    | none => exact ⟨isPlain_of_escapeLetter? found, fun tab => noTab (tab ▸ held)⟩

end QuoteStyle

/-! ## Reading -/

/-- A text is read back from the string that keeps it.  Two quotes alone are no string where they
begin a long one. -/
theorem quotedText_at_keep {style : QuoteStyle} {text more : List Char} {here : Cursor}
    (known : style ∈ QuoteStyle.all) (noTab : '\t' ∉ text)
    (ahead : here.skipLayout.rest = style.write text ++ more)
    (alone : text = [] → ∀ mark, style = .short mark →
      (QuoteStyle.long mark).split? (style.write text ++ more) = none) :
    ∃ past, past.rest = more ∧ quotedText here = .matched (String.ofList text) past := by
  have valid := QuoteStyle.keep_isValid known noTab
  have noLong : ∀ mark, style = .short mark →
      (QuoteStyle.long mark).split? ((style.keep text).write ++ more) = none := by
    intro mark short
    cases text with
    | nil => exact alone rfl mark short
    | cons c others =>
        refine split?_long_write valid short fun empty => ?_
        rw [QuoteStyle.body_keep, List.flatMap_cons, List.append_eq_nil_iff] at empty
        exact absurd empty.1 (style.writeChar_ne_nil c)
  have reads := quotedText_reads_unless_long IsGap.nil valid noLong
  rw [List.nil_append, QuoteStyle.write_keep, QuoteStyle.value_keep] at reads
  exact quotedText_passes.matched ahead reads

end FactQuery.Token
