import FactQuery.Proofs.Layout.Spacing
import FactQuery.Proofs.Token.Names
import FactQuery.Proofs.Token.QuotedText

/-!
# Words

A word is what is left of a token in front of the next layout.  A plain word has no character that
could begin layout, a string or a bracket, so a parser may stop anywhere inside of it.  The other
words are brackets, strings, and full IRIs that hold one of these characters; they are taken whole
or not at all.
-/

set_option autoImplicit false

namespace FactQuery.Token

open FactQuery.Text FactQuery.Grammar

/-- No layout, no string and no bracket begins with this character. -/
def isPlainChar (c : Char) : Bool :=
  !(isLayoutStart c || isQuote c || c == '(' || c == ')')

structure IsPlain (word : List Char) : Prop where
  nonempty : word ≠ []
  isPlainChar : ∀ c ∈ word, isPlainChar c = true

/-- The word is a string from its first quote to its last. -/
def IsQuoted (word : List Char) : Prop :=
  ∃ style ∈ QuoteStyle.all, ∃ body, style.split? word = some (body, [])

instance (word : List Char) : Decidable (IsQuoted word) :=
  decidable_of_iff (∃ style ∈ QuoteStyle.all, (style.split? word).map Prod.snd = some []) (by
    simp [IsQuoted, Option.map_eq_some_iff])

def IsFullIri (word : List Char) : Prop :=
  scanIriRef word = some (word, [])

instance (word : List Char) : Decidable (IsFullIri word) :=
  inferInstanceAs (Decidable (_ = _))

/-- The word is a full IRI with a character that is not plain. -/
def IsMarked (word : List Char) : Prop :=
  IsFullIri word ∧ word.all isPlainChar = false

instance (word : List Char) : Decidable (IsMarked word) :=
  inferInstanceAs (Decidable (_ ∧ _))

inductive IsWord : List Char → Prop where
  | plain {word : List Char} (isPlain : IsPlain word) : IsWord word
  | opening : IsWord ['(']
  | closing : IsWord [')']
  | quoted {word : List Char} (isQuoted : IsQuoted word) : IsWord word
  | marked {word : List Char} (isMarked : IsMarked word) : IsWord word

/-! ## Characters -/

def IsPlainClass (belongs : Char → Bool) : Prop :=
  ([' ', '\t', '\n', '\r', '#', '\x22', '\x27', '(', ')'].all fun c => !belongs c) = true

instance (belongs : Char → Bool) : Decidable (IsPlainClass belongs) :=
  inferInstanceAs (Decidable (_ = true))

theorem IsPlainClass.isPlainChar {belongs : Char → Bool} (isPlainClass : IsPlainClass belongs)
    {c : Char} (inside : belongs c = true) : isPlainChar c = true := by
  simp only [IsPlainClass, List.all_cons, List.all_nil, Bool.and_true, Bool.and_eq_true,
    Bool.not_eq_true'] at isPlainClass
  obtain ⟨space, tab, feed, carriage, hash, double, single, opening, closing⟩ := isPlainClass
  have different : ∀ d : Char, belongs d = false → (c == d) = false := by
    intro d excluded
    rw [beq_eq_false_iff_ne]
    rintro rfl
    rw [inside] at excluded
    contradiction
  simp [Token.isPlainChar, isLayoutStart, isLayoutBlank, isQuote, different _ space, different _ tab,
    different _ feed, different _ carriage, different _ hash, different _ double,
    different _ single, different _ opening, different _ closing]

theorem isPlainChar_iff {c : Char} :
    isPlainChar c = true ↔
      isLayoutStart c = false ∧ isQuote c = false ∧ c ≠ '(' ∧ c ≠ ')' := by
  simp [isPlainChar, and_assoc]

/-! ## Words -/

theorem IsQuoted.exists_quote {word : List Char} (isQuoted : IsQuoted word) :
    ∃ c rest, word = c :: rest ∧ isQuote c = true := by
  obtain ⟨style, known, body, split⟩ := isQuoted
  cases word with
  | nil =>
      have stops : Stops isQuote [] := rfl
      have missed := split?_eq_none known stops
      rw [split] at missed
      contradiction
  | cons c rest =>
      refine ⟨c, rest, rfl, ?_⟩
      by_contra other
      have stops : Stops isQuote (c :: rest) := Stops.cons_iff.2 (Bool.eq_false_iff.2 other)
      have missed := split?_eq_none known stops
      rw [split] at missed
      contradiction

theorem IsFullIri.exists_rest {word : List Char} (isFullIri : IsFullIri word) :
    ∃ rest, word = '<' :: rest := by
  obtain ⟨value, -, rfl, -⟩ := scanIriRef_angled_sound isFullIri
  exact ⟨_, rfl⟩

/-- No layout begins where a word does. -/
theorem IsWord.exists_front {word : List Char} (isWord : IsWord word) :
    ∃ c rest, word = c :: rest ∧ isLayoutStart c = false := by
  cases isWord with
  | plain isPlain =>
      obtain ⟨c, rest, rfl⟩ := List.exists_cons_of_ne_nil isPlain.nonempty
      exact ⟨c, rest, rfl, (isPlainChar_iff.1 (isPlain.isPlainChar c List.mem_cons_self)).1⟩
  | opening => exact ⟨_, _, rfl, rfl⟩
  | closing => exact ⟨_, _, rfl, rfl⟩
  | quoted isQuoted =>
      obtain ⟨c, rest, rfl, quote⟩ := isQuoted.exists_quote
      exact ⟨c, rest, rfl, isLayoutStart_eq_false (by decide) quote⟩
  | marked isMarked =>
      obtain ⟨rest, rfl⟩ := isMarked.1.exists_rest
      exact ⟨_, _, rfl, rfl⟩

theorem IsWord.ne_nil {word : List Char} (isWord : IsWord word) : word ≠ [] := by
  obtain ⟨c, rest, rfl, -⟩ := isWord.exists_front
  exact List.cons_ne_nil c rest

theorem IsWord.quoted_or_unquoted {word : List Char} (isWord : IsWord word) :
    IsQuoted word ∨ Stops isQuote word := by
  cases isWord with
  | plain isPlain =>
      obtain ⟨c, rest, rfl⟩ := List.exists_cons_of_ne_nil isPlain.nonempty
      have isPlainHere := isPlain.isPlainChar c List.mem_cons_self
      exact Or.inr (Stops.cons_iff.2 (isPlainChar_iff.1 isPlainHere).2.1)
  | opening => exact Or.inr rfl
  | closing => exact Or.inr rfl
  | quoted isQuoted => exact Or.inl isQuoted
  | marked isMarked =>
      obtain ⟨rest, rfl⟩ := isMarked.1.exists_rest
      exact Or.inr rfl

theorem IsWord.bracket_alone {c : Char} {left : List Char} (isWord : IsWord (c :: left))
    (bracket : c = '(' ∨ c = ')') : left = [] := by
  generalize same : c :: left = word at isWord
  cases isWord with
  | plain isPlain =>
      have isPlainHere := isPlainChar_iff.1 (isPlain.isPlainChar c (same ▸ List.mem_cons_self))
      rcases bracket with rfl | rfl
      · exact absurd rfl isPlainHere.2.2.1
      · exact absurd rfl isPlainHere.2.2.2
  | opening => exact (List.cons.inj same).2
  | closing => exact (List.cons.inj same).2
  | quoted isQuoted =>
      obtain ⟨d, rest, rfl, quote⟩ := isQuoted.exists_quote
      rw [← (List.cons.inj same).1] at quote
      rcases bracket with rfl | rfl <;> contradiction
  | marked isMarked =>
      obtain ⟨rest, rfl⟩ := isMarked.1.exists_rest
      rcases bracket with rfl | rfl <;> exact absurd (List.cons.inj same).1 (by decide)

/-- Where a parser stops inside of a word that is neither a string nor a marked IRI, what is left is
plain. -/
theorem IsWord.plain_left {taken left : List Char} (isWord : IsWord (taken ++ left))
    (nonempty : taken ≠ []) (noQuote : Stops isQuote (taken ++ left))
    (whole : IsMarked (taken ++ left) → left = []) : ∀ c ∈ left, isPlainChar c = true := by
  have alone : ∀ {c : Char}, taken ++ left = [c] → left = [] := by
    intro c same
    have size := congrArg List.length same
    have positive := List.length_pos_iff.2 nonempty
    rw [List.length_append, List.length_singleton] at size
    exact List.length_eq_zero_iff.1 (by omega)
  generalize same : taken ++ left = word at isWord noQuote whole
  cases isWord with
  | plain isPlain =>
      intro c inside
      exact isPlain.isPlainChar c (same ▸ List.mem_append_right taken inside)
  | opening => simp [alone same]
  | closing => simp [alone same]
  | quoted isQuoted =>
      obtain ⟨c, rest, rfl, quote⟩ := isQuoted.exists_quote
      rw [Stops.cons_iff, quote] at noQuote
      contradiction
  | marked isMarked => simp [whole isMarked]

end FactQuery.Token
