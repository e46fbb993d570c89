import FactQuery.Proofs.Grammar.Tokens
import FactQuery.Text.Escape
import Mathlib.Data.List.Forall2
import Mathlib.Data.List.Induction

/-!
# What decoding of escapes accepts

The ways to write a character are given here by a table of letters and by the digits of its code
point.  A text decodes to the characters that its pieces spell.  It fails where the scan from the
left meets a backslash that starts none of the escapes, and the failure names that place.
-/

set_option autoImplicit false

namespace FactQuery.Text

open FactQuery.Grammar

/-! ## Hexadecimal digits -/

def WritesHex (value : Nat) (digits : List Char) : Prop :=
  value < Nat.pow 16 digits.length ∧ digits.map Char.toLower = hexPadded digits.length value

theorem hexPadded_succ (width value : Nat) :
    hexPadded (width + 1) value =
      hexPadded width (value / 16) ++ [Nat.digitChar (value % 16)] := by
  have higher : ∀ place, value / 16 ^ (place + 1) = value / 16 / 16 ^ place := by
    intro place
    rw [Nat.div_div_eq_div_mul, Nat.pow_succ']
  rw [hexPadded, List.range_succ_eq_map, List.reverse_cons, List.map_append, ← List.map_reverse,
    List.map_map]
  simp [hexPadded, Function.comp_def, higher]

theorem lt_of_hexDigit? {c : Char} {n : Nat} (known : hexDigit? c = some n) :
    n < 16 ∧ c.toNat < 128 := by
  simp only [hexDigit?] at known
  grind

theorem toLower_of_large {c : Char} (large : 128 ≤ c.toNat) : c.toLower = c := by
  have outside : ¬(c.val ≥ 'A'.val ∧ c.val ≤ 'Z'.val) := by
    rintro ⟨-, below⟩
    have bounded : c.toNat ≤ 90 := below
    omega
  exact dif_neg outside

theorem hexDigit?_eq_some_iff {c : Char} {n : Nat} :
    hexDigit? c = some n ↔ n < 16 ∧ c.toLower = Nat.digitChar n := by
  rcases Nat.lt_or_ge c.toNat 128 with small | large
  · have each : ∀ n < 16, (hexDigit? c = some n ↔ c.toLower = Nat.digitChar n) :=
      of_forall_ascii
        (fun c => ∀ n < 16, (hexDigit? c = some n ↔ c.toLower = Nat.digitChar n))
        (by decide +kernel) small
    constructor
    · intro known
      have bounded := (lt_of_hexDigit? known).1
      exact ⟨bounded, (each n bounded).1 known⟩
    · rintro ⟨bounded, same⟩
      exact (each n bounded).2 same
  · constructor
    · intro known
      have small := (lt_of_hexDigit? known).2
      omega
    · rintro ⟨bounded, same⟩
      have small : ∀ n < 16, (Nat.digitChar n).toNat < 128 := by decide
      have known := small n bounded
      rw [← same, toLower_of_large large] at known
      omega

theorem writesHex_nil {value : Nat} : WritesHex value [] ↔ value = 0 := by
  simp [WritesHex, hexPadded]

theorem writesHex_concat {value : Nat} {digits : List Char} {digit : Char} :
    WritesHex value (digits ++ [digit]) ↔
      WritesHex (value / 16) digits ∧ hexDigit? digit = some (value % 16) := by
  have width : (digits ++ [digit]).length = digits.length + 1 := by simp
  have bound : value < Nat.pow 16 (digits.length + 1) ↔ value / 16 < Nat.pow 16 digits.length := by
    rw [Nat.div_lt_iff_lt_mul (by decide)]
    exact Iff.rfl
  have written : (digits ++ [digit]).map Char.toLower =
      hexPadded digits.length (value / 16) ++ [Nat.digitChar (value % 16)] ↔
        digits.map Char.toLower = hexPadded digits.length (value / 16) ∧
          digit.toLower = Nat.digitChar (value % 16) := by
    simp
  rw [WritesHex, width, hexPadded_succ, bound, written, hexDigit?_eq_some_iff, WritesHex]
  have remainder : value % 16 < 16 := Nat.mod_lt value (by decide)
  tauto

theorem hexValue?_concat (digits : List Char) (digit : Char) :
    hexValue? (digits ++ [digit]) =
      (hexValue? digits).bind fun high => (hexDigit? digit).map (16 * high + ·) := by
  simp [hexValue?, List.foldlM_append]

theorem hexValue?_eq_some_iff {digits : List Char} {value : Nat} :
    hexValue? digits = some value ↔ WritesHex value digits := by
  induction digits using List.reverseRecOn generalizing value with
  | nil =>
      rw [writesHex_nil, hexValue?, List.foldlM_nil]
      exact Option.some_inj.trans eq_comm
  | append_singleton digits digit inductionHypothesis =>
      rw [writesHex_concat, hexValue?_concat, Option.bind_eq_some_iff]
      constructor
      · rintro ⟨high, known, rest⟩
        obtain ⟨low, isDigit, rfl⟩ := Option.map_eq_some_iff.1 rest
        have bounded : low < 16 := (hexDigit?_eq_some_iff.1 isDigit).1
        have upper : (16 * high + low) / 16 = high := by omega
        have lower : (16 * high + low) % 16 = low := by omega
        rw [upper, lower]
        exact ⟨inductionHypothesis.1 known, isDigit⟩
      · rintro ⟨writes, isDigit⟩
        refine ⟨value / 16, inductionHypothesis.2 writes, ?_⟩
        rw [isDigit, Option.map_some, Nat.div_add_mod]

instance (value : Nat) (digits : List Char) : Decidable (WritesHex value digits) :=
  decidable_of_iff _ hexValue?_eq_some_iff

/-! ## Escapes -/

def letterEscapes : List (Char × Char) :=
  [('t', '\t'), ('b', '\x08'), ('n', '\n'), ('r', '\r'), ('f', '\x0c'), ('\x22', '\x22'),
    ('\x27', '\x27'), ('\\', '\\')]

theorem letterEscape?_eq_some_iff {mark c : Char} :
    letterEscape? mark = some c ↔ (mark, c) ∈ letterEscapes := by
  constructor
  · intro known
    simp only [letterEscape?, beq_iff_eq, Bool.or_eq_true, or_assoc] at known
    split_ifs at known <;> cases known <;> simp_all [letterEscapes]
  · intro inside
    have each : ∀ pair ∈ letterEscapes, letterEscape? pair.1 = some pair.2 := by decide
    exact each (mark, c) inside

/-- The ways to write a character. -/
inductive Spells : Char → List Char → Prop
  | plain {c : Char} (noBackslash : c ≠ '\\') : Spells c [c]
  | letter {mark c : Char} (known : (mark, c) ∈ letterEscapes) : Spells c ['\\', mark]
  | short {c : Char} {digits : List Char} (four : digits.length = 4)
      (writes : WritesHex c.toNat digits) : Spells c ('\\' :: 'u' :: digits)
  | long {c : Char} {digits : List Char} (eight : digits.length = 8)
      (writes : WritesHex c.toNat digits) : Spells c ('\\' :: 'U' :: digits)

inductive IsEscape : List Char → Prop
  | letter {mark c : Char} (known : (mark, c) ∈ letterEscapes) : IsEscape ['\\', mark]
  | short {digits : List Char} {value : Nat} (four : digits.length = 4)
      (writes : WritesHex value digits) : IsEscape ('\\' :: 'u' :: digits)
  | long {digits : List Char} {value : Nat} (eight : digits.length = 8)
      (writes : WritesHex value digits) (bounded : value ≤ 0x10ffff) :
      IsEscape ('\\' :: 'U' :: digits)

/-- What the scan passes in one step. -/
def IsUnit (unit : List Char) : Prop :=
  (∃ c, c ≠ '\\' ∧ unit = [c]) ∨ IsEscape unit

inductive Names : List Char → String → Prop
  | character {c : Char} {more : List Char}
      (noNumber : ∀ digits value, digits.length = 8 → WritesHex value digits →
        ¬ 'U' :: digits <+: c :: more) :
      Names (c :: more) ("Invalid escape sequence: \\" ++ String.singleton c)
  | number {digits more : List Char} {value : Nat} (eight : digits.length = 8)
      (writes : WritesHex value digits) :
      Names ('U' :: (digits ++ more))
        ("Invalid code point in escape: \\U" ++ String.ofList digits)

/-- The scan fails at the front of the text: a backslash that starts no escape. -/
inductive Breaks : List Char → String → Prop
  | intro {behind : List Char} {message : String}
      (noEscape : ∀ escape, IsEscape escape → ¬ escape <+: '\\' :: behind)
      (names : Names behind message) : Breaks ('\\' :: behind) message

/-! ## One step of the scan -/

theorem charAt_toNat (c : Char) : charAt c.toNat = c := by
  have valid : c.toNat.isValidChar := c.valid
  rw [charAt, if_pos valid, Char.ofNat_toNat]

theorem toNat_le (c : Char) : c.toNat ≤ 0x10ffff := by
  rcases c.valid with small | ⟨-, large⟩
  · exact Nat.le_of_lt (Nat.lt_trans small (by decide))
  · exact Nat.le_of_lt_succ large

theorem unescape_plain {c : Char} (noBackslash : c ≠ '\\') (rest : List Char) :
    unescape (c :: rest) = (unescape rest).map (c :: ·) := by
  rw [unescape.eq_def]
  simp [noBackslash]

theorem unescape_letter {mark c : Char} (known : letterEscape? mark = some c)
    (rest : List Char) :
    unescape ('\\' :: mark :: rest) = (unescape rest).map (c :: ·) := by
  have notShort : mark ≠ 'u' := by
    rintro rfl
    cases known
  have notLong : mark ≠ 'U' := by
    rintro rfl
    cases known
  rw [unescape.eq_def]
  simp [known, notShort, notLong]

theorem unescape_short {digits : List Char} {value : Nat} (four : digits.length = 4)
    (known : hexValue? digits = some value) (rest : List Char) :
    unescape ('\\' :: 'u' :: (digits ++ rest)) =
      (unescape rest).map (charAt value :: ·) := by
  match digits, four with
  | [_, _, _, _], _ => simp [unescape, known]

theorem unescape_long {digits : List Char} {value : Nat} (eight : digits.length = 8)
    (known : hexValue? digits = some value) (rest : List Char) :
    unescape ('\\' :: 'U' :: (digits ++ rest)) =
      if value ≤ 0x10ffff then (unescape rest).map (charAt value :: ·)
      else .error (.outOfRange digits) := by
  match digits, eight with
  | [_, _, _, _, _, _, _, _], _ => simp [unescape, known]

/-- A step over a written character gives the character. -/
theorem unescape_spelled {c : Char} {piece : List Char} (spells : Spells c piece)
    (rest : List Char) : unescape (piece ++ rest) = (unescape rest).map (c :: ·) := by
  cases spells with
  | plain noBackslash => exact unescape_plain noBackslash rest
  | letter known => exact unescape_letter (letterEscape?_eq_some_iff.2 known) rest
  | short four writes =>
      have step := unescape_short four (hexValue?_eq_some_iff.2 writes) rest
      rwa [charAt_toNat] at step
  | long eight writes =>
      have step := unescape_long eight (hexValue?_eq_some_iff.2 writes) rest
      rwa [if_pos (toNat_le c), charAt_toNat] at step

theorem unescape_unit {unit : List Char} (isUnit : IsUnit unit) :
    ∃ c, ∀ rest, unescape (unit ++ rest) = (unescape rest).map (c :: ·) := by
  rcases isUnit with ⟨c, noBackslash, rfl⟩ | isEscape
  · exact ⟨c, unescape_plain noBackslash⟩
  · cases isEscape with
    | letter known => exact ⟨_, unescape_letter (letterEscape?_eq_some_iff.2 known)⟩
    | short four writes => exact ⟨_, unescape_short four (hexValue?_eq_some_iff.2 writes)⟩
    | @long digits value eight writes bounded =>
        refine ⟨charAt value, fun rest => ?_⟩
        rw [List.cons_append, List.cons_append,
          unescape_long eight (hexValue?_eq_some_iff.2 writes), if_pos bounded]

theorem unescape_unknown {c : Char} {more : List Char} (noLetter : letterEscape? c = none)
    (noShort : ∀ digits rest, c = 'u' → digits.length = 4 → more = digits ++ rest →
      hexValue? digits = none)
    (noLong : ∀ digits rest, c = 'U' → digits.length = 8 → more = digits ++ rest →
      hexValue? digits = none) :
    unescape ('\\' :: c :: more) = .error (.unknown c) := by
  rw [unescape.eq_def]
  simp only [beq_self_eq_true, if_true]
  split
  next heq => cases heq
  next d₁ d₂ d₃ d₄ rest heq =>
    cases heq
    rw [noShort [d₁, d₂, d₃, d₄] rest rfl rfl rfl]
  next d₁ d₂ d₃ d₄ d₅ d₆ d₇ d₈ rest heq =>
    cases heq
    rw [noLong [d₁, d₂, d₃, d₄, d₅, d₆, d₇, d₈] rest rfl rfl rfl]
  next heq =>
    cases heq
    rw [noLetter]

theorem unescape_breaks {text : List Char} {message : String} (breaks : Breaks text message) :
    (unescape text).mapError EscapeError.message = .error message := by
  obtain ⟨noEscape, names⟩ := breaks
  cases names with
  | @character c more noNumber =>
      rw [unescape_unknown]
      · rfl
      · rw [Option.eq_none_iff_forall_ne_some]
        intro plain known
        exact noEscape _ (.letter (letterEscape?_eq_some_iff.1 known)) ⟨more, rfl⟩
      · rintro digits rest rfl four rfl
        rw [Option.eq_none_iff_forall_ne_some]
        intro value known
        exact noEscape _ (.short four (hexValue?_eq_some_iff.1 known)) ⟨rest, rfl⟩
      · rintro digits rest rfl eight rfl
        rw [Option.eq_none_iff_forall_ne_some]
        intro value known
        exact noNumber digits value eight (hexValue?_eq_some_iff.1 known) ⟨rest, rfl⟩
  | @number digits more value eight writes =>
      have tooLarge : ¬ value ≤ 0x10ffff :=
        fun bounded => noEscape _ (.long eight writes bounded) ⟨more, rfl⟩
      rw [unescape_long eight (hexValue?_eq_some_iff.2 writes), if_neg tooLarge]
      rfl

/-! ## The whole scan -/

/-- What stands behind the units that a scan has passed when it ends. -/
def EndsScan (last : List Char) : Prop :=
  last = [] ∨ last = ['\\'] ∨ ∃ message, Breaks last message

theorem unit_or_endsScan (text : List Char) :
    (∃ unit rest, IsUnit unit ∧ text = unit ++ rest) ∨ EndsScan text := by
  rcases text with - | ⟨c, behind⟩
  · exact Or.inr (Or.inl rfl)
  by_cases isBackslash : c = '\\'
  · subst isBackslash
    by_cases escaped : ∃ escape, IsEscape escape ∧ escape <+: '\\' :: behind
    · obtain ⟨escape, isEscape, rest, same⟩ := escaped
      exact Or.inl ⟨escape, rest, Or.inr isEscape, same.symm⟩
    have noEscape : ∀ escape, IsEscape escape → ¬ escape <+: '\\' :: behind :=
      fun escape isEscape inFront => escaped ⟨escape, isEscape, inFront⟩
    rcases behind with - | ⟨c, more⟩
    · exact Or.inr (Or.inr (Or.inl rfl))
    by_cases numbered : ∃ digits value, digits.length = 8 ∧ WritesHex value digits ∧
        'U' :: digits <+: c :: more
    · obtain ⟨digits, value, eight, writes, rest, same⟩ := numbered
      rw [← same] at noEscape ⊢
      exact Or.inr (Or.inr (Or.inr ⟨_, .intro noEscape (.number eight writes)⟩))
    · refine Or.inr (Or.inr (Or.inr ⟨_, .intro noEscape (.character ?_)⟩))
      intro digits value eight writes inFront
      exact numbered ⟨digits, value, eight, writes, inFront⟩
  · exact Or.inl ⟨[c], behind, Or.inl ⟨c, isBackslash, rfl⟩, rfl⟩

theorem IsUnit.length_pos {unit : List Char} (isUnit : IsUnit unit) : 0 < unit.length := by
  rcases isUnit with ⟨c, -, rfl⟩ | isEscape
  · exact Nat.one_pos
  · cases isEscape <;> simp

theorem exists_units (text : List Char) :
    ∃ (units : List (List Char)) (last : List Char),
      (∀ unit ∈ units, IsUnit unit) ∧ text = units.flatten ++ last ∧ EndsScan last := by
  induction size : text.length using Nat.strongRecOn generalizing text with
  | ind length inductionHypothesis =>
      rcases unit_or_endsScan text with ⟨unit, rest, isUnit, rfl⟩ | ends
      · have shorter : rest.length < length := by
          have positive := isUnit.length_pos
          rw [List.length_append] at size
          omega
        obtain ⟨units, last, areUnits, rfl, ends⟩ :=
          inductionHypothesis rest.length shorter rest rfl
        exact ⟨unit :: units, last, List.forall_mem_cons.2 ⟨isUnit, areUnits⟩, by simp, ends⟩
      · exact ⟨[], text, by simp, rfl, ends⟩

/-- Units are decoded whatever stands behind them. -/
theorem unescape_units {units : List (List Char)} (areUnits : ∀ unit ∈ units, IsUnit unit) :
    ∃ value, ∀ rest, unescape (units.flatten ++ rest) = (unescape rest).map (value ++ ·) := by
  induction units with
  | nil =>
      refine ⟨[], fun rest => ?_⟩
      rw [List.flatten_nil, List.nil_append]
      cases unescape rest <;> rfl
  | cons unit units inductionHypothesis =>
      rw [List.forall_mem_cons] at areUnits
      obtain ⟨c, step⟩ := unescape_unit areUnits.1
      obtain ⟨value, run⟩ := inductionHypothesis areUnits.2
      refine ⟨c :: value, fun rest => ?_⟩
      rw [List.flatten_cons, List.append_assoc, step, run]
      cases unescape rest <;> rfl

theorem unescape_spelled_text {text : List Char} {pieces : List (List Char)}
    (spelled : List.Forall₂ Spells text pieces) : unescape pieces.flatten = .ok text := by
  induction spelled with
  | nil => rfl
  | @cons c piece text pieces spells _ inductionHypothesis =>
      rw [List.flatten_cons, unescape_spelled spells, inductionHypothesis]
      rfl

theorem unescape_names_first {text : List Char} {message : String} :
    (unescape text).mapError EscapeError.message = .error message ↔
      ∃ (units : List (List Char)) (last : List Char),
        (∀ unit ∈ units, IsUnit unit) ∧ text = units.flatten ++ last ∧ Breaks last message := by
  have failsAt : ∀ {units : List (List Char)} {last : List Char} {named : String},
      (∀ unit ∈ units, IsUnit unit) → Breaks last named →
      (unescape (units.flatten ++ last)).mapError EscapeError.message = .error named := by
    intro units last named areUnits breaks
    obtain ⟨value, run⟩ := unescape_units areUnits
    have failure := unescape_breaks breaks
    rw [run]
    cases found : unescape last with
    | ok value =>
        rw [found] at failure
        cases failure
    | error error =>
        rw [found] at failure
        exact failure
  constructor
  · intro failure
    obtain ⟨units, last, areUnits, rfl, ends⟩ := exists_units text
    obtain ⟨value, run⟩ := unescape_units areUnits
    rw [run] at failure
    rcases ends with rfl | rfl | ⟨named, breaks⟩
    · cases failure
    · cases failure
    · have same := failsAt areUnits breaks
      rw [run, failure] at same
      cases same
      exact ⟨units, last, areUnits, rfl, breaks⟩
  · rintro ⟨units, last, areUnits, rfl, breaks⟩
    exact failsAt areUnits breaks

/-- Decoding gives back every text from every way to write its characters.  It fails where the scan
from the left first meets a backslash that starts no escape, with the name of that place.  A lone
backslash at the end stays. -/
theorem unescape_inverts_writing :
    (∀ (text : List Char) (pieces : List (List Char)), List.Forall₂ Spells text pieces →
      unescape pieces.flatten = .ok text) ∧
    (∀ (text : List Char) (message : String),
      (unescape text).mapError EscapeError.message = .error message ↔
        ∃ (units : List (List Char)) (last : List Char),
          (∀ unit ∈ units, IsUnit unit) ∧ text = units.flatten ++ last ∧ Breaks last message) ∧
    ∀ units : List (List Char), (∀ unit ∈ units, IsUnit unit) →
      ∃ value, unescape units.flatten = .ok value ∧
        unescape (units.flatten ++ ['\\']) = .ok (value ++ ['\\']) := by
  refine ⟨fun text pieces => unescape_spelled_text, fun text message => unescape_names_first, ?_⟩
  intro units areUnits
  obtain ⟨value, run⟩ := unescape_units areUnits
  have alone := run []
  rw [List.append_nil] at alone
  exact ⟨value, by simpa [unescape, Except.map] using alone, run ['\\']⟩

/-- An escaped backslash in front of an `n` and a letter by its code point; a code point that is cut
short; a backslash at the end. -/
theorem unescape_inverts_writing_samples :
    unescape ['\\', '\\', 'n', '\\', 'u', '0', '0', 'E', '9'] = .ok ['\\', 'n', 'é'] ∧
      (unescape ['n', '\\', 'u', '0', '0', 'E']).mapError EscapeError.message =
        .error "Invalid escape sequence: \\u" ∧
      ∃ value, unescape ['\\', 't'] = .ok value ∧
        unescape ['\\', 't', '\\'] = .ok (value ++ ['\\']) := by
  refine ⟨?_, ?_, ?_⟩
  · have spelled : List.Forall₂ Spells ['\\', 'n', 'é']
        [['\\', '\\'], ['n'], ['\\', 'u', '0', '0', 'E', '9']] :=
      .cons (.letter (by decide)) (.cons (.plain (by decide))
        (.cons (.short rfl (by decide)) .nil))
    exact unescape_inverts_writing.1 _ _ spelled
  · have isUnit : ∀ unit ∈ [['n']], IsUnit unit :=
      List.forall_mem_singleton.2 (Or.inl ⟨'n', by decide, rfl⟩)
    have breaks : Breaks ['\\', 'u', '0', '0', 'E'] "Invalid escape sequence: \\u" := by
      refine .intro ?_ (.character ?_)
      · rintro escape isEscape inFront
        cases isEscape with
        | letter known => simp_all [letterEscapes]
        | short four writes =>
            have short := inFront.length_le
            simp [four] at short
        | long eight writes bounded => simp at inFront
      · intro digits value eight writes inFront
        simp at inFront
    exact (unescape_inverts_writing.2.1 _ _).2 ⟨_, _, isUnit, rfl, breaks⟩
  · have isUnit : ∀ unit ∈ [['\\', 't']], IsUnit unit :=
      List.forall_mem_singleton.2 (Or.inr (.letter (c := '\t') (by decide)))
    exact unescape_inverts_writing.2.2 _ isUnit

end FactQuery.Text
