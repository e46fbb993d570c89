import FactQuery.Proofs.Grammar.Tokens
import FactQuery.Token.Number
import FactQuery.Vocabulary

/-!
# Reading numbers

Where no number can begin every kind of number token refuses, and the decimal digits of a natural
number are read as that number.
-/

set_option autoImplicit false

namespace FactQuery.Token

open FactQuery.Text FactQuery.Grammar FactQuery.Number

/-! ## Where no number begins -/

def isNumberFront (c : Char) : Bool :=
  c == '+' || c == '-' || c == '.' || isDecimalDigit c

theorem splitSign_of_stops {text : List Char} (stops : Stops isNumberFront text) :
    splitSign text = ([], text) := by
  cases text with
  | nil => rfl
  | cons c rest =>
      rw [Stops.cons_iff] at stops
      simp only [isNumberFront, Bool.or_eq_false_iff, beq_eq_false_iff_ne] at stops
      obtain ⟨⟨⟨noPlus, noMinus⟩, _⟩, _⟩ := stops
      simp [splitSign, noPlus, noMinus]

theorem stops_isDecimalDigit {text : List Char} (stops : Stops isNumberFront text) :
    Stops isDecimalDigit text := by
  refine stops.mono ?_
  intro c digit
  simp [isNumberFront, digit]

theorem split_of_stops {text : List Char} (stops : Stops isNumberFront text) :
    (Mantissa.split text).1 = ⟨[], [], none⟩ := by
  have digits := stops_isDecimalDigit stops
  simp only [Mantissa.split, splitSign_of_stops stops, digits.takeWhile_eq_nil,
    digits.dropWhile_eq_self]
  cases text with
  | nil => rfl
  | cons c rest =>
      rw [Stops.cons_iff] at stops
      simp only [isNumberFront, Bool.or_eq_false_iff, beq_eq_false_iff_ne] at stops
      obtain ⟨⟨_, noPoint⟩, _⟩ := stops
      simp [noPoint]

theorem scans_of_stops {text : List Char} (stops : Stops isNumberFront text) :
    scanDouble text = none ∧ scanDecimal text = none ∧ scanInteger text = none := by
  have digits := stops_isDecimalDigit stops
  refine ⟨?_, ?_, ?_⟩
  · simp [scanDouble, split_of_stops stops, Mantissa.hasDigit]
  · simp [scanDecimal, split_of_stops stops]
  · simp [scanInteger, splitSign_of_stops stops, digits.takeWhile_eq_nil]

/-- The kinds of numbers in the order in which a grammar tries them, each with its datatype. -/
def numberChoice {α : Type} (typed : String → String → α) : Parser α :=
  let ofKind := fun (scan : Scanner) (datatype : String) => do
    let value ← numberText scan
    return typed value datatype
  Parser.firstOf [ofKind scanDouble Vocabulary.xsdDouble, ofKind scanDecimal Vocabulary.xsdDecimal,
    ofKind scanInteger Vocabulary.xsdInteger]

theorem numberChoice_misses {α : Type} (typed : String → String → α) {gap text : List Char}
    (blank : IsGap gap) (starts : Stops isLayoutStart text) (noNumber : Stops isNumberFront text) :
    Misses (numberChoice typed) (gap ++ text) := by
  obtain ⟨noDouble, noDecimal, noInteger⟩ := scans_of_stops noNumber
  refine Misses.firstOf ?_
  simp only [List.forall_mem_cons]
  refine ⟨?_, ?_, ?_, by simp⟩
  · exact (lexeme_misses blank starts noDouble).bind.bind
  · exact (lexeme_misses blank starts noDecimal).bind.bind
  · exact (lexeme_misses blank starts noInteger).bind.bind

/-- The digits of other scripts lie above the letters of this one. -/
theorem isDecimalDigit_of_low {c : Char} (low : c.toNat < 0x660)
    (outside : c.toNat < 0x30 ∨ 0x39 < c.toNat) : isDecimalDigit c = false := by
  have starts : ∀ start ∈ zeroDigits, start = 0x30 ∨ 0x660 ≤ start := by decide
  rw [isDecimalDigit, digitValue?, Option.isSome_map, Option.isSome_eq_false_iff,
    Option.isNone_iff_eq_none, List.find?_eq_none]
  intro start known
  rcases starts start known with same | high
  · simp only [Bool.and_eq_true, decide_eq_true_eq]
    omega
  · simp only [Bool.and_eq_true, decide_eq_true_eq]
    omega

theorem isNumberFront_of_isAlpha {c : Char} (letter : c.isAlpha = true) :
    isNumberFront c = false := by
  have range := toNat_of_isAlpha letter
  have noDigit : isDecimalDigit c = false := isDecimalDigit_of_low (by omega) (by omega)
  have different : ∀ d : Char, d.toNat < 65 → c ≠ d := by
    rintro d low rfl
    omega
  simp [isNumberFront, noDigit, different '+' (by decide), different '-' (by decide),
    different '.' (by decide)]

/-! ## Decimal digits -/

theorem digitValue?_digitChar {digit : Nat} (small : digit < 10) :
    digitValue? (Nat.digitChar digit) = some digit := by
  have each : ∀ digit < 10, digitValue? (Nat.digitChar digit) = some digit := by decide
  exact each digit small

theorem digitsValue_append_singleton (digits : List Char) (c : Char) :
    digitsValue (digits ++ [c]) = 10 * digitsValue digits + (digitValue? c).getD 0 := by
  rw [digitsValue, List.foldl_append]
  rfl

theorem digitsValue_toDigits (number : Nat) : digitsValue (Nat.toDigits 10 number) = number := by
  induction number using Nat.strongRecOn with
  | ind number inductionHypothesis =>
      rw [Nat.toDigits_eq_if (by decide)]
      split
      · rename_i small
        simp [digitsValue, digitValue?_digitChar small]
      · have smaller : number / 10 < number := by omega
        have small : number % 10 < 10 := Nat.mod_lt number (by decide)
        rw [digitsValue_append_singleton, inductionHypothesis _ smaller,
          digitValue?_digitChar small, Option.getD_some]
        omega

end FactQuery.Token
