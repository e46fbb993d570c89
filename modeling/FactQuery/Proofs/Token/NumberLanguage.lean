import FactQuery.Proofs.Grammar.Ensures
import FactQuery.Proofs.Token.Progress
import FactQuery.Proofs.Token.WrittenNumber

/-!
# The language of number tokens

The texts that a number token takes whole are the written shorthand numerals: the parts that a
scanner takes off a text are those of a numeral, and a written numeral is read as itself.  The kind
of the token follows from the parts that are there.
-/

set_option autoImplicit false

namespace FactQuery.Number

open FactQuery.Text FactQuery.Grammar

/-! ## Parts that a reader takes off a text -/

theorem isSign_splitSign (text : List Char) : IsSign (splitSign text).1 := by
  cases text with
  | nil => exact Or.inl rfl
  | cons c rest =>
      rw [splitSign]
      split
      · rename_i signed
        rw [Bool.or_eq_true, beq_iff_eq, beq_iff_eq] at signed
        rcases signed with rfl | rfl
        · exact Or.inr (Or.inl rfl)
        · exact Or.inr (Or.inr rfl)
      · exact Or.inl rfl

theorem areDigits_takeWhile (text : List Char) : AreDigits (text.takeWhile isDecimalDigit) :=
  List.all_eq_true.1 List.all_takeWhile

theorem Mantissa.isValid_split {text : List Char} (hasDigit : (split text).1.hasDigit = true) :
    (split text).1.IsValid where
  sign := by
    have sign : (split text).1.sign = (splitSign text).1 := by
      simp only [split]
      split <;> rfl
    rw [sign]
    exact isSign_splitSign text
  whole := by
    have whole : (split text).1.whole = (splitSign text).2.takeWhile isDecimalDigit := by
      simp only [split]
      split <;> rfl
    rw [whole]
    exact areDigits_takeWhile _
  fraction := Token.mantissa_fraction_digits text
  hasDigit := hasDigit

theorem Exponent.isValid_of_split? {text rest : List Char} {exponent : Exponent}
    (found : split? text = some (exponent, rest)) : exponent.IsValid := by
  cases text with
  | nil => cases found
  | cons marker behind =>
      simp only [split?, Bool.and_eq_true, Bool.or_eq_true, beq_iff_eq, Bool.not_eq_true',
        List.isEmpty_eq_false_iff] at found
      split at found
      · rename_i marked
        obtain ⟨rfl, rfl⟩ := Prod.mk.inj (Option.some.inj found)
        exact ⟨marked.1, isSign_splitSign behind, areDigits_takeWhile _, marked.2⟩
      · cases found

/-! ## A written numeral is read as itself -/

theorem Numeral.ofText?_written {numeral : Numeral} (shorthand : numeral.IsShorthand) :
    ofText? numeral.written = some numeral := by
  obtain ⟨mantissa, exponent⟩ := numeral
  have valid : mantissa.IsValid := shorthand.mantissa
  cases exponent with
  | none =>
      have split : Mantissa.split (mantissa.written ++ []) = (mantissa, []) :=
        Mantissa.split_append valid rfl
      have written : (Numeral.mk mantissa none).written = mantissa.written ++ [] := rfl
      rw [written, ofText?, split?, split]
      simp [valid.hasDigit, Exponent.split?]
  | some exponent =>
      have isExponent : exponent.IsValid := shorthand.exponent exponent rfl
      have split : Mantissa.split (mantissa.written ++ (exponent.written ++ [])) =
          (mantissa, exponent.written ++ []) :=
        Mantissa.split_append valid (isExponent.stops [])
      have behind : Exponent.split? (exponent.written ++ []) = some (exponent, []) :=
        Exponent.split?_append isExponent rfl
      have written : (Numeral.mk mantissa (some exponent)).written =
          mantissa.written ++ (exponent.written ++ []) := by
        simp [Numeral.written]
      rw [written, ofText?, split?, split]
      simp only [valid.hasDigit, behind, if_true]

end FactQuery.Number

namespace FactQuery.Token

open FactQuery.Text FactQuery.Grammar FactQuery.Number

variable {numeral : Numeral} {text token rest : List Char}

/-! ## The numeral of a token -/

theorem scanDouble_sound (scanned : scanDouble text = some (token, rest)) :
    ∃ numeral : Numeral, numeral.IsShorthand ∧ numeral.written = token ∧
      numeral.exponent.isSome = true := by
  simp only [scanDouble] at scanned
  split at scanned
  · rename_i hasDigit
    obtain ⟨⟨exponent, behind⟩, found, same⟩ := Option.map_eq_some_iff.1 scanned
    obtain ⟨rfl, rfl⟩ := Prod.mk.inj same
    refine ⟨⟨(Mantissa.split text).1, some exponent⟩, ⟨?_, ?_, ?_⟩, rfl, rfl⟩
    · exact Mantissa.isValid_split hasDigit
    · rintro other ⟨rfl⟩
      exact Exponent.isValid_of_split? found
    · simp
  · cases scanned

theorem scanDecimal_sound (scanned : scanDecimal text = some (token, rest)) :
    ∃ numeral : Numeral, numeral.IsShorthand ∧ numeral.written = token ∧
      numeral.exponent = none ∧ numeral.mantissa.fraction.isSome = true := by
  simp only [scanDecimal] at scanned
  split at scanned
  · rename_i behindPoint
    obtain ⟨rfl, rfl⟩ := Prod.mk.inj (Option.some.inj scanned)
    have hasDigit : (Mantissa.split text).1.hasDigit = true := by
      simp [Mantissa.hasDigit, behindPoint]
    have notLast : (Mantissa.split text).1.fraction ≠ some [] := by
      intro pointLast
      simp [pointLast] at behindPoint
    refine ⟨⟨(Mantissa.split text).1, none⟩, ⟨?_, ?_, fun _ => notLast⟩, written_of_none rfl,
      rfl, ?_⟩
    · exact Mantissa.isValid_split hasDigit
    · simp
    · cases fraction : (Mantissa.split text).1.fraction with
      | none => simp [fraction] at behindPoint
      | some digits => rfl
  · cases scanned

theorem scanInteger_sound (scanned : scanInteger text = some (token, rest)) :
    ∃ numeral : Numeral, numeral.IsShorthand ∧ numeral.written = token ∧
      numeral.exponent = none ∧ numeral.mantissa.fraction = none := by
  simp only [scanInteger] at scanned
  split at scanned
  · cases scanned
  · rename_i hasDigits
    obtain ⟨rfl, rfl⟩ := Prod.mk.inj (Option.some.inj scanned)
    refine ⟨⟨⟨(splitSign text).1, (splitSign text).2.takeWhile isDecimalDigit, none⟩, none⟩,
      ⟨⟨?_, ?_, ?_, ?_⟩, ?_, ?_⟩, ?_, rfl, rfl⟩
    · exact isSign_splitSign text
    · exact areDigits_takeWhile _
    · simp
    · simpa [Mantissa.hasDigit] using hasDigits
    · simp
    · simp
    · simp [Numeral.written, Mantissa.written]

/-- A number token is a written shorthand numeral, whatever stands behind it. -/
theorem exists_numeral_of_scan {scan : Scanner}
    (known : scan ∈ [scanDouble, scanDecimal, scanInteger])
    (scanned : scan text = some (token, rest)) :
    ∃ numeral : Numeral, numeral.IsShorthand ∧ numeral.written = token := by
  simp only [List.mem_cons, List.not_mem_nil, or_false] at known
  rcases known with rfl | rfl | rfl
  · obtain ⟨numeral, shorthand, written, -⟩ := scanDouble_sound scanned
    exact ⟨numeral, shorthand, written⟩
  · obtain ⟨numeral, shorthand, written, -⟩ := scanDecimal_sound scanned
    exact ⟨numeral, shorthand, written⟩
  · obtain ⟨numeral, shorthand, written, -⟩ := scanInteger_sound scanned
    exact ⟨numeral, shorthand, written⟩

theorem numberChoice_sound {α : Type} {typed : String → String → α} {place next : Cursor}
    {value : α} (run : numberChoice typed place = .matched value next) :
    ∃ numeral : Numeral, numeral.IsShorthand ∧
      place.skipLayout.rest = numeral.written ++ next.rest ∧
      value = typed (String.ofList numeral.written) numeral.datatype := by
  have ofKind : ∀ scan ∈ [scanDouble, scanDecimal, scanInteger], ∀ datatype : String,
      (∀ text token rest, scan text = some (token, rest) → ∃ numeral : Numeral,
        numeral.IsShorthand ∧ numeral.written = token ∧ numeral.datatype = datatype) →
      (do
        let value ← numberText scan
        return typed value datatype : Parser α) place = .matched value next →
      ∃ numeral : Numeral, numeral.IsShorthand ∧
        place.skipLayout.rest = numeral.written ++ next.rest ∧
        value = typed (String.ofList numeral.written) numeral.datatype := by
    intro scan known datatype sound run
    obtain ⟨text, _, textRun, same⟩ := andThen_eq_matched run
    cases same
    obtain ⟨token, _, tokenRun, same⟩ := andThen_eq_matched textRun
    cases same
    obtain ⟨scanned, -⟩ := lexeme_eq_matched tokenRun
    obtain ⟨numeral, shorthand, rfl, rfl⟩ := sound _ _ _ scanned
    exact ⟨numeral, shorthand, (number_sound known scanned).1, rfl⟩
  obtain ⟨parser, inside, run⟩ := exists_of_firstOf run
  simp only [List.mem_cons, List.not_mem_nil, or_false] at inside
  rcases inside with rfl | rfl | rfl
  · refine ofKind scanDouble (by simp) _ (fun text token rest scanned => ?_) run
    obtain ⟨numeral, shorthand, written, double⟩ := scanDouble_sound scanned
    obtain ⟨exponent, found⟩ := Option.isSome_iff_exists.1 double
    exact ⟨numeral, shorthand, written, by simp [Numeral.datatype, found]⟩
  · refine ofKind scanDecimal (by simp) _ (fun text token rest scanned => ?_) run
    obtain ⟨numeral, shorthand, written, single, decimal⟩ := scanDecimal_sound scanned
    obtain ⟨digits, found⟩ := Option.isSome_iff_exists.1 decimal
    exact ⟨numeral, shorthand, written, by simp [Numeral.datatype, single, found]⟩
  · refine ofKind scanInteger (by simp) _ (fun text token rest scanned => ?_) run
    obtain ⟨numeral, shorthand, written, single, integer⟩ := scanInteger_sound scanned
    exact ⟨numeral, shorthand, written, by simp [Numeral.datatype, single, integer]⟩

/-- One number token takes the whole text. -/
def IsNumberToken (text : List Char) : Prop :=
  ∃ scan ∈ [scanDouble, scanDecimal, scanInteger], scan text = some (text, [])

instance (text : List Char) : Decidable (IsNumberToken text) :=
  inferInstanceAs (Decidable (∃ scan ∈ _, _))

theorem isNumberToken_written (shorthand : numeral.IsShorthand) :
    IsNumberToken numeral.written := by
  have ends : Stops isNumberTail [] := rfl
  cases double : numeral.exponent with
  | some exponent =>
      have scanned := scanDouble_written shorthand double ends
      rw [List.append_nil] at scanned
      exact ⟨scanDouble, by simp, scanned⟩
  | none =>
      cases decimal : numeral.mantissa.fraction with
      | some digits =>
          have scanned := scanDecimal_written shorthand double decimal ends
          rw [List.append_nil] at scanned
          exact ⟨scanDecimal, by simp, scanned⟩
      | none =>
          have scanned := scanInteger_written shorthand double decimal ends
          rw [List.append_nil] at scanned
          exact ⟨scanInteger, by simp, scanned⟩

/-- The number tokens are the written shorthand numerals. -/
theorem isNumberToken_iff :
    IsNumberToken text ↔ ∃ numeral : Numeral, numeral.IsShorthand ∧ numeral.written = text := by
  constructor
  · rintro ⟨scan, known, scanned⟩
    exact exists_numeral_of_scan known scanned
  · rintro ⟨numeral, shorthand, rfl⟩
    exact isNumberToken_written shorthand

/-- The integer token takes a whole numeral exactly if this has neither a point nor an exponent. -/
theorem scanInteger_written_iff (shorthand : numeral.IsShorthand) :
    scanInteger numeral.written = some (numeral.written, []) ↔ numeral.isInteger = true := by
  rw [Numeral.isInteger, Bool.and_eq_true, Option.isNone_iff_eq_none, Option.isNone_iff_eq_none]
  constructor
  · intro scanned
    obtain ⟨other, isShorthand, written, single, integer⟩ := scanInteger_sound scanned
    have read := Numeral.ofText?_written isShorthand
    rw [written, Numeral.ofText?_written shorthand, Option.some.injEq] at read
    subst read
    exact ⟨integer, single⟩
  · rintro ⟨integer, single⟩
    have ends : Stops isNumberTail [] := rfl
    have scanned := scanInteger_written shorthand single integer ends
    rwa [List.append_nil] at scanned

end FactQuery.Token
