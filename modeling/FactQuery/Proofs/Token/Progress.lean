import FactQuery.Proofs.Grammar.Levels
import FactQuery.Proofs.Token.LiteralSuffix
import FactQuery.Proofs.Token.Number
import FactQuery.Proofs.Token.QuotedText

/-!
# Every token takes a character

No token of either grammar is empty, so each match of one leaves less of the text.
-/

set_option autoImplicit false

namespace FactQuery.Token

open FactQuery.Text FactQuery.Grammar FactQuery.Number

/-! ## Names -/

theorem scanIriRef_shortens : Shortens scanIriRef := by
  intro text token rest scanned
  unfold scanIriRef at scanned
  split at scanned
  · rename_i inside
    split at scanned
    · rename_i behind closed
      obtain ⟨rfl, rfl⟩ := Prod.mk.inj (Option.some.inj scanned)
      have size := (List.dropWhile_sublist (p := isIriChar) (l := inside)).length_le
      rw [closed] at size
      simp only [List.length_cons] at size ⊢
      omega
    · cases scanned
  · cases scanned

theorem iriRef_takes : Takes iriRef :=
  scanIriRef_shortens.takes.bind fun _ => Shrinks.pure _

theorem scanPrefixLabel_shortens : Shortens scanPrefixLabel := by
  refine shortens_of_append fun text token rest scanned => ?_
  obtain ⟨label, -, rfl, whole⟩ := scanPrefixLabel_sound scanned
  exact ⟨whole, by simp⟩

theorem scanPrefixedName_shortens : Shortens scanPrefixedName := by
  refine shortens_of_append fun text token rest scanned => ?_
  obtain ⟨label, localPart, -, -, rfl, whole⟩ := scanPrefixedName_sound scanned
  exact ⟨whole, by simp [colonJoined]⟩

theorem prefixLabel_takes : Takes prefixLabel :=
  scanPrefixLabel_shortens.takes.bind fun _ => Shrinks.pure _

theorem iri_takes : Takes iri := by
  refine Takes.firstOf ?_
  simp only [List.forall_mem_cons]
  refine ⟨?_, ?_, by simp⟩
  · exact iriRef_takes.bind fun _ => Shrinks.pure _
  · exact scanPrefixedName_shortens.takes.bind fun _ => Shrinks.pure _

/-! ## Quoted strings -/

theorem splitBody_length_le {style : QuoteStyle} {text body rest : List Char}
    (found : style.splitBody text = some (body, rest)) : rest.length ≤ text.length := by
  cases style with
  | short quote => simp [(splitShortBody_sound found).1]; omega
  | long quote => simp [splitLongBody_sound found]; omega

theorem quotedIn_takes (style : QuoteStyle) : Takes (quotedIn style) := by
  refine .of_skipLayout fun place value next run => ?_
  simp only [quotedIn] at run
  split at run
  · cases run
  · rename_i body behind split
    obtain ⟨rest, whole, closed⟩ := split?_sound split
    have opened : style.delimiter.length ≠ 0 := by cases style <;> simp [QuoteStyle.delimiter]
    have fewer := splitBody_length_le closed
    split at run
    · cases run
      rw [whole, List.length_append]
      show behind.length < style.delimiter.length + rest.length
      omega
    · cases run

theorem quotedText_takes : Takes quotedText := by
  refine Takes.firstOf fun parser inside => ?_
  obtain ⟨style, -, rfl⟩ := List.mem_map.1 inside
  exact quotedIn_takes style

theorem scanLanguageTag_shortens : Shortens scanLanguageTag := by
  intro text token rest scanned
  unfold scanLanguageTag at scanned
  split at scanned
  · rename_i inside
    have size := (List.dropWhile_sublist (p := Char.isAlpha) (l := inside)).length_le
    simp only at scanned
    split at scanned
    · cases scanned
    · split at scanned
      · rename_i behind hyphen
        obtain ⟨rfl, rfl⟩ := Prod.mk.inj (Option.some.inj scanned)
        have parts := congrArg List.length (splitTagParts_sound ('-' :: behind)).2
        rw [hyphen] at size
        simp only [List.length_append, List.length_cons] at parts size ⊢
        omega
      · obtain ⟨rfl, rfl⟩ := Prod.mk.inj (Option.some.inj scanned)
        exact Nat.lt_succ_of_le size
  · cases scanned

theorem literalSuffix_takes : Takes literalSuffix := by
  refine Takes.firstOf ?_
  simp only [List.forall_mem_cons]
  refine ⟨?_, ?_, by simp⟩
  · exact (scanLanguageTag_shortens.takes.bind fun _ => Shrinks.pure _).map _
  · exact ((symbol_takes (by decide)).bind fun _ => iri_takes.shrinks).map _

/-! ## Numbers -/

theorem splitSign_append_eq (text : List Char) : (splitSign text).1 ++ (splitSign text).2 = text := by
  cases text with
  | nil => rfl
  | cons c rest =>
      rw [splitSign]
      split <;> rfl

theorem mantissa_split_append_eq (text : List Char) :
    (Mantissa.split text).1.written ++ (Mantissa.split text).2 = text := by
  have signed := splitSign_append_eq text
  have whole : (splitSign text).2.takeWhile isDecimalDigit ++
      (splitSign text).2.dropWhile isDecimalDigit = (splitSign text).2 :=
    List.takeWhile_append_dropWhile
  simp only [Mantissa.split]
  split
  · rename_i behind point
    rw [point] at whole
    simp [Mantissa.written, List.takeWhile_append_dropWhile, whole, signed]
  · simp [Mantissa.written, whole, signed]

def EndsInDigit (token : List Char) : Prop :=
  ∃ c, token.getLast? = some c ∧ isDecimalDigit c = true

theorem endsInDigit_append {front digits : List Char} (nonempty : digits ≠ [])
    (areDigits : ∀ c ∈ digits, isDecimalDigit c = true) : EndsInDigit (front ++ digits) := by
  refine ⟨digits.getLast nonempty, ?_, areDigits _ (List.getLast_mem nonempty)⟩
  rw [List.getLast?_append_of_ne_nil front nonempty, List.getLast?_eq_some_getLast nonempty]

theorem exponent_split_sound {text rest : List Char} {exponent : Exponent}
    (found : Exponent.split? text = some (exponent, rest)) :
    exponent.written ++ rest = text ∧ ∀ front, EndsInDigit (front ++ exponent.written) := by
  cases text with
  | nil => cases found
  | cons marker behind =>
      have signed := splitSign_append_eq behind
      simp only [Exponent.split?, Bool.and_eq_true, Bool.not_eq_true', List.isEmpty_eq_false_iff]
        at found
      split at found
      · rename_i marked
        obtain ⟨rfl, rfl⟩ := Prod.mk.inj (Option.some.inj found)
        refine ⟨by simp [Exponent.written, List.takeWhile_append_dropWhile, signed], ?_⟩
        intro front
        rw [Exponent.written, ← List.append_assoc]
        exact endsInDigit_append marked.2 (List.all_eq_true.1 List.all_takeWhile)
      · cases found

theorem mantissa_fraction_digits (text : List Char) :
    ∀ digits, (Mantissa.split text).1.fraction = some digits →
      ∀ c ∈ digits, isDecimalDigit c = true := by
  intro digits found
  simp only [Mantissa.split] at found
  split at found
  · cases found
    exact List.all_eq_true.1 List.all_takeWhile
  · cases found

theorem number_sound {scan : Scanner} (known : scan ∈ [scanDouble, scanDecimal, scanInteger])
    {text token rest : List Char} (scanned : scan text = some (token, rest)) :
    text = token ++ rest ∧ EndsInDigit token := by
  simp only [List.mem_cons, List.not_mem_nil, or_false] at known
  have mantissa := mantissa_split_append_eq text
  rcases known with rfl | rfl | rfl
  · simp only [scanDouble] at scanned
    split at scanned
    · obtain ⟨⟨exponent, behind⟩, found, same⟩ := Option.map_eq_some_iff.1 scanned
      obtain ⟨rfl, rfl⟩ := Prod.mk.inj same
      obtain ⟨whole, ends⟩ := exponent_split_sound found
      rw [← whole, ← List.append_assoc] at mantissa
      exact ⟨mantissa.symm, ends _⟩
    · cases scanned
  · simp only [scanDecimal] at scanned
    split at scanned
    · rename_i hasFraction
      obtain ⟨rfl, rfl⟩ := Prod.mk.inj (Option.some.inj scanned)
      refine ⟨mantissa.symm, ?_⟩
      have areDigits := mantissa_fraction_digits text
      cases fraction : (Mantissa.split text).1.fraction with
      | none => simp [fraction] at hasFraction
      | some digits =>
          have nonempty : digits ≠ [] := by simpa [fraction] using hasFraction
          have point : (Mantissa.split text).1.written =
              (Mantissa.split text).1.sign ++ (Mantissa.split text).1.whole ++ ['.'] ++ digits := by
            simp [Mantissa.written, fraction]
          rw [point]
          exact endsInDigit_append nonempty (areDigits digits fraction)
    · cases scanned
  · have signed := splitSign_append_eq text
    simp only [scanInteger] at scanned
    split at scanned
    · cases scanned
    · rename_i hasDigits
      obtain ⟨rfl, rfl⟩ := Prod.mk.inj (Option.some.inj scanned)
      refine ⟨?_, endsInDigit_append (by simpa using hasDigits)
        (List.all_eq_true.1 List.all_takeWhile)⟩
      rw [List.append_assoc, List.takeWhile_append_dropWhile, signed]

theorem number_shortens {scan : Scanner} (known : scan ∈ [scanDouble, scanDecimal, scanInteger]) :
    Shortens scan := by
  refine shortens_of_append fun text token rest scanned => ?_
  obtain ⟨whole, c, last, -⟩ := number_sound known scanned
  refine ⟨whole, ?_⟩
  rintro rfl
  cases last

theorem numberText_takes {scan : Scanner}
    (known : scan ∈ [scanDouble, scanDecimal, scanInteger]) : Takes (numberText scan) :=
  (number_shortens known).takes.bind fun _ => Shrinks.pure _

theorem numberChoice_takes {α : Type} (typed : String → String → α) :
    Takes (numberChoice typed) := by
  refine Takes.firstOf ?_
  simp only [List.forall_mem_cons]
  refine ⟨?_, ?_, ?_, by simp⟩
  · exact (numberText_takes (by simp)).bind fun _ => Shrinks.pure _
  · exact (numberText_takes (by simp)).bind fun _ => Shrinks.pure _
  · exact (numberText_takes (by simp)).bind fun _ => Shrinks.pure _

end FactQuery.Token
