import FactQuery.Number.Numeral
import FactQuery.Proofs.Token.Number
import FactQuery.Vocabulary

/-!
# Numbers without quotes

A number stands without quotes if it has an exponent or does not end in its point.  The parts that
are there decide its datatype, and no other kind of number token takes it.
-/

set_option autoImplicit false

namespace FactQuery.Number

open FactQuery.Text FactQuery.Grammar

def IsSign (sign : List Char) : Prop :=
  sign = [] ∨ sign = ['+'] ∨ sign = ['-']

def AreDigits (digits : List Char) : Prop :=
  ∀ c ∈ digits, isDecimalDigit c = true

structure Mantissa.IsValid (mantissa : Mantissa) : Prop where
  sign : IsSign mantissa.sign
  whole : AreDigits mantissa.whole
  fraction : ∀ digits, mantissa.fraction = some digits → AreDigits digits
  hasDigit : mantissa.hasDigit = true

structure Exponent.IsValid (exponent : Exponent) : Prop where
  marker : exponent.marker = 'e' ∨ exponent.marker = 'E'
  sign : IsSign exponent.sign
  digits : AreDigits exponent.digits
  nonempty : exponent.digits ≠ []

/-- The numeral can stand without quotes. -/
structure Numeral.IsShorthand (numeral : Numeral) : Prop where
  mantissa : numeral.mantissa.IsValid
  exponent : ∀ exponent, numeral.exponent = some exponent → exponent.IsValid
  point : numeral.exponent = none → numeral.mantissa.fraction ≠ some []

def Numeral.written (numeral : Numeral) : List Char :=
  numeral.mantissa.written ++
    match numeral.exponent with
    | some exponent => exponent.written
    | none => []

def Numeral.datatype (numeral : Numeral) : String :=
  match numeral.exponent, numeral.mantissa.fraction with
  | some _, _ => Vocabulary.xsdDouble
  | none, some _ => Vocabulary.xsdDecimal
  | none, none => Vocabulary.xsdInteger

/-! ## Parts of a number -/

def isNumberTail (c : Char) : Bool :=
  isDecimalDigit c || c == '.' || c == 'e' || c == 'E'

theorem splitSign_append {sign rest : List Char} (isSign : IsSign sign)
    (unsigned : Stops (fun c => c == '+' || c == '-') rest) :
    splitSign (sign ++ rest) = (sign, rest) := by
  rcases isSign with rfl | rfl | rfl
  · cases rest with
    | nil => rfl
    | cons c rest =>
        rw [Stops.cons_iff] at unsigned
        simp [splitSign, unsigned]
  · rfl
  · rfl

theorem stops_sign_of_isDecimalDigit {c : Char} (digit : isDecimalDigit c = true)
    (rest : List Char) : Stops (fun c => c == '+' || c == '-') (c :: rest) := by
  have outside : ∀ d : Char, isDecimalDigit d = false → c ≠ d := by
    rintro d noDigit rfl
    rw [digit] at noDigit
    contradiction
  rw [Stops.cons_iff, Bool.or_eq_false_iff, beq_eq_false_iff_ne, beq_eq_false_iff_ne]
  exact ⟨outside '+' (by decide), outside '-' (by decide)⟩

theorem Mantissa.split_append {mantissa : Mantissa} {rest : List Char} (valid : mantissa.IsValid)
    (ends : Stops (fun c => isDecimalDigit c || c == '.') rest) :
    Mantissa.split (mantissa.written ++ rest) = (mantissa, rest) := by
  obtain ⟨sign, whole, fraction⟩ := mantissa
  obtain ⟨isSign, areWhole, areFraction, hasDigit⟩ := valid
  simp only at isSign areWhole areFraction
  have digitsEnd : Stops isDecimalDigit rest := ends.mono fun c digit => by simp [digit]
  cases fraction with
  | none =>
      have unsigned : Stops (fun c => c == '+' || c == '-') (whole ++ rest) := by
        cases whole with
        | nil => cases hasDigit
        | cons c others => exact stops_sign_of_isDecimalDigit (areWhole c List.mem_cons_self) _
      have written : (Mantissa.mk sign whole none).written ++ rest = sign ++ (whole ++ rest) := by
        simp [Mantissa.written]
      rw [written, Mantissa.split, splitSign_append isSign unsigned]
      simp only [takeWhile_run areWhole digitsEnd, dropWhile_run areWhole digitsEnd]
      cases rest with
      | nil => rfl
      | cons c rest =>
          rw [Stops.cons_iff, Bool.or_eq_false_iff, beq_eq_false_iff_ne] at ends
          simp [ends.2]
  | some digits =>
      have areDigits := areFraction digits rfl
      have unsigned : Stops (fun c => c == '+' || c == '-') (whole ++ '.' :: (digits ++ rest)) := by
        cases whole with
        | nil => rfl
        | cons c others => exact stops_sign_of_isDecimalDigit (areWhole c List.mem_cons_self) _
      have written : (Mantissa.mk sign whole (some digits)).written ++ rest =
          sign ++ (whole ++ '.' :: (digits ++ rest)) := by
        simp [Mantissa.written]
      have point : Stops isDecimalDigit ('.' :: (digits ++ rest)) := by
        rw [Stops.cons_iff]
        decide
      rw [written, Mantissa.split, splitSign_append isSign unsigned]
      simp only [takeWhile_run areWhole point, dropWhile_run areWhole point,
        takeWhile_run areDigits digitsEnd, dropWhile_run areDigits digitsEnd]

theorem Exponent.split?_append {exponent : Exponent} {rest : List Char}
    (valid : exponent.IsValid) (ends : Stops isDecimalDigit rest) :
    Exponent.split? (exponent.written ++ rest) = some (exponent, rest) := by
  obtain ⟨marker, sign, digits⟩ := exponent
  obtain ⟨isMarker, isSign, areDigits, nonempty⟩ := valid
  simp only at isMarker isSign areDigits nonempty
  have marked : (marker == 'e' || marker == 'E') = true := by simpa using isMarker
  have unsigned : Stops (fun c => c == '+' || c == '-') (digits ++ rest) := by
    cases digits with
    | nil => exact absurd rfl nonempty
    | cons c others => exact stops_sign_of_isDecimalDigit (areDigits c List.mem_cons_self) _
  have written : (Exponent.mk marker sign digits).written ++ rest =
      marker :: (sign ++ (digits ++ rest)) := by
    simp [Exponent.written]
  rw [written, Exponent.split?, splitSign_append isSign unsigned]
  simp [takeWhile_run areDigits ends, dropWhile_run areDigits ends, marked, nonempty]

theorem Exponent.IsValid.stops {exponent : Exponent} (valid : exponent.IsValid)
    (rest : List Char) :
    Stops (fun c => isDecimalDigit c || c == '.') (exponent.written ++ rest) := by
  rcases valid.marker with same | same <;>
    simp [Exponent.written, same, Stops] <;> decide

theorem Exponent.split?_eq_none {rest : List Char}
    (ends : Stops (fun c => c == 'e' || c == 'E') rest) : Exponent.split? rest = none := by
  cases rest with
  | nil => rfl
  | cons c rest =>
      rw [Stops.cons_iff] at ends
      simp [Exponent.split?, ends]

/-! ## Characters of a number -/

section Characters

variable {belongs : Char → Bool}
  (digit : ∀ c, isDecimalDigit c = true → belongs c = true)
  (marks : ∀ c ∈ ['+', '-', '.', 'e', 'E'], belongs c = true)

include marks in
theorem IsSign.forall_mem {sign : List Char} (isSign : IsSign sign) :
    ∀ c ∈ sign, belongs c = true := by
  rcases isSign with rfl | rfl | rfl
  · simp
  · simpa using marks '+' (by simp)
  · simpa using marks '-' (by simp)

include digit marks

theorem Mantissa.IsValid.forall_mem {mantissa : Mantissa} (valid : mantissa.IsValid) :
    ∀ c ∈ mantissa.written, belongs c = true := by
  have sign := valid.sign.forall_mem marks
  have whole : ∀ c ∈ mantissa.whole, belongs c = true := fun c inside =>
    digit c (valid.whole c inside)
  rw [Mantissa.written, List.forall_mem_append, List.forall_mem_append]
  refine ⟨⟨sign, whole⟩, ?_⟩
  cases fraction : mantissa.fraction with
  | none => simp
  | some digits =>
      rw [List.forall_mem_cons]
      exact ⟨marks '.' (by simp), fun c inside =>
        digit c (valid.fraction digits fraction c inside)⟩

theorem Exponent.IsValid.forall_mem {exponent : Exponent} (valid : exponent.IsValid) :
    ∀ c ∈ exponent.written, belongs c = true := by
  have marker : belongs exponent.marker = true := by
    rcases valid.marker with same | same
    · exact same ▸ marks 'e' (by simp)
    · exact same ▸ marks 'E' (by simp)
  simp only [Exponent.written, List.cons_append, List.forall_mem_cons, List.forall_mem_append]
  exact ⟨marker, valid.sign.forall_mem marks, fun c inside => digit c (valid.digits c inside)⟩

theorem Numeral.IsShorthand.forall_mem {numeral : Numeral} (shorthand : numeral.IsShorthand) :
    ∀ c ∈ numeral.written, belongs c = true := by
  rw [Numeral.written, List.forall_mem_append]
  refine ⟨shorthand.mantissa.forall_mem digit marks, ?_⟩
  cases double : numeral.exponent with
  | none => simp
  | some exponent => exact (shorthand.exponent exponent double).forall_mem digit marks

end Characters

end FactQuery.Number

namespace FactQuery.Token

open FactQuery.Text FactQuery.Grammar FactQuery.Number

variable {numeral : Numeral} {rest : List Char}

/-! ## Number tokens -/

theorem written_front (shorthand : numeral.IsShorthand) (rest : List Char) :
    ∃ c others, numeral.written ++ rest = c :: others ∧ isNumberFront c = true := by
  obtain ⟨⟨sign, whole, fraction⟩, exponent⟩ := numeral
  obtain ⟨⟨isSign, areWhole, areFraction, hasDigit⟩, -, -⟩ := shorthand
  simp only at isSign areWhole hasDigit
  rcases isSign with rfl | rfl | rfl
  · cases whole with
    | nil =>
        cases fraction with
        | none => cases hasDigit
        | some digits => exact ⟨'.', _, rfl, rfl⟩
    | cons c others =>
        exact ⟨c, _, rfl, by simp [isNumberFront, areWhole c List.mem_cons_self]⟩
  · exact ⟨'+', _, rfl, rfl⟩
  · exact ⟨'-', _, rfl, rfl⟩

/-- A number does not begin with a character that none can begin with. -/
theorem stops_number {belongs : Char → Bool} (shorthand : numeral.IsShorthand)
    (apart : ∀ c, isNumberFront c = true → belongs c = false) (rest : List Char) :
    Stops belongs (numeral.written ++ rest) := by
  obtain ⟨c, others, written, front⟩ := written_front shorthand rest
  rw [written, Stops.cons_iff]
  exact apart c front

theorem ne_of_isNumberFront {c d : Char} (front : isNumberFront c = true)
    (outside : isNumberFront d = false) : c ≠ d := by
  rintro rfl
  rw [front] at outside
  contradiction

theorem isLayoutStart_of_isNumberFront {c : Char} (front : isNumberFront c = true) :
    isLayoutStart c = false :=
  isLayoutStart_eq_false (by decide) front

theorem scanDouble_written {exponent : Exponent} (shorthand : numeral.IsShorthand)
    (double : numeral.exponent = some exponent) (ends : Stops isNumberTail rest) :
    scanDouble (numeral.written ++ rest) = some (numeral.written, rest) := by
  have isExponent := shorthand.exponent exponent double
  have digitsEnd : Stops isDecimalDigit rest :=
    ends.mono fun c digit => by simp [isNumberTail, digit]
  have split := Mantissa.split_append shorthand.mantissa (isExponent.stops rest)
  have written : numeral.written = numeral.mantissa.written ++ exponent.written := by
    simp [Numeral.written, double]
  rw [written, List.append_assoc, scanDouble, split]
  simp [shorthand.mantissa.hasDigit, Exponent.split?_append isExponent digitsEnd]

theorem written_of_none (single : numeral.exponent = none) :
    numeral.written = numeral.mantissa.written := by
  simp [Numeral.written, single]

theorem split_mantissa (shorthand : numeral.IsShorthand) (ends : Stops isNumberTail rest) :
    Mantissa.split (numeral.mantissa.written ++ rest) = (numeral.mantissa, rest) := by
  refine Mantissa.split_append shorthand.mantissa (ends.mono fun c inside => ?_)
  simp only [isNumberTail, Bool.or_eq_true] at inside ⊢
  exact Or.inl (Or.inl inside)

theorem scanDouble_eq_none (shorthand : numeral.IsShorthand) (single : numeral.exponent = none)
    (ends : Stops isNumberTail rest) : scanDouble (numeral.written ++ rest) = none := by
  have noMarker : Stops (fun c => c == 'e' || c == 'E') rest := by
    refine ends.mono fun c inside => ?_
    simp only [isNumberTail, Bool.or_eq_true] at inside ⊢
    rcases inside with small | capital
    · exact Or.inl (Or.inr small)
    · exact Or.inr capital
  rw [written_of_none single, scanDouble, split_mantissa shorthand ends]
  simp [Exponent.split?_eq_none noMarker]

theorem scanDecimal_written {digits : List Char} (shorthand : numeral.IsShorthand)
    (single : numeral.exponent = none) (decimal : numeral.mantissa.fraction = some digits)
    (ends : Stops isNumberTail rest) :
    scanDecimal (numeral.written ++ rest) = some (numeral.written, rest) := by
  have nonempty : digits ≠ [] := by
    rintro rfl
    exact shorthand.point single decimal
  rw [written_of_none single, scanDecimal, split_mantissa shorthand ends]
  simp [decimal, nonempty]

theorem scanDecimal_eq_none (shorthand : numeral.IsShorthand) (single : numeral.exponent = none)
    (integer : numeral.mantissa.fraction = none) (ends : Stops isNumberTail rest) :
    scanDecimal (numeral.written ++ rest) = none := by
  rw [written_of_none single, scanDecimal, split_mantissa shorthand ends]
  simp [integer]

theorem scanInteger_written (shorthand : numeral.IsShorthand) (single : numeral.exponent = none)
    (integer : numeral.mantissa.fraction = none) (ends : Stops isNumberTail rest) :
    scanInteger (numeral.written ++ rest) = some (numeral.written, rest) := by
  rw [written_of_none single]
  obtain ⟨⟨sign, whole, fraction⟩, exponent⟩ := numeral
  obtain ⟨⟨isSign, areWhole, -, hasDigit⟩, -, -⟩ := shorthand
  simp only at isSign areWhole hasDigit integer ⊢
  subst integer
  have digitsEnd : Stops isDecimalDigit rest :=
    ends.mono fun c digit => by simp [isNumberTail, digit]
  cases whole with
  | nil => cases hasDigit
  | cons c others =>
      have unsigned := stops_sign_of_isDecimalDigit (areWhole c List.mem_cons_self) (others ++ rest)
      have written : (Mantissa.mk sign (c :: others) none).written ++ rest =
          sign ++ (c :: (others ++ rest)) := by
        simp [Mantissa.written]
      have whole : c :: (others ++ rest) = (c :: others) ++ rest := rfl
      rw [written, scanInteger, splitSign_append isSign unsigned, whole]
      simp only [takeWhile_run areWhole digitsEnd, dropWhile_run areWhole digitsEnd]
      simp [Mantissa.written]

/-- A number is read by the token of its own kind, and by no earlier one. -/
theorem numberChoice_reads {α : Type} (typed : String → String → α) {gap : List Char}
    (blank : IsGap gap) (shorthand : numeral.IsShorthand) (ends : Stops isNumberTail rest) :
    Reads (numberChoice typed) (gap ++ numeral.written)
      (typed (String.ofList numeral.written) numeral.datatype) rest := by
  have starts : Stops isLayoutStart (numeral.written ++ rest) :=
    stops_number shorthand (fun _ => isLayoutStart_of_isNumberFront) rest
  have reads : ∀ scan : Scanner, scan (numeral.written ++ rest) = some (numeral.written, rest) →
      ∀ datatype, Reads (do
        let value ← numberText scan
        return typed value datatype) (gap ++ numeral.written)
        (typed (String.ofList numeral.written) datatype) rest :=
    fun scan scanned datatype => (lexeme_reads blank starts scanned).bind_pure.bind_pure
  have misses : ∀ scan : Scanner, scan (numeral.written ++ rest) = none →
      ∀ datatype, Misses (do
        let value ← numberText scan
        return typed value datatype) (gap ++ numeral.written ++ rest) := by
    intro scan refused datatype
    rw [List.append_assoc]
    exact (lexeme_misses blank starts refused).bind.bind
  cases double : numeral.exponent with
  | some exponent =>
      have kind : numeral.datatype = Vocabulary.xsdDouble := by simp [Numeral.datatype, double]
      rw [kind]
      exact (reads _ (scanDouble_written shorthand double ends) _).firstOf_here
  | none =>
      have noDouble := misses _ (scanDouble_eq_none shorthand double ends) Vocabulary.xsdDouble
      cases decimal : numeral.mantissa.fraction with
      | some digits =>
          have kind : numeral.datatype = Vocabulary.xsdDecimal := by
            simp [Numeral.datatype, double, decimal]
          have read := reads _ (scanDecimal_written shorthand double decimal ends)
            Vocabulary.xsdDecimal
          rw [kind]
          exact read.firstOf_here.firstOf_later noDouble
      | none =>
          have kind : numeral.datatype = Vocabulary.xsdInteger := by
            simp [Numeral.datatype, double, decimal]
          have noDecimal := misses _ (scanDecimal_eq_none shorthand double decimal ends)
            Vocabulary.xsdDecimal
          have read := reads _ (scanInteger_written shorthand double decimal ends)
            Vocabulary.xsdInteger
          rw [kind]
          exact (read.firstOf_here.firstOf_later noDecimal).firstOf_later noDouble

theorem tab_not_mem_number (shorthand : numeral.IsShorthand) : '\t' ∉ numeral.written := by
  have others : ∀ c ∈ numeral.written, (c != '\t') = true := by
    refine shorthand.forall_mem (fun c digit => ?_) (by simp)
    rw [bne_iff_ne]
    rintro rfl
    exact absurd digit (by decide)
  intro inside
  simpa using others '\t' inside

end FactQuery.Token
