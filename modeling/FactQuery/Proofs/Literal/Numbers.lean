import FactQuery.Proofs.Filter.Comparison
import FactQuery.Proofs.Token.NumberLanguage
import FactQuery.Sparql.Grammar
import FactQuery.Turtle.Document

/-!
# Numbers without quotes are numerals

A text that a number token takes whole is a numeral for the reader of values too: nothing is there
to trim, and both take the same parts off it.  So a number that was stored without quotes and one
that a filter gives without quotes are compared as numbers, in whatever digits and of whatever
length they are.
-/

set_option autoImplicit false

namespace FactQuery

open FactQuery.Text FactQuery.Grammar FactQuery.Number

/-! ## Nothing to trim -/

namespace Text

theorem trimBy_eq_self {drops : Char → Bool} {text : List Char} (front : Stops drops text)
    (back : Stops drops text.reverse) : trimBy drops text = text := by
  rw [trimBy, front.dropWhile_eq_self, back.dropWhile_eq_self, List.reverse_reverse]

theorem paddingBy_eq_nil {drops : Char → Bool} {text : List Char} (front : Stops drops text)
    (back : Stops drops text.reverse) : paddingBy drops text = [] := by
  rw [paddingBy, front.takeWhile_eq_nil, front.dropWhile_eq_self, back.takeWhile_eq_nil]
  rfl

theorem isWhite_of_isDecimalDigit {c : Char} (digit : isDecimalDigit c = true) :
    isWhite c = false := by
  have each : ∀ start ∈ zeroDigits, ∀ k < 10, isWhite (Char.ofNat (start + k)) = false := by
    decide +kernel
  rw [isDecimalDigit, digitValue?, Option.isSome_map, List.find?_isSome] at digit
  obtain ⟨start, known, inside⟩ := digit
  rw [Bool.and_eq_true, decide_eq_true_eq, decide_eq_true_eq] at inside
  have found := each start known (c.toNat - start) (by omega)
  rwa [Nat.add_sub_cancel' inside.1, Char.ofNat_toNat] at found

end Text

namespace Token

variable {numeral : Numeral} {text : List Char}

theorem isWhite_of_isNumberFront {c : Char} (front : isNumberFront c = true) :
    isWhite c = false := by
  simp only [isNumberFront, Bool.or_eq_true, beq_iff_eq] at front
  rcases front with ((rfl | rfl) | rfl) | digit
  · decide
  · decide
  · decide
  · exact isWhite_of_isDecimalDigit digit

theorem stops_isWhite_written (shorthand : numeral.IsShorthand) :
    Stops isWhite numeral.written := by
  have stops := stops_number shorthand (fun _ => isWhite_of_isNumberFront) []
  rwa [List.append_nil] at stops

theorem stops_isWhite_reverse (isToken : IsNumberToken text) : Stops isWhite text.reverse := by
  obtain ⟨scan, known, scanned⟩ := isToken
  obtain ⟨-, c, last, digit⟩ := number_sound known scanned
  rw [Stops, List.head?_reverse, last]
  simp [isWhite_of_isDecimalDigit digit]

end Token

namespace Number

open FactQuery.Token

variable {numeral : Numeral}

/-! ## The quantity of a token -/

theorem Numeral.ofPadded?_written (shorthand : numeral.IsShorthand) :
    ofPadded? (String.ofList numeral.written) = some numeral := by
  have front := stops_isWhite_written shorthand
  have back := stops_isWhite_reverse (isNumberToken_written shorthand)
  rw [ofPadded?, String.toList_ofList, trimBy_eq_self front back, ofText?_written shorthand]

theorem coerce_written (shorthand : numeral.IsShorthand) :
    coerce (String.ofList numeral.written) = .ok (.number numeral.value) := by
  have front := stops_isWhite_written shorthand
  have back := stops_isWhite_reverse (isNumberToken_written shorthand)
  rw [coerce, Numeral.ofPadded?_written shorthand, String.toList_ofList,
    paddingBy_eq_nil front back]
  rfl

/-- An integer token is worth exactly what its sign and its digits say.  Any other number token is
worth a float, to which its digits are rounded with the power of ten that its point and its exponent
come to. -/
structure IsQuantityOf (text : List Char) (quantity : Quantity) : Prop where
  integer : scanInteger text = some (text, []) → ∃ sign digits : List Char,
    IsSign sign ∧ AreDigits digits ∧ text = sign ++ digits ∧
      quantity = .integer (signed sign (digitsValue digits))
  float : scanInteger text ≠ some (text, []) → ∃ numeral : Numeral, numeral.IsShorthand ∧
    numeral.written = text ∧
    let fraction := numeral.mantissa.fraction.getD []
    quantity = .binary (.ofDecimal (isMinus numeral.mantissa.sign)
      (digitsValue (numeral.mantissa.whole ++ fraction)) (numeral.power - fraction.length))

theorem isQuantityOf_written (shorthand : numeral.IsShorthand) :
    IsQuantityOf numeral.written numeral.value where
  integer scanned := by
    have isInteger := (scanInteger_written_iff shorthand).1 scanned
    refine ⟨numeral.mantissa.sign, numeral.mantissa.whole, shorthand.mantissa.sign,
      shorthand.mantissa.whole, ?_, ?_⟩
    · rw [Numeral.isInteger, Bool.and_eq_true, Option.isNone_iff_eq_none,
        Option.isNone_iff_eq_none] at isInteger
      simp [Numeral.written, Mantissa.written, isInteger]
    · rw [Numeral.value, if_pos isInteger]
  float others := by
    have noInteger := mt (scanInteger_written_iff shorthand).2 others
    exact ⟨numeral, shorthand, rfl, if_neg noInteger⟩

/-- A number token is a numeral, and the reader of values makes of it what it is worth. -/
theorem coerce_of_isNumberToken {text : String} (isToken : IsNumberToken text.toList) :
    isNumeral text = true ∧
      ∃ quantity, IsQuantityOf text.toList quantity ∧ coerce text = .ok (.number quantity) := by
  obtain ⟨numeral, shorthand, written⟩ := isNumberToken_iff.1 isToken
  have same : String.ofList numeral.written = text := by rw [written, String.ofList_toList]
  have read := coerce_written shorthand
  have isQuantity := isQuantityOf_written shorthand
  have padded := Numeral.ofPadded?_written shorthand
  rw [same] at read padded
  rw [written] at isQuantity
  exact ⟨by rw [isNumeral, padded]; rfl, numeral.value, isQuantity, read⟩

end Number

/-! ## Stored and compared -/

/-- A filter compares the two texts as these two numbers, from either side and whatever it asks. -/
def AreComparedAs (left right : String) (first second : Quantity) : Prop :=
  ∀ (row : Row) (leftNode rightNode : Sparql.Node), HasValue row leftNode left →
    HasValue row rightNode right → ∀ (operator : String) (comparison : Sparql.Comparison),
      Sparql.Comparison.ofOperator? operator = some comparison →
        Filter.holds row (.binary operator leftNode rightNode) =
          .ok (comparison.holds (.number first) (.number second)) ∧
        Filter.holds row (.binary operator rightNode leftNode) =
          .ok (comparison.holds (.number second) (.number first))

theorem areComparedAs_of_coerce {left right : String} {first second : Quantity}
    (leftRead : coerce left = .ok (.number first))
    (rightRead : coerce right = .ok (.number second)) :
    AreComparedAs left right first second := by
  intro row leftNode rightNode isLeft isRight operator comparison known
  have read : coercePair left right = .ok (.number first, .number second) := by
    rw [coercePair, leftRead, rightRead]
    rfl
  have readBack : coercePair right left = .ok (.number second, .number first) := by
    rw [coercePair, leftRead, rightRead]
    rfl
  exact ⟨holds_binary_eq isLeft isRight known read, holds_binary_eq isRight isLeft known readBack⟩

/-- The datatype of a number is spelled in full, so that it is the same in every scope. -/
theorem expandDatatype_numeral (scope : Turtle.Scope) (numeral : Numeral) :
    scope.expandDatatype (some (.full numeral.datatype)) = .ok (some numeral.datatype) := by
  have known : numeral.datatype ∈
      [Vocabulary.xsdDouble, Vocabulary.xsdDecimal, Vocabulary.xsdInteger] := by
    unfold Numeral.datatype
    split <;> simp
  have absolute : ∀ datatype ∈
      [Vocabulary.xsdDouble, Vocabulary.xsdDecimal, Vocabulary.xsdInteger],
      Iri.isRelative datatype = false := by
    decide +kernel
  have resolved : Iri.resolveWith scope.base numeral.datatype = .ok numeral.datatype := by
    unfold Iri.resolveWith
    split
    · rw [absolute _ known, Bool.and_false]
      rfl
    · rfl
  rw [Turtle.Scope.expandDatatype, Turtle.Scope.expand, Turtle.Scope.resolve, resolved]
  rfl

/-- A number without quotes is stored as it was written, as the object of one fact. -/
theorem stored_of_number {place next : Cursor} {object : Turtle.Object}
    (run : Turtle.number place = .matched object next) :
    ∃ (stored : String) (datatype : Option String), Token.IsNumberToken stored.toList ∧
      place.skipLayout.rest = stored.toList ++ next.rest ∧
      ∀ scope subject predicate free,
        Turtle.tellProperty scope subject predicate free object =
          ⟨[⟨subject, predicate, stored, datatype, none⟩], free, none⟩ := by
  have choice : Turtle.number = Token.numberChoice fun value datatype =>
    Turtle.Object.literal value none (some (.full datatype)) := rfl
  rw [choice] at run
  obtain ⟨numeral, shorthand, ahead, rfl⟩ := Token.numberChoice_sound run
  refine ⟨String.ofList numeral.written, some numeral.datatype, ?_, ?_, ?_⟩
  · rw [String.toList_ofList]
    exact Token.isNumberToken_written shorthand
  · rw [String.toList_ofList, ahead]
  · intro scope subject predicate free
    rw [Turtle.tellProperty, expandDatatype_numeral]
    rfl

/-- A number without quotes is an operand whose value is its text. -/
theorem value_of_number {place next : Cursor} {operand : Sparql.Term}
    (run : Sparql.number place = .matched operand next) :
    ∃ asked : String, Token.IsNumberToken asked.toList ∧
      place.skipLayout.rest = asked.toList ++ next.rest ∧
      ∀ row, HasValue row (.term operand) asked := by
  have choice : Sparql.number = Token.numberChoice fun value datatype =>
    Sparql.Term.literal value none (some datatype) := rfl
  rw [choice] at run
  obtain ⟨numeral, shorthand, ahead, rfl⟩ := Token.numberChoice_sound run
  refine ⟨String.ofList numeral.written, ?_, ?_, fun row => HasValue.literal _ _ _⟩
  · rw [String.toList_ofList]
    exact Token.isNumberToken_written shorthand
  · rw [String.toList_ofList, ahead]

/-- What one number token fills is a numeral, worth an exact integer if it is an integer token and a
float if not.  So for a number that a document gives without quotes and one that a query gives
without quotes, every filter compares the stored text and the operand as numbers. -/
theorem number_tokens_are_numerals :
    (∀ text : String, Token.IsNumberToken text.toList → isNumeral text = true ∧
      ∃ quantity, IsQuantityOf text.toList quantity ∧ coerce text = .ok (.number quantity)) ∧
    ∀ place next object other behind operand,
      Turtle.number place = .matched object next → Sparql.number other = .matched operand behind →
      ∃ stored datatype asked first second,
        place.skipLayout.rest = stored.toList ++ next.rest ∧
        (∀ scope subject predicate free,
          Turtle.tellProperty scope subject predicate free object =
            ⟨[⟨subject, predicate, stored, datatype, none⟩], free, none⟩) ∧
        other.skipLayout.rest = asked.toList ++ behind.rest ∧
        (∀ row, HasValue row (.term operand) asked) ∧
        IsQuantityOf stored.toList first ∧ IsQuantityOf asked.toList second ∧
        AreComparedAs stored asked first second := by
  refine ⟨fun text => coerce_of_isNumberToken, ?_⟩
  intro place next object other behind operand storedRun askedRun
  obtain ⟨stored, datatype, isStored, storedAhead, told⟩ := stored_of_number storedRun
  obtain ⟨asked, isAsked, askedAhead, hasValue⟩ := value_of_number askedRun
  obtain ⟨-, first, firstQuantity, firstRead⟩ := coerce_of_isNumberToken isStored
  obtain ⟨-, second, secondQuantity, secondRead⟩ := coerce_of_isNumberToken isAsked
  exact ⟨stored, datatype, asked, first, second, storedAhead, told, askedAhead, hasValue,
    firstQuantity, secondQuantity, areComparedAs_of_coerce firstRead secondRead⟩

/-- Digits of two scripts: as a text the stored integer would come before the operand. -/
theorem number_tokens_are_numerals_digits :
    let row : Row := .ofList [("x", some "10")]
    let operand : Sparql.Term := .literal "٩.0" none (some Vocabulary.xsdDecimal)
    isNumeral "-٤٢" = true ∧
      (∃ next behind, Turtle.number (Cursor.start "10 .".toList) =
          .matched (.literal "10" none (some (.full Vocabulary.xsdInteger))) next ∧
        Sparql.number (Cursor.start "٩.0)".toList) = .matched operand behind) ∧
      (∃ first second, Filter.holds row (.binary ">" (.term (.variable "x")) (.term operand)) =
        .ok (Sparql.Comparison.greater.holds (.number first) (.number second))) ∧
      (Filter.holds row (.binary ">" (.term (.variable "x")) (.term operand))).toOption =
        some true ∧
      Sparql.Comparison.greater.holds (.text "10") (.text "٩.0") = false := by
  intro row operand
  obtain ⟨tokens, shorthands⟩ := number_tokens_are_numerals
  have isToken : Token.IsNumberToken "-٤٢".toList := by decide +kernel
  obtain ⟨next, storedRun⟩ : ∃ next, Turtle.number (Cursor.start "10 .".toList) =
      .matched (.literal "10" none (some (.full Vocabulary.xsdInteger))) next := ⟨_, rfl⟩
  obtain ⟨behind, askedRun⟩ : ∃ behind, Sparql.number (Cursor.start "٩.0)".toList) =
      .matched operand behind := ⟨_, rfl⟩
  obtain ⟨stored, _, asked, first, second, -, told, -, hasValue, -, -, compared⟩ :=
    shorthands _ _ _ _ _ _ storedRun askedRun
  have read : Turtle.tellProperty .initial "s" "p" 0
      (.literal "10" none (some (.full Vocabulary.xsdInteger))) =
        ⟨[⟨"s", "p", "10", some Vocabulary.xsdInteger, none⟩], 0, none⟩ := rfl
  obtain ⟨rfl, -⟩ : stored = "10" ∧ _ := by
    simpa using (told .initial "s" "p" 0).symm.trans read
  have isBound : HasValue row (.term (.variable "x")) "10" := .variable rfl
  have holds := compared row _ _ isBound (hasValue row) ">" .greater rfl
  exact ⟨(tokens _ isToken).1, ⟨next, behind, storedRun, askedRun⟩, ⟨first, second, holds.1⟩,
    by decide +kernel, by decide +kernel⟩

end FactQuery
