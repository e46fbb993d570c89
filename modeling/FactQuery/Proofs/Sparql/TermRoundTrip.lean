import FactQuery.Proofs.Sparql.Operand
import FactQuery.Proofs.Token.Number
import FactQuery.Sparql.Query

/-!
# Written terms are read back

A well-formed term is read from its text, in a triple pattern and beside a comparison, unless a
literal holds what its text does not escape.  Each kind of term is read by its own alternative; the
others refuse its first character, or the word that it begins with.
-/

set_option autoImplicit false

namespace FactQuery.Sparql

open FactQuery.Text FactQuery.Grammar FactQuery.Token

/-! ## Alternatives that refuse -/

def isVariableMark (c : Char) : Bool :=
  c == '?' || c == '$'

theorem variableName_misses {gap text : List Char} (blank : IsGap gap)
    (starts : Stops isLayoutStart text) (noMark : Stops isVariableMark text) :
    Misses variableName (gap ++ text) := by
  have refused : scanVariable text = none := by
    cases text with
    | nil => rfl
    | cons c rest =>
        rw [Stops.cons_iff, isVariableMark] at noMark
        rw [scanVariable, if_neg (by simp [noMark])]
  exact (lexeme_misses blank starts refused).bind

theorem number_misses {gap text : List Char} (blank : IsGap gap)
    (starts : Stops isLayoutStart text) (noNumber : Stops isNumberFront text) :
    Misses number (gap ++ text) :=
  numberChoice_misses (fun value datatype => Term.literal value none (some datatype)) blank starts
    noNumber

theorem boolean_misses {gap text : List Char} (blank : IsGap gap)
    (starts : Stops isLayoutStart text)
    (notTrue : (text.takeWhile (foldsToIdentifier capital)).map capital ≠ "TRUE".toList)
    (notFalse : (text.takeWhile (foldsToIdentifier capital)).map capital ≠ "FALSE".toList) :
    Misses boolean (gap ++ text) := by
  refine Misses.firstOf ?_
  simp only [List.forall_mem_cons]
  refine ⟨?_, ?_, by simp⟩
  · exact (foldedWord_misses (by decide) blank starts notTrue).bind
  · exact (foldedWord_misses (by decide) blank starts notFalse).bind

/-- A word is called only where a bracket stands behind it. -/
theorem functionCall_misses {inner : Parser Node} {gap text : List Char} (blank : IsGap gap)
    (starts : Stops isLayoutStart text)
    (noBracket : Misses (symbol "(") (text.dropWhile isNameChar)) :
    Misses (functionCall inner) (gap ++ text) := by
  intro before
  cases scanned : scanWord Char.isAlpha isNameChar text with
  | none => exact (lexeme_misses blank starts scanned).bind before
  | some found =>
      obtain ⟨word, behind⟩ := found
      have split : text = word ++ behind ∧ behind = text.dropWhile isNameChar := by
        cases text with
        | nil => contradiction
        | cons c rest =>
            rw [scanWord] at scanned
            split at scanned
            · rename_i letter
              have inside : isNameChar c = true := by simp [isNameChar, Char.isAlphanum, letter]
              obtain ⟨rfl, rfl⟩ := Prod.mk.inj (Option.some.inj scanned)
              simp [inside]
            · contradiction
      obtain ⟨whole, rfl⟩ := split
      have name : Reads (lexeme (scanWord Char.isAlpha isNameChar)) (gap ++ word) word
          (text.dropWhile isNameChar) := by
        refine lexeme_reads blank ?_ ?_
        · rw [← whole]
          exact starts
        · rw [← whole]
          exact scanned
      have missed : MissesFrom before (functionCall inner)
          (gap ++ word ++ text.dropWhile isNameChar) :=
        (name before).bind_misses noBracket.bind
      rw [List.append_assoc, ← whole] at missed
      exact missed

/-- A run of a class ends inside of a label or at its colon. -/
theorem dropWhile_label_cases {belongs : Char → Bool} {label : String} (isLabel : IsLabel label)
    (colon : belongs ':' = false) (rest : List Char) :
    ((∀ c ∈ label.toList, belongs c = true) ∧
        (label.toList ++ ':' :: rest).dropWhile belongs = ':' :: rest) ∨
      ∃ c others, (label.toList ++ ':' :: rest).dropWhile belongs = c :: others ∧
        isLabelChar c = true ∧ belongs c = false := by
  have inside := isLabel.2
  generalize label.toList = front at inside
  induction front with
  | nil => exact Or.inl ⟨by simp, by simp [colon]⟩
  | cons c front inductionHypothesis =>
      rw [List.forall_mem_cons] at inside
      rw [List.cons_append, List.dropWhile_cons, List.forall_mem_cons]
      split
      · rename_i here
        rcases inductionHypothesis inside.2 with ⟨all, behind⟩ | within
        · exact Or.inl ⟨⟨here, all⟩, behind⟩
        · exact Or.inr within
      · rename_i outside
        exact Or.inr ⟨c, front ++ ':' :: rest, rfl, inside.1, Bool.eq_false_iff.2 outside⟩

theorem dropWhile_label {belongs : Char → Bool} {label : String} (isLabel : IsLabel label)
    (colon : belongs ':' = false) (rest : List Char) :
    ∃ c others, (label.toList ++ ':' :: rest).dropWhile belongs = c :: others ∧
      (isLabelChar c = true ∨ c = ':') ∧ belongs c = false := by
  rcases dropWhile_label_cases isLabel colon rest with
    ⟨_, behind⟩ | ⟨c, others, behind, inside, outside⟩
  · exact ⟨':', rest, behind, Or.inr rfl, colon⟩
  · exact ⟨c, others, behind, Or.inl inside, outside⟩

/-- A bracket stands neither at the front of a label nor behind the word that it begins with. -/
theorem bracket_misses_label {belongs : Char → Bool} {label bracket : String} {mark : Char}
    (isLabel : IsLabel label) (colon : belongs ':' = false) (isBracket : bracket.toList = [mark])
    (outside : isLabelChar mark = false ∧ mark ≠ ':') (rest : List Char) :
    Misses (symbol bracket) ((label.toList ++ ':' :: rest).dropWhile belongs) := by
  obtain ⟨c, others, behind, inside, _⟩ := dropWhile_label isLabel colon rest
  have starts : Stops isLayoutStart (c :: others) := by
    rw [Stops.cons_iff]
    rcases inside with labelled | rfl
    · exact isLayoutStart_eq_false (by decide) labelled
    · rfl
  have different : mark ≠ c := by
    rintro rfl
    rcases inside with labelled | same
    · rw [outside.1] at labelled
      contradiction
    · exact outside.2 same
  rw [behind]
  have refused : exactly bracket.toList (c :: others) = none := by
    rw [isBracket]
    exact exactly_eq_none [] others different
  exact symbol_misses IsGap.nil starts refused

/-! ## The text of a term -/

/-- Nothing in a literal needs an escape, and a datatype that is there has a name. -/
def Term.isPlain : Term → Bool
  | .literal value _ datatype =>
    value.toList.all (fun c => c != '\\' && c != '\x22' && c != '\n' && c != '\r' && c != '\t') &&
      datatype != some ""
  | _ => true

def suffixOf (language datatype : Option String) : Option LiteralSuffix :=
  match language, datatype with
  | some tag, _ => some (.language tag)
  | none, some name => some (.datatype (.full name))
  | none, none => none

theorem text_variable (name : String) :
    (Term.variable name).text.toList = '?' :: name.toList := by
  rw [Term.text, String.toList_append]
  rfl

theorem text_iri_full (value : String) : (Term.iri (.full value)).text.toList = angled value := by
  rw [Term.text, Iri.text, String.toList_append, String.toList_append]
  rfl

theorem text_iri_prefixed (label localPart : String) :
    (Term.iri (.prefixed label localPart)).text.toList = colonJoined label localPart := by
  rw [Term.text, Iri.text, String.toList_append, String.toList_append, List.append_assoc]
  rfl

theorem text_blank (label : String) :
    (Term.blank label).text.toList = '_' :: ':' :: label.toList := by
  rw [Term.text, String.toList_append]
  rfl

theorem written?_some {part : String} (named : part ≠ "") :
    Term.written? (some part) = some part := by
  have notEmpty : part.isEmpty = false := by simpa using named
  simp [Term.written?, Option.filter, notEmpty]

theorem ne_empty_of_isTag {tag : String} (isTag : IsTag tag) : tag ≠ "" := by
  obtain ⟨letters, parts, written, nonempty, _⟩ := isTag
  rintro rfl
  have both : letters = [] ∧ parts = [] := by simpa using written.symm
  exact nonempty both.1

theorem text_literal {value : String} {language datatype : Option String}
    (wellFormed : (Term.literal value language datatype).IsWellFormed)
    (plain : (Term.literal value language datatype).isPlain = true) :
    (Term.literal value language datatype).text.toList =
        quote value.toList ++ writeSuffix (suffixOf language datatype) ∧
      IsFullSuffix (suffixOf language datatype) := by
  obtain ⟨isTag, isText, single⟩ := wellFormed
  rw [Term.isPlain, Bool.and_eq_true, List.all_eq_true, bne_iff_ne] at plain
  obtain ⟨plainValue, named⟩ := plain
  have body : escape value.toList = value.toList := by
    refine escape_eq_self fun c inside => ?_
    have plainChar := plainValue c inside
    simp only [Bool.and_eq_true, bne_iff_ne] at plainChar
    simp [escapeLetter?, plainChar]
  cases language with
  | some tag =>
      have good := isTag tag rfl
      refine ⟨?_, good⟩
      simp [Term.text, written?_some (ne_empty_of_isTag good), suffixOf, writeSuffix, quote, body]
  | none =>
      cases datatype with
      | none =>
          refine ⟨?_, trivial⟩
          simp [Term.text, Term.written?, suffixOf, writeSuffix, quote, body]
      | some name =>
          have written : Term.written? (some name) = some name :=
            written?_some fun same => named (by rw [same])
          have nothing : Term.written? none = none := rfl
          refine ⟨?_, isText name rfl⟩
          simp [Term.text, written, nothing, suffixOf, writeSuffix, quote, body, angled,
            Iri.written]

/-! ## Terms in triple patterns -/

theorem variableName_reads {name : String} {gap rest : List Char} (blank : IsGap gap)
    (isName : IsVariableName name) (stops : Stops isNameChar rest) :
    Reads variableName (gap ++ '?' :: name.toList) name rest := by
  have starts : Stops isLayoutStart ('?' :: name.toList ++ rest) := rfl
  have scanned : scanVariable ('?' :: name.toList ++ rest) = some ('?' :: name.toList, rest) := by
    obtain ⟨front, inside⟩ := isName
    cases letters : name.toList with
    | nil => simp [letters] at front
    | cons c others =>
        rw [letters] at front inside
        rw [List.forall_mem_cons] at inside
        have start : isNameStart c = true := by simpa using front
        simp [scanVariable, scanWord, start, takeWhile_run inside.2 stops,
          dropWhile_run inside.2 stops]
  have read : Reads variableName (gap ++ '?' :: name.toList)
      (String.ofList (('?' :: name.toList).drop 1)) rest :=
    (lexeme_reads blank starts scanned).bind_pure
  rw [List.drop_succ_cons, List.drop_zero, String.ofList_toList] at read
  exact read

theorem isLocalChar_of_isNameChar {c : Char} (inside : isNameChar c = true) :
    isLocalChar c = true := by
  simp only [isNameChar, isLocalChar, Bool.or_eq_true] at inside ⊢
  rcases inside with alphanumeric | underscore
  · simp [alphanumeric]
  · simp [underscore]

theorem blankNode_reads {label : String} {gap rest : List Char} (blank : IsGap gap)
    (isName : IsBlankName label) (stops : Stops isNameChar rest) :
    Reads blankNode (gap ++ '_' :: ':' :: label.toList) (.blank label) rest := by
  have starts : Stops isLayoutStart ('_' :: ':' :: label.toList ++ rest) := rfl
  have scanned : scanBlankNode ('_' :: ':' :: label.toList ++ rest) =
      some ('_' :: ':' :: label.toList, rest) := by
    simp [scanBlankNode, scanRun, takeWhile_run isName.2 stops, dropWhile_run isName.2 stops,
      isName.1]
  have read : Reads blankNode (gap ++ '_' :: ':' :: label.toList)
      (.blank (String.ofList (('_' :: ':' :: label.toList).drop 2))) rest :=
    (lexeme_reads blank starts scanned).bind_pure
  rw [List.drop_succ_cons, List.drop_succ_cons, List.drop_zero, String.ofList_toList] at read
  exact read

/-- No other kind of term, and no layout, begins as a name of a resource does. -/
theorem outside_of_isNameFront {c : Char} (front : isNameFront c = true) :
    isLayoutStart c = false ∧ isVariableMark c = false ∧ isQuote c = false ∧
      isNumberFront c = false := by
  simp only [isNameFront, Bool.or_eq_true, beq_iff_eq] at front
  rcases front with (rfl | letter) | rfl
  · decide
  · have different : ∀ d : Char, d.isAlpha = false → c ≠ d := by
      rintro d noLetter rfl
      rw [letter] at noLetter
      contradiction
    refine ⟨isLayoutStart_eq_false (by decide) letter, ?_, ?_, isNumberFront_of_isAlpha letter⟩
    · simp [isVariableMark, different '?' (by decide), different '$' (by decide)]
    · simp [isQuote, different '\x22' (by decide), different '\x27' (by decide)]
  · decide

theorem iri_front {name : Iri} (isName : IsResourceName name) :
    ∃ c others, name.text.toList = c :: others ∧ isNameFront c = true := by
  cases name with
  | full value => exact ⟨'<', value.toList ++ ['>'], text_iri_full value, rfl⟩
  | «prefixed» label localPart =>
      have written : (Iri.prefixed label localPart).text.toList = colonJoined label localPart :=
        text_iri_prefixed label localPart
      rw [written, colonJoined]
      cases letters : label.toList with
      | nil => exact ⟨':', localPart.toList, rfl, rfl⟩
      | cons c others =>
          have front := isName.1.1
          rw [letters] at front
          have letter : c.isAlpha = true := by simpa using front
          exact ⟨c, others ++ ':' :: localPart.toList, rfl, by simp [isNameFront, letter]⟩

theorem iri_reads {name : Iri} {gap rest : List Char} (blank : IsGap gap)
    (isName : IsResourceName name) (stops : Stops isLocalChar rest) :
    Reads iri (gap ++ name.text.toList) name rest := by
  cases name with
  | full value =>
      have written : (Iri.full value).text.toList = angled value := text_iri_full value
      rw [written]
      exact iri_reads_full blank isName
  | «prefixed» label localPart =>
      have written : (Iri.prefixed label localPart).text.toList = colonJoined label localPart :=
        text_iri_prefixed label localPart
      rw [written]
      exact iri_reads_prefixed blank isName.1 isName.2 stops

theorem misses_iri {name : Iri} {gap : List Char} (blank : IsGap gap)
    (isName : IsResourceName name) (rest : List Char) :
    Misses variableName (gap ++ name.text.toList ++ rest) ∧
      Misses quotedLiteral (gap ++ name.text.toList ++ rest) ∧
        Misses number (gap ++ name.text.toList ++ rest) := by
  obtain ⟨c, others, written, front⟩ := iri_front isName
  obtain ⟨noLayout, noMark, noQuote, noNumber⟩ := outside_of_isNameFront front
  have starts : Stops isLayoutStart (c :: (others ++ rest)) := Stops.cons_iff.2 noLayout
  rw [List.append_assoc, written, List.cons_append]
  refine ⟨?_, ?_, ?_⟩
  · exact variableName_misses blank starts (Stops.cons_iff.2 noMark)
  · exact (quotedText_misses blank starts (Stops.cons_iff.2 noQuote)).bind
  · exact number_misses blank starts (Stops.cons_iff.2 noNumber)

theorem quotedLiteral_reads {value : String} {language datatype : Option String}
    {gap rest : List Char} (blank : IsGap gap)
    (wellFormed : (Term.literal value language datatype).IsWellFormed)
    (plain : (Term.literal value language datatype).isPlain = true) (ends : EndsLiteral rest) :
    Reads quotedLiteral (gap ++ (Term.literal value language datatype).text.toList)
      (.literal value language datatype) rest := by
  obtain ⟨written, isFull⟩ := text_literal wellFormed plain
  rw [written]
  refine literal_reads blank isFull ends ?_
  obtain ⟨_, _, single⟩ := wellFormed
  cases language with
  | none => cases datatype <;> rfl
  | some tag =>
      cases datatype with
      | none => rfl
      | some name => rcases single with none | none <;> cases none

theorem quote_front {value : String} {language datatype : Option String} {gap : List Char}
    (blank : IsGap gap) (wellFormed : (Term.literal value language datatype).IsWellFormed)
    (plain : (Term.literal value language datatype).isPlain = true) (rest : List Char) :
    Misses variableName (gap ++ (Term.literal value language datatype).text.toList ++ rest) ∧
      Misses iri (gap ++ (Term.literal value language datatype).text.toList ++ rest) := by
  rw [(text_literal wellFormed plain).1, List.append_assoc]
  exact ⟨variableName_misses blank rfl rfl, iri_misses blank rfl rfl⟩

theorem graphTerm_reads_blank {label : String} {gap rest : List Char} (blank : IsGap gap)
    (isName : IsBlankName label) (stops : Stops isNameChar rest) :
    Reads graphTerm (gap ++ '_' :: ':' :: label.toList) (.blank label) rest := by
  have read := blankNode_reads blank isName stops
  have starts : Stops isLayoutStart ('_' :: ':' :: label.toList ++ rest) := rfl
  have noVariable : Misses variableName (gap ++ '_' :: ':' :: label.toList ++ rest) := by
    rw [List.append_assoc]
    exact variableName_misses blank starts rfl
  have noName : Misses iri (gap ++ '_' :: ':' :: label.toList ++ rest) := by
    rw [List.append_assoc]
    exact iri_misses blank starts rfl
  have noString : Misses quotedLiteral (gap ++ '_' :: ':' :: label.toList ++ rest) := by
    rw [List.append_assoc]
    exact (quotedText_misses blank starts rfl).bind
  have noNumber : Misses number (gap ++ '_' :: ':' :: label.toList ++ rest) := by
    rw [List.append_assoc]
    exact number_misses blank starts rfl
  have noTruth : Misses boolean (gap ++ '_' :: ':' :: label.toList ++ rest) := by
    have run : ('_' :: ':' :: label.toList ++ rest).takeWhile (foldsToIdentifier capital) =
        ['_'] := rfl
    rw [List.append_assoc]
    refine boolean_misses blank starts ?_ ?_
    · rw [run]
      decide
    · rw [run]
      decide
  exact ((((read.firstOf_here.firstOf_later noTruth).firstOf_later noNumber).firstOf_later
    noString).firstOf_later noName.map).firstOf_later noVariable.map

/-- A name is read behind the refused choice of a variable, whatever other choices there are. -/
theorem firstOf_reads_iri {others : List (Parser Term)} {name : Iri} {gap rest : List Char}
    (blank : IsGap gap) (isName : IsResourceName name) (stops : Stops isLocalChar rest) :
    Reads (Parser.firstOf ((.variable <$> variableName) :: (.iri <$> iri) :: others))
      (gap ++ name.text.toList) (.iri name) rest := by
  have read : Reads (Term.iri <$> iri) (gap ++ name.text.toList) (.iri name) rest :=
    (iri_reads blank isName stops).bind_pure
  exact read.firstOf_here.firstOf_later (misses_iri blank isName rest).1.map

theorem graphTerm_reads {term : Term} {gap rest : List Char} (blank : IsGap gap)
    (wellFormed : term.IsWellFormed) (plain : term.isPlain = true) (ends : EndsTerm rest) :
    Reads graphTerm (gap ++ term.text.toList) term rest := by
  have stops : Stops isNameChar rest := ends.name.mono fun _ => isLocalChar_of_isNameChar
  cases term with
  | «variable» name =>
      rw [text_variable]
      exact Reads.firstOf_here (variableName_reads blank wellFormed stops).bind_pure
  | iri name => exact firstOf_reads_iri blank wellFormed ends.name
  | colonless name => exact wellFormed.elim
  | literal value language datatype =>
      have read := quotedLiteral_reads blank wellFormed plain ends.literal
      obtain ⟨noVariable, noName⟩ := quote_front blank wellFormed plain rest
      exact (read.firstOf_here.firstOf_later noName.map).firstOf_later noVariable.map
  | blank label =>
      rw [text_blank]
      exact graphTerm_reads_blank blank wellFormed stops

theorem verb_reads {term : Term} {gap rest : List Char} (blank : IsGap gap)
    (isVerb : term.IsVerb) (ends : EndsTerm rest) :
    Reads verb (gap ++ term.text.toList) term rest := by
  have stops : Stops isNameChar rest := ends.name.mono fun _ => isLocalChar_of_isNameChar
  obtain ⟨wellFormed, ⟨name, rfl⟩ | ⟨name, rfl⟩⟩ := isVerb
  · rw [text_variable]
    exact Reads.firstOf_here (variableName_reads blank wellFormed stops).bind_pure
  · exact firstOf_reads_iri blank wellFormed ends.name

/-! ## Operands -/

theorem functionCall_misses_of_stops {inner : Parser Node} {gap text : List Char}
    (blank : IsGap gap) (starts : Stops isLayoutStart text) (noName : Stops isNameChar text)
    (noBracket : exactly "(".toList text = none) : Misses (functionCall inner) (gap ++ text) := by
  refine functionCall_misses blank starts ?_
  rw [noName.dropWhile_eq_self]
  exact symbol_misses IsGap.nil starts noBracket

theorem functionCall_misses_iri (inner : Parser Node) {name : Iri} {gap : List Char}
    (blank : IsGap gap) (isName : IsResourceName name) (rest : List Char) :
    Misses (functionCall inner) (gap ++ name.text.toList ++ rest) := by
  rw [List.append_assoc]
  cases name with
  | full value =>
      have written : (Iri.full value).text.toList = angled value := text_iri_full value
      rw [written]
      exact functionCall_misses_of_stops blank rfl rfl rfl
  | «prefixed» label localPart =>
      have written : (Iri.prefixed label localPart).text.toList = colonJoined label localPart :=
        text_iri_prefixed label localPart
      rw [written, colonJoined, List.append_assoc, List.cons_append]
      refine functionCall_misses blank (isLabel_starts isName.1 _) ?_
      exact bracket_misses_label isName.1 (by decide) rfl (by decide) _

theorem boolean_misses_iri {name : Iri} {gap : List Char} (blank : IsGap gap)
    (isName : IsResourceName name)
    (notTruth : ∀ label localPart, name = .prefixed label localPart → ¬SpellsTruth label)
    (rest : List Char) : Misses boolean (gap ++ name.text.toList ++ rest) := by
  rw [List.append_assoc]
  cases name with
  | full value =>
      have written : (Iri.full value).text.toList = angled value := text_iri_full value
      have run : (angled value ++ rest).takeWhile (foldsToIdentifier capital) = [] := rfl
      rw [written]
      refine boolean_misses blank rfl ?_ ?_
      · rw [run]
        decide
      · rw [run]
        decide
  | «prefixed» label localPart =>
      have written : (Iri.prefixed label localPart).text.toList = colonJoined label localPart :=
        text_iri_prefixed label localPart
      have spells := notTruth label localPart rfl
      rw [SpellsTruth, not_or] at spells
      rw [written, colonJoined, List.append_assoc, List.cons_append]
      refine boolean_misses blank (isLabel_starts isName.1 _) ?_ ?_
      · rw [takeWhile_colon (by decide)]
        exact spells.1
      · rw [takeWhile_colon (by decide)]
        exact spells.2

theorem operand_reads {term : Term} {inner : Parser Node} {gap rest : List Char}
    (blank : IsGap gap) (isOperand : term.IsOperand) (plain : term.isPlain = true)
    (ends : EndsTerm rest) :
    Reads (operand inner) (gap ++ term.text.toList) (.term term) rest := by
  have stops : Stops isNameChar rest := ends.name.mono fun _ => isLocalChar_of_isNameChar
  obtain ⟨wellFormed, notBlank, notTruth⟩ := isOperand
  cases term with
  | «variable» name =>
      have read : Reads ((Node.term ∘ Term.variable) <$> variableName)
          (gap ++ (Term.variable name).text.toList) (.term (.variable name)) rest := by
        rw [text_variable]
        exact (variableName_reads blank wellFormed stops).bind_pure
      have noCall : Misses (functionCall inner)
          (gap ++ (Term.variable name).text.toList ++ rest) := by
        rw [text_variable, List.append_assoc]
        exact functionCall_misses_of_stops blank rfl rfl rfl
      exact read.firstOf_here.firstOf_later noCall
  | iri name =>
      have read : Reads ((Node.term ∘ Term.iri) <$> iri) (gap ++ name.text.toList)
          (.term (.iri name)) rest :=
        (iri_reads blank wellFormed ends.name).bind_pure
      have noCall := functionCall_misses_iri inner blank wellFormed rest
      obtain ⟨noVariable, noString, noNumber⟩ := misses_iri blank wellFormed rest
      have noTruth : Misses boolean (gap ++ name.text.toList ++ rest) := by
        refine boolean_misses_iri blank wellFormed ?_ rest
        rintro label localPart rfl
        exact notTruth label localPart rfl
      exact ((((read.firstOf_here.firstOf_later noTruth.map).firstOf_later
        noNumber.map).firstOf_later noString.map).firstOf_later noVariable.map).firstOf_later noCall
  | colonless name => exact wellFormed.elim
  | literal value language datatype =>
      have read : Reads (Node.term <$> quotedLiteral)
          (gap ++ (Term.literal value language datatype).text.toList)
          (.term (.literal value language datatype)) rest :=
        (quotedLiteral_reads blank wellFormed plain ends.literal).bind_pure
      have noVariable := (quote_front blank wellFormed plain rest).1
      have noCall : Misses (functionCall inner)
          (gap ++ (Term.literal value language datatype).text.toList ++ rest) := by
        rw [(text_literal wellFormed plain).1, List.append_assoc]
        exact functionCall_misses_of_stops blank rfl rfl rfl
      exact (read.firstOf_here.firstOf_later noVariable.map).firstOf_later noCall
  | blank label => exact absurd rfl (notBlank label)

/-! ## In front of a term -/

def isTermFront (c : Char) : Bool :=
  isNameFront c || c == '?' || c == '\x22' || c == '_'

theorem term_front {term : Term} (wellFormed : term.IsWellFormed) (plain : term.isPlain = true) :
    ∃ c others, term.text.toList = c :: others ∧ isTermFront c = true := by
  cases term with
  | «variable» name => exact ⟨'?', name.toList, text_variable name, rfl⟩
  | iri name =>
      obtain ⟨c, others, written, front⟩ := iri_front wellFormed
      exact ⟨c, others, written, by simp [isTermFront, front]⟩
  | colonless name => exact wellFormed.elim
  | literal value language datatype =>
      rw [(text_literal wellFormed plain).1]
      exact ⟨'\x22', _, rfl, rfl⟩
  | blank label => exact ⟨'_', ':' :: label.toList, text_blank label, rfl⟩

theorem isLayoutStart_of_isTermFront {c : Char} (front : isTermFront c = true) :
    isLayoutStart c = false := by
  simp only [isTermFront, Bool.or_eq_true, beq_iff_eq] at front
  rcases front with ((name | rfl) | rfl) | rfl
  · exact (outside_of_isNameFront name).1
  · decide
  · decide
  · decide

theorem stops_term {term : Term} (wellFormed : term.IsWellFormed) (plain : term.isPlain = true)
    (rest : List Char) : Stops isLayoutStart (term.text.toList ++ rest) := by
  obtain ⟨c, others, written, front⟩ := term_front wellFormed plain
  rw [written, List.cons_append, Stops.cons_iff]
  exact isLayoutStart_of_isTermFront front

theorem symbol_misses_term {term : Term} {token : String} {mark : Char} {tail gap : List Char}
    (blank : IsGap gap) (wellFormed : term.IsWellFormed) (plain : term.isPlain = true)
    (marked : token.toList = mark :: tail) (outside : isTermFront mark = false)
    (rest : List Char) : Misses (symbol token) (gap ++ (term.text.toList ++ rest)) := by
  refine symbol_misses blank (stops_term wellFormed plain rest) ?_
  obtain ⟨c, others, written, front⟩ := term_front wellFormed plain
  have different : mark ≠ c := by
    rintro rfl
    rw [front] at outside
    contradiction
  rw [marked, written]
  exact exactly_eq_none tail _ different

theorem endsTerm_term {term : Term} (wellFormed : term.IsWellFormed)
    (plain : term.isPlain = true) (rest : List Char) :
    EndsTerm (' ' :: (term.text.toList ++ rest)) := by
  refine EndsTerm.space (stops_term wellFormed plain rest) ?_
  obtain ⟨c, others, written, front⟩ := term_front wellFormed plain
  rw [written, List.cons_append, Stops.cons_iff, isSuffixFront, Bool.or_eq_false_iff,
    beq_eq_false_iff_ne, beq_eq_false_iff_ne]
  constructor
  · rintro rfl
    exact absurd front (by decide)
  · rintro rfl
    exact absurd front (by decide)

end FactQuery.Sparql
