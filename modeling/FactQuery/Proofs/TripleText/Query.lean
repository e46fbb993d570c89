import FactQuery.Proofs.Sparql.RoundTrip
import FactQuery.Proofs.TripleText.Written

/-!
# A written triple in a query

The pattern of a query is read as the triple that was written.  The group holds that one pattern,
and every label in it has been declared.
-/

set_option autoImplicit false

namespace FactQuery.TripleText

open FactQuery.Text FactQuery.Grammar FactQuery.Token FactQuery.Number FactQuery.Sparql

variable {prefixes : PrefixTable}

/-! ## The terms of a pattern -/

def ObjectText.asTerm : ObjectText → Term
  | .resource name => .iri name
  | .quoted string suffix =>
    .literal (String.ofList string.value) (TripleText.language? suffix)
      ((TripleText.datatype? suffix).map Iri.written)
  | .number numeral => .literal (String.ofList numeral.written) none (some numeral.datatype)
  | .truth value => .literal (truthText value) none (some Vocabulary.xsdBoolean)

def closing (rest : List Char) : List Char :=
  ' ' :: '\x7d' :: rest

theorem verb_reads_text {text : VerbText} (valid : text.IsValid prefixes) (rest : List Char) :
    Reads verb ([' '] ++ text.write) (.iri text.asName) (' ' :: rest) := by
  cases text with
  | resource name =>
      have stops : Stops isLocalChar (' ' :: rest) := rfl
      exact firstOf_reads_iri IsGap.space valid.1 stops
  | a =>
      have starts : Stops isLayoutStart ("a".toList ++ ' ' :: rest) := rfl
      have noVariable : Misses variableName ([' '] ++ ("a".toList ++ ' ' :: rest)) :=
        variableName_misses IsGap.space starts rfl
      have noName : Misses iri ([' '] ++ ("a".toList ++ ' ' :: rest)) :=
        iri_misses_word IsGap.space (by decide) (by decide)
      have word : Reads (keyword "a") ([' '] ++ "a".toList) () (' ' :: rest) :=
        fun before => foldedWord_readsFrom (by decide) IsGap.space rfl rfl
      have read : Reads (do keyword "a"; return Term.iri (.full Vocabulary.rdfType))
          ([' '] ++ "a".toList) (.iri (.full Vocabulary.rdfType)) (' ' :: rest) :=
        word.bind_pure
      rw [← List.append_assoc] at noVariable noName
      exact (read.firstOf_here.firstOf_later noName.map).firstOf_later noVariable.map

theorem quotedLiteral_reads_text {string : WrittenString} {suffix : Option LiteralSuffix}
    {rest : List Char} (valid : (ObjectText.quoted string suffix).IsValid prefixes)
    (ends : EndsTerm (' ' :: rest)) :
    Reads quotedLiteral ([' '] ++ (ObjectText.quoted string suffix).write)
      (ObjectText.quoted string suffix).asTerm (' ' :: rest) := by
  refine string_reads IsGap.space valid ends ?_
  cases suffix with
  | none => rfl
  | some suffix => cases suffix <;> rfl

/-- A query spells truth values in any case. -/
theorem boolean_reads_text (value : Bool) (rest : List Char) :
    Reads boolean ([' '] ++ (truthText value).toList) (ObjectText.truth value).asTerm
      (' ' :: rest) := by
  have word : ∀ word spelled : String, IsKeyword capital word →
      Stops isLayoutStart (spelled.toList ++ ' ' :: rest) →
      spelled.toList.map capital = word.toList →
      Reads (caselessKeyword word) ([' '] ++ spelled.toList) () (' ' :: rest) :=
    fun word spelled isKeyword starts folded before =>
      foldedRun_readsFrom isKeyword IsGap.space starts folded rfl rfl
  cases value with
  | true => exact (word "TRUE" "true" (by decide) rfl (by decide)).bind_pure.firstOf_here
  | false =>
      have noTrue : Misses (caselessKeyword "TRUE") ([' '] ++ ("false".toList ++ ' ' :: rest)) :=
        foldedRun_misses (by decide) IsGap.space rfl (List.all_eq_true.1 (by decide)) rfl
          (by decide)
      have read := word "FALSE" "false" (by decide) rfl (by decide)
      rw [← List.append_assoc] at noTrue
      exact read.bind_pure.firstOf_here.firstOf_later noTrue.bind

theorem number_reads_text {numeral : Numeral} (shorthand : numeral.IsShorthand)
    (rest : List Char) :
    Reads number ([' '] ++ numeral.written) (ObjectText.number numeral).asTerm (' ' :: rest) := by
  have ends : Stops isNumberTail (' ' :: rest) := by
    rw [Stops.cons_iff]
    decide
  exact numberChoice_reads (fun value datatype => Term.literal value none (some datatype))
    IsGap.space shorthand ends

theorem graphTerm_reads_ending {object : ObjectText} (valid : object.IsValid prefixes)
    {rest : List Char} (ends : EndsTerm (' ' :: rest)) :
    Reads graphTerm ([' '] ++ object.write) object.asTerm (' ' :: rest) := by
  have starts : Stops isLayoutStart (object.write ++ ' ' :: rest) :=
    stops_object valid (fun _ => isLayoutStart_of_isObjectFront) _
  have noVariable : Misses variableName ([' '] ++ object.write ++ ' ' :: rest) := by
    rw [List.append_assoc]
    refine variableName_misses IsGap.space starts (stops_object valid (fun c front => ?_) _)
    rw [isVariableMark, Bool.or_eq_false_iff, beq_eq_false_iff_ne, beq_eq_false_iff_ne]
    exact ⟨ne_of_isObjectFront front (by decide), ne_of_isObjectFront front (by decide)⟩
  have literal : (∀ name, object ≠ .resource name) →
      Reads (Parser.firstOf [quotedLiteral, number, boolean, blankNode]) ([' '] ++ object.write)
        object.asTerm (' ' :: rest) →
      Reads graphTerm ([' '] ++ object.write) object.asTerm (' ' :: rest) := by
    intro notName read
    have noName := iri_misses_literal valid notName rest
    rw [← List.append_assoc] at noName
    exact (read.firstOf_later noName.map).firstOf_later noVariable.map
  cases object with
  | resource name =>
      have stops : Stops isLocalChar (' ' :: rest) := rfl
      exact firstOf_reads_iri IsGap.space valid.1 stops
  | quoted string suffix => exact literal (by simp) (quotedLiteral_reads_text valid ends).firstOf_here
  | number numeral =>
      have noString := quotedText_misses_unquoted valid (by simp) (' ' :: rest)
      have read := number_reads_text valid rest
      exact literal (by simp) (read.firstOf_here.firstOf_later noString.bind)
  | truth value =>
      have noString := quotedText_misses_unquoted valid (by simp) (' ' :: rest)
      have noNumber : Misses number ([' '] ++ (truthText value).toList ++ ' ' :: rest) := by
        rw [List.append_assoc]
        exact number_misses IsGap.space starts (stops_truth (by decide) value _)
      have read := boolean_reads_text value rest
      exact literal (by simp)
        ((read.firstOf_here.firstOf_later noNumber).firstOf_later noString.bind)

theorem graphTerm_reads_object {object : ObjectText} (valid : object.IsValid prefixes)
    (rest : List Char) :
    Reads graphTerm ([' '] ++ object.write) object.asTerm (closing rest) :=
  graphTerm_reads_ending valid (EndsTerm.space rfl rfl)

/-! ## The pattern and its group -/

def Statement.asPattern (statement : Statement) : TriplePattern :=
  (Triple.mk (.iri statement.subject) (.iri statement.verb.asName) statement.object.asTerm).map
    Node.term

theorem triplesBlock_reads_text {statement : Statement} (valid : statement.IsValid prefixes)
    (rest : List Char) :
    Reads triplesBlock ([' '] ++ statement.write) (.triples [statement.asPattern])
      (closing rest) := by
  obtain ⟨subject, verb, object⟩ := statement
  obtain ⟨isSubject, isVerb, isObject, -⟩ := valid
  simp only at isSubject isVerb isObject
  have starts : Stops isLayoutStart ('\x7d' :: rest) := rfl
  have noMark : ∀ token : String, exactly token.toList ('\x7d' :: rest) = none →
      Misses (symbol token) (closing rest) :=
    fun token refused => symbol_misses IsGap.space starts refused
  have verbReads : Reads Sparql.verb ([' '] ++ verb.write) (.iri verb.asName)
      ([' '] ++ object.write ++ closing rest) :=
    verb_reads_text isVerb _
  have pair := predicateObjects_reads_single verbReads (graphTerm_reads_object isObject rest)
    (noMark "," rfl)
  have stops : Stops isLocalChar
      ([' '] ++ verb.write ++ ([' '] ++ object.write) ++ closing rest) := rfl
  have about : Reads graphTerm ([' '] ++ subject.text.toList) (.iri subject)
      ([' '] ++ verb.write ++ ([' '] ++ object.write) ++ closing rest) :=
    firstOf_reads_iri IsGap.space isSubject.1 stops
  have patterns := triplesSameSubject_reads_single about pair (noMark ";" rfl)
  have stop : Reads optionalStop [] () (closing rest) := (noMark "." rfl).optional_none.bind_pure
  have whole : Reads triplesBlock
      ([' '] ++ subject.text.toList ++ ([' '] ++ verb.write ++ ([' '] ++ object.write)))
      (.triples [(Statement.mk subject verb object).asPattern]) (closing rest) :=
    patterns.bind_end stop.bind_pure
  rw [List.append_assoc] at whole
  exact whole

theorem entry_reads_text (levels : Nat) {statement : Statement}
    (valid : statement.IsValid prefixes) (rest : List Char) :
    Reads (entry (Parser.nestedWithin groupRule levels)) ([' '] ++ statement.write)
      (.triples [statement.asPattern]) (closing rest) := by
  have read := triplesBlock_reads_text valid rest
  obtain ⟨noFilter, noOptional, noGroup⟩ := @clauses_miss_term levels (.iri statement.subject) [' ']
    IsGap.space valid.subject.1 rfl
    ([' '] ++ statement.verb.write ++ ([' '] ++ statement.object.write) ++ closing rest)
  have ahead : [' '] ++ statement.write ++ closing rest =
      [' '] ++ ((Term.iri statement.subject).text.toList ++
        ([' '] ++ statement.verb.write ++ ([' '] ++ statement.object.write) ++ closing rest)) := by
    simp only [Statement.write, Term.text, List.append_assoc]
  rw [← ahead] at noFilter noOptional noGroup
  exact ((read.firstOf_here.firstOf_later noGroup).firstOf_later noOptional).firstOf_later noFilter

/-! ## The query -/

def patternQuery (declared : List (String × String)) (statement : Statement) : Query :=
  ⟨.ofList declared, .select
    { variableNames := [], group := [.triples [statement.asPattern]] }⟩

theorem queryText_eq (declared : List (String × String)) (statement : Statement) :
    queryText declared statement =
      String.ofList (everythingText declared ([' '] ++ statement.write)) := by
  have front : "SELECT * WHERE \x7b ".toList =
      "SELECT".toList ++ ([' ', '*'] ++ ([' '] ++ "WHERE".toList ++ ([' ', '\x7b'] ++ [' ']))) := by
    decide
  unfold queryText patternText everythingText
  rw [front]
  simp only [List.append_assoc]

theorem undeclared?_patternQuery {declared : List (String × String)} {statement : Statement}
    (valid : statement.IsValid (.ofList declared)) :
    (patternQuery declared statement).undeclared? = none := by
  obtain ⟨subject, verb, object⟩ := statement
  obtain ⟨isSubject, isVerb, isObject, -⟩ := valid
  simp only at isSubject isVerb isObject
  have inObject : ∀ name ∈ (Node.term object.asTerm).iris,
      name.isDeclared (.ofList declared) = true := by
    cases object with
    | resource name =>
        simp only [ObjectText.asTerm, Node.iris, List.mem_singleton]
        rintro other rfl
        exact isObject.2
    | quoted string suffix => simp [ObjectText.asTerm, Node.iris]
    | number numeral => simp [ObjectText.asTerm, Node.iris]
    | truth value => simp [ObjectText.asTerm, Node.iris]
  have names : Node.irisOf (patternQuery declared ⟨subject, verb, object⟩).group =
      subject :: verb.asName :: (Node.term object.asTerm).iris := by
    simp [patternQuery, Query.group, Statement.asPattern, Triple.map, Node.irisOf, Node.iris,
      Node.irisOfTriples, Node.irisOfTriple]
  have found : (Node.irisOf (patternQuery declared ⟨subject, verb, object⟩).group).find?
      (fun name => !name.isDeclared (.ofList declared)) = none := by
    rw [names, List.find?_eq_none]
    simp only [List.forall_mem_cons]
    refine ⟨by simp [isSubject.2], by simp [isDeclared_asName isVerb], fun name inside => ?_⟩
    simp [inObject name inside]
  rw [Query.undeclared?]
  exact congrArg (Option.bind · Iri.label?) found

theorem ofText_queryText {declared : List (String × String)} {statement : Statement}
    (areDeclarations : ∀ pair ∈ declared, IsDeclaration pair)
    (valid : statement.IsValid (.ofList declared)) :
    Query.ofText (queryText declared statement) = .ok (patternQuery declared statement) := by
  have each : ∀ levels, ReadsEach (entry (Parser.nestedWithin groupRule levels))
      ([' '] ++ statement.write) [.triples [statement.asPattern]] [' ', '\x7d'] := fun levels =>
    .single (by simp) (entry_reads_text levels valid []) (entry_misses_end levels IsGap.space [])
  have noTab : '\t' ∉ [' '] ++ statement.write := by
    simp [tab_not_mem_statement valid]
  rw [queryText_eq, Query.ofText_eq_ok_iff]
  exact ⟨Query.parse_of_readsFrom (tab_not_mem_everythingText areDeclarations noTab)
    (query_readsFrom_everything areDeclarations each), undeclared?_patternQuery valid⟩

end FactQuery.TripleText
