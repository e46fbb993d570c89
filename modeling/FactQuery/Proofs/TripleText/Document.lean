import FactQuery.Proofs.OrderedMap
import FactQuery.Proofs.Sparql.GroupRoundTrip
import FactQuery.Proofs.TripleText.Written
import FactQuery.Proofs.Turtle.Statement

/-!
# A written triple in a document

The statement of a document is read as the triple that was written, behind its declarations, and the
one fact that is told is the fact that the triple states under the declared prefixes.
-/

set_option autoImplicit false

namespace FactQuery.TripleText

open FactQuery.Text FactQuery.Grammar FactQuery.Token FactQuery.Number FactQuery.Sparql

variable {prefixes : PrefixTable}

/-! ## The parts of a statement -/

theorem predicate_reads {verb : VerbText} (valid : verb.IsValid prefixes) (rest : List Char) :
    Reads Turtle.predicate ([' '] ++ verb.write) verb.asName (' ' :: rest) := by
  cases verb with
  | resource name =>
      have stops : Stops isLocalChar (' ' :: rest) := rfl
      exact (iri_reads IsGap.space valid.1 stops).firstOf_here
  | a =>
      have noName : Misses iri ([' '] ++ ("a".toList ++ ' ' :: rest)) :=
        iri_misses_word IsGap.space (by decide) (by decide)
      have word : Reads (keyword "a") ([' '] ++ "a".toList) () (' ' :: rest) :=
        fun before => foldedWord_readsFrom (by decide) IsGap.space rfl rfl
      have read : Reads (do keyword "a"; return Iri.full Vocabulary.rdfType)
          ([' '] ++ "a".toList) (.full Vocabulary.rdfType) (' ' :: rest) := word.bind_pure
      rw [← List.append_assoc] at noName
      exact read.firstOf_here.firstOf_later noName

def ObjectText.asObject : ObjectText → Turtle.Object
  | .resource name => .iri name
  | .quoted string suffix =>
    .literal (String.ofList string.value) (TripleText.language? suffix)
      (TripleText.datatype? suffix)
  | .number numeral =>
    .literal (String.ofList numeral.written) none (some (.full numeral.datatype))
  | .truth value => .literal (truthText value) none (some (.full Vocabulary.xsdBoolean))

theorem quotedLiteral_reads {string : WrittenString} {suffix : Option LiteralSuffix}
    {rest : List Char} (valid : (ObjectText.quoted string suffix).IsValid prefixes)
    (ends : EndsTerm (' ' :: rest)) :
    Reads Turtle.quotedLiteral ([' '] ++ (ObjectText.quoted string suffix).write)
      (ObjectText.quoted string suffix).asObject (' ' :: rest) := by
  refine string_reads IsGap.space valid ends ?_
  cases suffix with
  | none => rfl
  | some suffix => cases suffix <;> rfl

theorem boolean_reads (value : Bool) (rest : List Char) :
    Reads Turtle.boolean ([' '] ++ (truthText value).toList) (ObjectText.truth value).asObject
      (' ' :: rest) := by
  have word : ∀ word, IsKeyword id word →
      Reads (keyword word) ([' '] ++ word.toList) () (' ' :: rest) :=
    fun word isKeyword before => foldedWord_readsFrom isKeyword IsGap.space rfl rfl
  cases value with
  | true => exact (word "true" (by decide)).bind_pure.firstOf_here
  | false =>
      have noTrue : Misses (keyword "true") ([' '] ++ ("false".toList ++ ' ' :: rest)) :=
        foldedRun_misses (by decide) IsGap.space rfl (List.all_eq_true.1 (by decide)) rfl
          (by decide)
      rw [← List.append_assoc] at noTrue
      exact (word "false" (by decide)).bind_pure.firstOf_here.firstOf_later noTrue.bind

theorem number_reads {numeral : Numeral} (shorthand : numeral.IsShorthand) (rest : List Char) :
    Reads Turtle.number ([' '] ++ numeral.written) (ObjectText.number numeral).asObject
      (' ' :: rest) := by
  have ends : Stops isNumberTail (' ' :: rest) := by
    rw [Stops.cons_iff]
    decide
  exact numberChoice_reads
    (fun value datatype => Turtle.Object.literal value none (some (.full datatype)))
    IsGap.space shorthand ends

theorem object_reads_ending (inner : Parser (List Turtle.Property)) {object : ObjectText}
    (valid : object.IsValid prefixes) {rest : List Char} (ends : EndsTerm (' ' :: rest)) :
    Reads (Turtle.object inner) ([' '] ++ object.write) object.asObject (' ' :: rest) := by
  have starts : Stops isLayoutStart (object.write ++ ' ' :: rest) :=
    stops_object valid (fun _ => isLayoutStart_of_isObjectFront) _
  have noNode := Turtle.nodes_miss inner IsGap.space starts (stops_object valid (fun c front => by
    rw [Bool.or_eq_false_iff, beq_eq_false_iff_ne, beq_eq_false_iff_ne]
    exact ⟨ne_of_isObjectFront front (by decide), ne_of_isObjectFront front (by decide)⟩) _)
  cases object with
  | resource name =>
      have stops : Stops isLocalChar (' ' :: rest) := rfl
      exact Reads.firstOf_here (iri_reads IsGap.space valid.1 stops).bind_pure
  | quoted string suffix =>
      have noName := iri_misses_literal valid (by simp) rest
      exact Turtle.object_reads_literal noName noNode (quotedLiteral_reads valid ends).firstOf_here
  | number numeral =>
      have noName := iri_misses_literal valid (by simp) rest
      have noString := quotedText_misses_unquoted valid (by simp) (' ' :: rest)
      have read := number_reads valid rest
      exact Turtle.object_reads_literal noName noNode
        (read.firstOf_here.firstOf_later noString.bind)
  | truth value =>
      have noName := iri_misses_literal valid (by simp) rest
      have noString := quotedText_misses_unquoted valid (by simp) (' ' :: rest)
      have noNumber : Misses Turtle.number
          ([' '] ++ (truthText value).toList ++ ' ' :: rest) := by
        rw [List.append_assoc]
        exact numberChoice_misses
          (fun value datatype => Turtle.Object.literal value none (some (.full datatype)))
          IsGap.space starts (stops_truth (by decide) value _)
      have read := boolean_reads value rest
      exact Turtle.object_reads_literal noName noNode
        ((read.firstOf_here.firstOf_later noNumber).firstOf_later noString.bind)

theorem object_reads (inner : Parser (List Turtle.Property)) {object : ObjectText}
    (valid : object.IsValid prefixes) (rest : List Char) :
    Reads (Turtle.object inner) ([' '] ++ object.write) object.asObject (Turtle.ending rest) :=
  object_reads_ending inner valid (EndsTerm.space rfl rfl)

/-! ## Statements -/

theorem isLabelChar_folds {c : Char} (inside : isLabelChar c = true)
    (outside : foldsToIdentifier capital c = false) : c = '-' := by
  simp only [isLabelChar, Bool.or_eq_true, beq_iff_eq] at inside
  rcases inside with (alphanumeric | rfl) | rfl
  · rw [isIdentifierChar_capital alphanumeric] at outside
    contradiction
  · exact absurd outside (by decide)
  · rfl

theorem capital_of_isLabelChar {c : Char} (inside : isLabelChar c = true) :
    capital c = c.toUpper := by
  have different : ∀ d : Char, isLabelChar d = false → c ≠ d := by
    rintro d outside rfl
    rw [inside] at outside
    contradiction
  simp [capital, different 'ı' (by decide), different 'ſ' (by decide)]

/-- Behind its word a base has a full name, and a label with its colon is none. -/
theorem base_misses_label {label : String} {gap : List Char} (blank : IsGap gap)
    (isLabel : IsLabel label) (rest : List Char) :
    Misses (do
      caselessKeyword "BASE"
      let name ← iriRef
      return Turtle.Statement.rebase name) (gap ++ (label.toList ++ ':' :: rest)) := by
  have colon : foldsToIdentifier capital ':' = false := by decide
  refine foldedWord_bind_misses (by decide) blank (isLabel_starts isLabel rest) ?_
  obtain ⟨c, others, behind, inside, -⟩ := dropWhile_label isLabel colon rest
  have isLocal : isLocalChar c = true ∨ c = ':' := inside.imp_left isLocalChar_of_isLabelChar
  have starts : Stops isLayoutStart (c :: others) := by
    rw [Stops.cons_iff]
    rcases inside with labelled | rfl
    · exact isLayoutStart_eq_false (by decide) labelled
    · decide
  have noAngle : Stops (· == '<') (c :: others) := by
    rw [Stops.cons_iff, beq_eq_false_iff_ne]
    rintro rfl
    rcases inside with labelled | same
    · exact absurd labelled (by decide)
    · exact absurd same (by decide)
  rw [behind]
  exact (iriRef_misses IsGap.nil starts noAngle).bind

/-- Behind its word a declaration has a label and a full name.  Only where the word itself is the
label does a colon follow it, and no full name follows the colon. -/
theorem declaration_misses_label {label : String} {gap rest : List Char} (blank : IsGap gap)
    (isLabel : IsLabel label)
    (noName : (Stops isLayoutStart rest ∧ Stops (· == '<') rest) ∨
      label.toList.map capital ≠ "PREFIX".toList) :
    Misses (do
      caselessKeyword "PREFIX"
      let label ← prefixLabel
      let name ← iriRef
      return Turtle.Statement.declare label name) (gap ++ (label.toList ++ ':' :: rest)) := by
  have colon : foldsToIdentifier capital ':' = false := by decide
  have startsLabel := isLabel_starts isLabel rest
  have isKeyword : IsKeyword capital "PREFIX" := by decide
  rcases dropWhile_label_cases isLabel colon rest with
    ⟨all, behind⟩ | ⟨c, others, behind, inside, outside⟩
  · rcases noName with ⟨starts, noAngle⟩ | different
    · refine foldedWord_bind_misses isKeyword blank startsLabel ?_
      rw [behind]
      intro before
      have isEmpty : IsLabel "" := by decide
      have empty : Reads prefixLabel [':'] "" rest := prefixLabel_reads IsGap.nil isEmpty
      have noFull : Misses iriRef rest := iriRef_misses IsGap.nil starts noAngle
      exact (empty before).bind_misses noFull.bind
    · exact (foldedRun_misses isKeyword blank startsLabel all (Stops.cons_iff.2 colon)
        different).bind
  · obtain rfl := isLabelChar_folds inside outside
    refine foldedWord_bind_misses isKeyword blank startsLabel ?_
    rw [behind]
    have noLabel : scanPrefixLabel ('-' :: others) = none :=
      scanPrefixLabel_eq_none (Stops.cons_iff.2 rfl)
    have starts : Stops isLayoutStart ('-' :: others) := rfl
    have missed : Misses prefixLabel ('-' :: others) :=
      (lexeme_misses IsGap.nil starts noLabel).bind
    exact missed.bind

/-- No directive begins with the subject of a statement. -/
theorem directives_miss_name {name : Iri} {gap : List Char} (blank : IsGap gap)
    (isName : IsResourceName name) (notDirective : ¬IsDirectiveName name) (rest : List Char) :
    Misses Turtle.declaration (gap ++ (name.text.toList ++ ' ' :: rest)) ∧
      Misses Turtle.baseDirective (gap ++ (name.text.toList ++ ' ' :: rest)) := by
  obtain ⟨c, others, front, isFront⟩ := iri_front isName
  have starts : Stops isLayoutStart (name.text.toList ++ ' ' :: rest) := by
    rw [front, List.cons_append, Stops.cons_iff]
    exact (outside_of_isNameFront isFront).1
  have noMark : Stops (· == '@') (name.text.toList ++ ' ' :: rest) := by
    rw [front, List.cons_append, Stops.cons_iff, beq_eq_false_iff_ne]
    rintro rfl
    exact absurd isFront (by decide)
  cases name with
  | full value =>
      have written : (Iri.full value).text.toList = angled value := text_iri_full value
      rw [written]
      exact Turtle.directives_miss blank rfl rfl (Nat.zero_lt_succ 3)
  | «prefixed» label localPart =>
      have written : (Iri.prefixed label localPart).text.toList = colonJoined label localPart :=
        text_iri_prefixed label localPart
      obtain ⟨isLabel, isLocal⟩ := isName
      rw [written, colonJoined, List.append_assoc, List.cons_append] at starts noMark ⊢
      refine Turtle.directives_miss_of blank starts noMark
        (declaration_misses_label blank isLabel ?_) (base_misses_label blank isLabel _)
      cases letters : localPart.toList with
      | nil =>
          refine Or.inr fun same => notDirective ⟨label, ?_, ?_⟩
          · rw [String.toList_eq_nil_iff.1 letters]
          · rw [← same]
            exact List.map_congr_left fun c inside =>
              (capital_of_isLabelChar (isLabel.2 c inside)).symm
      | cons c others =>
          have inside : isLocalChar c = true := isLocal.2.1 c (by simp [letters])
          refine Or.inl ⟨?_, ?_⟩
          · rw [List.cons_append, Stops.cons_iff]
            exact isLayoutStart_eq_false (by decide) inside
          · rw [List.cons_append, Stops.cons_iff, beq_eq_false_iff_ne]
            rintro rfl
            exact absurd inside (by decide)

def Statement.asStatement (statement : Statement) : Turtle.Statement :=
  .triples (.iri statement.subject) [(statement.verb.asName, statement.object.asObject)]

theorem statement_reads {statement : Statement} {gap : List Char} (blank : IsGap gap)
    (valid : statement.IsValid prefixes) (rest : List Char) :
    Reads Turtle.statement (gap ++ (statement.write ++ [' ', '.'])) statement.asStatement rest := by
  obtain ⟨subject, verb, object⟩ := statement
  obtain ⟨isSubject, isVerb, isObject, notDirective⟩ := valid
  simp only at isSubject isVerb isObject notDirective
  have verbReads : Reads Turtle.predicate ([' '] ++ verb.write) verb.asName
      ([' '] ++ object.write ++ Turtle.ending rest) :=
    predicate_reads isVerb _
  have stated := Turtle.properties_reads_single verbReads
    fun inner => object_reads inner isObject rest
  have stops : Stops isLocalChar
      ([' '] ++ verb.write ++ ([' '] ++ object.write) ++ Turtle.ending rest) := rfl
  have about : Reads Turtle.subject (gap ++ subject.text.toList) (.iri subject)
      ([' '] ++ verb.write ++ ([' '] ++ object.write) ++ Turtle.ending rest) :=
    Reads.firstOf_here (iri_reads blank isSubject.1 stops).bind_pure
  have whole := Turtle.triples_reads_stated about stated
  have noDirective := directives_miss_name blank isSubject.1 notDirective
    (verb.write ++ ([' '] ++ object.write) ++ Turtle.ending rest)
  have same : gap ++ ((Statement.mk subject verb object).write ++ [' ', '.']) =
      gap ++ subject.text.toList ++
        ([' '] ++ verb.write ++ ([' '] ++ object.write) ++ [' ', '.']) := by
    simp only [Statement.write, List.append_assoc]
  have ahead : gap ++ subject.text.toList ++
      ([' '] ++ verb.write ++ ([' '] ++ object.write) ++ [' ', '.']) ++ rest =
      gap ++ (subject.text.toList ++
        ' ' :: (verb.write ++ ([' '] ++ object.write) ++ Turtle.ending rest)) := by
    simp [Turtle.ending]
  rw [← ahead] at noDirective
  rw [same]
  exact (whole.firstOf_here.firstOf_later noDirective.2).firstOf_later noDirective.1

/-! ## Declarations and documents -/

def Directive.asStatement (directive : Directive) : Turtle.Statement :=
  .declare directive.pair.1 directive.pair.2

theorem directive_readsFrom {before : Option Char} {gap : List Char} {directive : Directive}
    (blank : IsGap gap) (boundary : isBoundary capital (gap.getLast?.or before) = true)
    (good : IsDeclaration directive.pair) (rest : List Char) :
    ReadsFrom before Turtle.statement (gap ++ directive.write) directive.asStatement rest := by
  cases directive with
  | marked pair =>
      have mark : Reads (symbol "@prefix") (gap ++ "@prefix".toList) ()
          ([' '] ++ (pair.1.toList ++ [':']) ++ ([' '] ++ angled pair.2 ++ [' ', '.']) ++ rest) :=
        symbol_reads blank rfl
      have label : Reads prefixLabel ([' '] ++ (pair.1.toList ++ [':'])) pair.1
          ([' '] ++ angled pair.2 ++ [' ', '.'] ++ rest) :=
        prefixLabel_reads IsGap.space good.1
      have name : Reads iriRef ([' '] ++ angled pair.2) pair.2 ([' ', '.'] ++ rest) :=
        iriRef_reads IsGap.space good.2
      have stop : Reads (symbol ".") [' ', '.'] () rest := symbol_reads IsGap.space rfl
      have whole : Reads (do
          symbol "@prefix"
          let label ← prefixLabel
          let name ← iriRef
          symbol "."
          return Turtle.Statement.declare label name) (gap ++ "@prefix".toList ++
            ([' '] ++ (pair.1.toList ++ [':']) ++ ([' '] ++ angled pair.2 ++ [' ', '.'])))
          (.declare pair.1 pair.2) rest :=
        mark.bind (label.bind (name.bind stop.bind_pure))
      rw [List.append_assoc gap] at whole
      exact (whole.firstOf_here before).firstOf_here
  | worded pair =>
      have noMark : Misses (symbol "@prefix") (gap ++ (declarationText pair ++ rest)) :=
        symbol_misses blank rfl rfl
      rw [← List.append_assoc] at noMark
      have read := declarationClause_readsFrom Turtle.Statement.declare blank boundary good rest
      exact (read.firstOf_here.firstOf_later (noMark.bind before)).firstOf_here

theorem statements_readsEach {directives : List Directive} {statement : Statement}
    (good : ∀ directive ∈ directives, IsDeclaration directive.pair)
    (valid : statement.IsValid prefixes) :
    ReadsEach Turtle.statement
      ((directives.flatMap fun directive => ['\n'] ++ directive.write) ++
        (['\n'] ++ (statement.write ++ [' ', '.'])))
      (directives.map Directive.asStatement ++ [statement.asStatement]) [] := by
  induction directives with
  | nil =>
      have single := ReadsEach.more (by simp) (statement_reads IsGap.lineEnd valid ([] ++ []))
        (ReadsEach.stop (Turtle.statement_misses_end IsGap.nil))
      rw [List.append_nil] at single
      exact single
  | cons directive directives inductionHypothesis =>
      rw [List.forall_mem_cons] at good
      rw [List.flatMap_cons, List.append_assoc, List.map_cons, List.cons_append]
      exact ReadsEach.more (by simp)
        (fun before => directive_readsFrom IsGap.lineEnd rfl good.1 _) (inductionHypothesis good.2)

theorem tab_not_mem_documentText {directives : List Directive} {statement : Statement}
    (good : ∀ directive ∈ directives, IsDeclaration directive.pair)
    (valid : statement.IsValid prefixes) :
    '\t' ∉ (documentText directives statement).toList := by
  rw [documentText, String.toList_ofList]
  intro inside
  rcases List.mem_append.1 inside with inDirectives | inStatement
  · obtain ⟨directive, known, written⟩ := List.mem_flatMap.1 inDirectives
    simp [tab_not_mem_directive (good directive known)] at written
  · simp [tab_not_mem_statement valid] at inStatement

theorem parseStatements_documentText {directives : List Directive} {statement : Statement}
    (good : ∀ directive ∈ directives, IsDeclaration directive.pair)
    (valid : statement.IsValid prefixes) :
    Turtle.parseStatements (documentText directives statement) =
      .ok (directives.map Directive.asStatement ++ [statement.asStatement]) := by
  have noTab := tab_not_mem_documentText good valid
  rw [documentText, String.toList_ofList] at noTab
  rw [documentText]
  cases directives with
  | nil =>
      have same : ([] : List Directive).flatMap (fun directive => directive.write ++ ['\n']) ++
          (statement.write ++ [' ', '.']) = statement.write ++ [' ', '.'] ++ [] ++ [] := by
        simp only [List.flatMap_nil, List.nil_append, List.append_nil]
      have first := statement_reads IsGap.nil valid ([] ++ []) none
      have later : ReadsEach Turtle.statement [] [] [] :=
        ReadsEach.stop (Turtle.statement_misses_end IsGap.nil)
      rw [List.nil_append] at first
      rw [same] at noTab ⊢
      exact Turtle.parseStatements_of_readsEach noTab (by simp) first later IsGap.nil
  | cons directive directives =>
      rw [List.forall_mem_cons] at good
      have later := statements_readsEach good.2 valid
      have nonempty : directive.write ≠ [] := by
        cases directive with
        | marked pair => simp [Directive.write_marked]
        | worded pair => exact declarationText_ne_nil pair
      have first : ReadsFrom none Turtle.statement directive.write directive.asStatement
          ((directives.flatMap fun directive => ['\n'] ++ directive.write) ++
            (['\n'] ++ (statement.write ++ [' ', '.'])) ++ []) :=
        directive_readsFrom IsGap.nil rfl good.1 _
      have same : ((directive :: directives).flatMap fun directive => directive.write ++ ['\n']) ++
          (statement.write ++ [' ', '.']) =
          directive.write ++ ((directives.flatMap fun directive => ['\n'] ++ directive.write) ++
            (['\n'] ++ (statement.write ++ [' ', '.']))) ++ [] := by
        rw [flatMap_lines]
        simp only [List.append_assoc, List.append_nil]
      rw [same] at noTab ⊢
      exact Turtle.parseStatements_of_readsEach noTab nonempty first later IsGap.nil

/-! ## The fact that is told -/

theorem expand_of_isDeclared {name : Iri} (declared : name.isDeclared prefixes = true) :
    (Turtle.Scope.mk prefixes none).expand name = .ok (name.expand prefixes) := by
  cases name with
  | full value => rfl
  | «prefixed» label localPart =>
      have found : (prefixes.find? label).isSome = true := declared
      obtain ⟨iri, found⟩ := Option.isSome_iff_exists.1 found
      simp [Turtle.Scope.expand, Iri.expand, found]

theorem expandDatatype_of_isDeclared {datatype : Option Iri}
    (declared : ∀ name, datatype = some name → name.isDeclared prefixes = true) :
    (Turtle.Scope.mk prefixes none).expandDatatype datatype =
      .ok (datatype.map (Iri.expand prefixes)) := by
  cases datatype with
  | none => rfl
  | some name =>
      rw [Turtle.Scope.expandDatatype, expand_of_isDeclared (declared name rfl)]
      rfl

theorem isDeclared_datatype? {object : ObjectText} (valid : object.IsValid prefixes) (name : Iri)
    (typed : object.datatype? = some name) : name.isDeclared prefixes = true := by
  cases object with
  | resource other => cases typed
  | quoted string suffix =>
      cases suffix with
      | none => cases typed
      | some suffix =>
          cases suffix with
          | language tag => cases typed
          | datatype other =>
              cases typed
              exact (valid.2.2 name rfl).2
  | number numeral =>
      cases typed
      rfl
  | truth value =>
      cases typed
      rfl

theorem tellProperty_object {object : ObjectText} (valid : object.IsValid prefixes)
    (subject predicate : String) (next : Nat) :
    Turtle.tellProperty ⟨prefixes, none⟩ subject predicate next object.asObject =
      ⟨[⟨subject, predicate, object.value prefixes, object.datatype?.map (Iri.expand prefixes),
        object.language?⟩], next, none⟩ := by
  have expanded := expandDatatype_of_isDeclared (isDeclared_datatype? valid)
  cases object with
  | resource name =>
      rw [ObjectText.asObject, Turtle.tellProperty, expand_of_isDeclared valid.2]
      rfl
  | quoted string suffix =>
      rw [ObjectText.datatype?] at expanded
      rw [ObjectText.asObject, Turtle.tellProperty, expanded]
      rfl
  | number numeral => rfl
  | truth value => rfl

theorem tellStatements_statement {statement : Statement} (valid : statement.IsValid prefixes)
    (next : Nat) :
    Turtle.tellStatements ⟨prefixes, none⟩ next [statement.asStatement] =
      ⟨[statement.fact prefixes], next, none⟩ := by
  obtain ⟨subject, verb, object⟩ := statement
  have subjectExpands := expand_of_isDeclared valid.subject.2
  have verbExpands := expand_of_isDeclared (isDeclared_asName valid.verb)
  have told := tellProperty_object valid.object (subject.expand prefixes)
    (verb.asName.expand prefixes) next
  simp only at subjectExpands verbExpands told
  rw [Statement.asStatement, Turtle.tellStatements, Turtle.tellTriples, subjectExpands]
  simp only [Turtle.Telling.withValue, Turtle.tellProperties, verbExpands, told]
  rfl

theorem tellStatements_declared (directives : List Directive) (statements : List Turtle.Statement)
    (prefixes : PrefixTable) (next : Nat) :
    Turtle.tellStatements ⟨prefixes, none⟩ next
        (directives.map Directive.asStatement ++ statements) =
      Turtle.tellStatements ⟨(directives.map Directive.pair).foldl
        (fun map pair => map.insert pair.1 pair.2) prefixes, none⟩ next statements := by
  induction directives generalizing prefixes with
  | nil => rfl
  | cons directive directives inductionHypothesis =>
      exact inductionHypothesis (prefixes.insert directive.pair.1 directive.pair.2)

/-- A document of one triple tells one fact, the one that the triple states. -/
theorem tell_documentText {directives : List Directive} {statement : Statement}
    (good : ∀ directive ∈ directives, IsDeclaration directive.pair)
    (valid : statement.IsValid (.ofList (directives.map Directive.pair))) (next : Nat) :
    Turtle.tell next (documentText directives statement) =
      ⟨[statement.fact (.ofList (directives.map Directive.pair))], next, none⟩ := by
  rw [Turtle.tell, parseStatements_documentText good valid]
  have told := tellStatements_declared directives [statement.asStatement] .empty next
  exact told.trans (tellStatements_statement valid next)

end FactQuery.TripleText
