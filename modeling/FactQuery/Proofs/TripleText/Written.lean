import FactQuery.Fact
import FactQuery.Proofs.Sparql.QueryText
import FactQuery.Proofs.Token.WrittenNumber
import FactQuery.Proofs.Token.WrittenString

/-!
# Triples as they are written

The terms that data and queries share: names of resources in full or with a declared label, the verb
`a`, strings in every form with what they may carry, numbers and truth values without quotes.  A
triple of them has a text and, under a table of prefixes, a fact that it states.  The same text is
the statement of a document and the pattern of a query.
-/

set_option autoImplicit false

namespace FactQuery.TripleText

open FactQuery.Text FactQuery.Grammar FactQuery.Token FactQuery.Number FactQuery.Sparql

/-! ## The written form -/

inductive VerbText where
  | resource (name : Iri)
  /-- The word for the type of a resource. -/
  | a

inductive ObjectText where
  | resource (name : Iri)
  | quoted (string : WrittenString) (suffix : Option LiteralSuffix)
  | number (numeral : Numeral)
  | truth (value : Bool)

structure Statement where
  subject : Iri
  verb : VerbText
  object : ObjectText

def suffixText : Option LiteralSuffix → List Char
  | none => []
  | some (.language tag) => '@' :: tag.toList
  | some (.datatype name) => "^^".toList ++ name.text.toList

def truthText (value : Bool) : String :=
  if value then "true" else "false"

def VerbText.write : VerbText → List Char
  | .resource name => name.text.toList
  | .a => ['a']

def ObjectText.write : ObjectText → List Char
  | .resource name => name.text.toList
  | .quoted string suffix => string.write ++ suffixText suffix
  | .number numeral => numeral.written
  | .truth value => (truthText value).toList

def Statement.write (statement : Statement) : List Char :=
  statement.subject.text.toList ++
    ([' '] ++ statement.verb.write ++ ([' '] ++ statement.object.write))

inductive Directive where
  /-- With a mark in front and a full stop behind. -/
  | marked (pair : String × String)
  /-- As in a query. -/
  | worded (pair : String × String)

namespace Directive

def pair : Directive → String × String
  | .marked pair => pair
  | .worded pair => pair

def write : Directive → List Char
  | .marked pair =>
    "@prefix".toList ++
      ([' '] ++ (pair.1.toList ++ [':']) ++ ([' '] ++ angled pair.2 ++ [' ', '.']))
  | .worded pair => declarationText pair

theorem write_marked (pair : String × String) :
    (Directive.marked pair).write = "@prefix".toList ++
      ([' '] ++ (pair.1.toList ++ [':']) ++ ([' '] ++ angled pair.2 ++ [' ', '.'])) := rfl

end Directive

def documentText (directives : List Directive) (statement : Statement) : String :=
  String.ofList ((directives.flatMap fun directive => directive.write ++ ['\n']) ++
    (statement.write ++ [' ', '.']))

def patternText (statement : Statement) : List Char :=
  "SELECT * WHERE \x7b ".toList ++ (statement.write ++ [' ', '\x7d'])

/-- A query for all that one pattern binds, behind its declarations. -/
def queryText (declared : List (String × String)) (statement : Statement) : String :=
  String.ofList ((declared.flatMap fun pair => declarationText pair ++ ['\n']) ++
    patternText statement)

/-! ## What can be written -/

/-- The name is one that a token can hold, and stands for something. -/
def IsKnown (prefixes : PrefixTable) (name : Iri) : Prop :=
  IsResourceName name ∧ name.isDeclared prefixes = true

def VerbText.IsValid (prefixes : PrefixTable) : VerbText → Prop
  | .resource name => IsKnown prefixes name
  | .a => True

def ObjectText.IsValid (prefixes : PrefixTable) : ObjectText → Prop
  | .resource name => IsKnown prefixes name
  | .quoted string suffix =>
    string.IsValid ∧ (∀ tag, suffix = some (.language tag) → IsTag tag) ∧
      ∀ name, suffix = some (.datatype name) → IsKnown prefixes name
  | .number numeral => numeral.IsShorthand
  | .truth _ => True

/-- The name is the word that opens a declaration, in any case, with a colon behind it. -/
def IsDirectiveName (name : Iri) : Prop :=
  ∃ label, name = .prefixed label "" ∧ label.toList.map Char.toUpper = "PREFIX".toList

structure Statement.IsValid (prefixes : PrefixTable) (statement : Statement) : Prop where
  subject : IsKnown prefixes statement.subject
  verb : statement.verb.IsValid prefixes
  object : statement.object.IsValid prefixes
  notDirective : ¬IsDirectiveName statement.subject

/-! ## The fact that is stated -/

def VerbText.asName : VerbText → Iri
  | .resource name => name
  | .a => .full Vocabulary.rdfType

def language? : Option LiteralSuffix → Option String
  | some (.language tag) => some tag
  | _ => none

def datatype? : Option LiteralSuffix → Option Iri
  | some (.datatype name) => some name
  | _ => none

def ObjectText.value (prefixes : PrefixTable) : ObjectText → String
  | .resource name => name.expand prefixes
  | .quoted string _ => String.ofList string.value
  | .number numeral => String.ofList numeral.written
  | .truth value => truthText value

def ObjectText.language? : ObjectText → Option String
  | .quoted _ suffix => TripleText.language? suffix
  | _ => none

def ObjectText.datatype? : ObjectText → Option Iri
  | .resource _ => none
  | .quoted _ suffix => TripleText.datatype? suffix
  | .number numeral => some (.full numeral.datatype)
  | .truth _ => some (.full Vocabulary.xsdBoolean)

def Statement.fact (prefixes : PrefixTable) (statement : Statement) : Fact :=
  ⟨statement.subject.expand prefixes, statement.verb.asName.expand prefixes,
    statement.object.value prefixes, statement.object.datatype?.map (Iri.expand prefixes),
    statement.object.language?⟩

theorem isDeclared_asName {prefixes : PrefixTable} {verb : VerbText}
    (valid : verb.IsValid prefixes) : verb.asName.isDeclared prefixes = true := by
  cases verb with
  | resource name => exact valid.2
  | a => rfl

/-! ## Where terms begin -/

theorem iri_misses_word {word : String} {gap rest : List Char} (blank : IsGap gap)
    (isLabel : IsLabel word) (nonempty : word.toList ≠ []) :
    Misses iri (gap ++ (word.toList ++ ' ' :: rest)) := by
  have split : splitLabel (word.toList ++ ' ' :: rest) = (word.toList, ' ' :: rest) :=
    splitLabel_append isLabel rfl
  have noPrefixed : scanPrefixedName (word.toList ++ ' ' :: rest) = none := by
    simp only [scanPrefixedName, scanPrefixLabel, split]
    rfl
  obtain ⟨starts, noAngle⟩ : Stops isLayoutStart (word.toList ++ ' ' :: rest) ∧
      scanIriRef (word.toList ++ ' ' :: rest) = none := by
    cases letters : word.toList with
    | nil => exact absurd letters nonempty
    | cons c others =>
        have inside : isLabelChar c = true := isLabel.2 c (by simp [letters])
        have different : c ≠ '<' := by
          rintro rfl
          exact absurd inside (by decide)
        refine ⟨?_, by simp [scanIriRef, different]⟩
        rw [List.cons_append, Stops.cons_iff]
        exact isLayoutStart_eq_false (by decide) inside
  refine Misses.firstOf ?_
  simp only [List.forall_mem_cons]
  exact ⟨(lexeme_misses blank starts noAngle).bind.bind,
    (lexeme_misses blank starts noPrefixed).bind, by simp⟩

def isObjectFront (c : Char) : Bool :=
  isNameFront c || isQuote c || isNumberFront c

theorem ne_of_isObjectFront {c d : Char} (front : isObjectFront c = true)
    (outside : isObjectFront d = false) : c ≠ d := by
  rintro rfl
  rw [front] at outside
  contradiction

theorem isNameFront_of_isNumberFront {c : Char} (front : isNumberFront c = true) :
    isNameFront c = false := by
  cases named : isNameFront c with
  | false => rfl
  | true =>
      rw [(outside_of_isNameFront named).2.2.2] at front
      contradiction

theorem isQuote_of_isNumberFront {c : Char} (front : isNumberFront c = true) :
    isQuote c = false := by
  rw [isQuote, Bool.or_eq_false_iff, beq_eq_false_iff_ne, beq_eq_false_iff_ne]
  exact ⟨ne_of_isNumberFront front (by decide), ne_of_isNumberFront front (by decide)⟩

theorem ObjectText.front {prefixes : PrefixTable} {object : ObjectText}
    (valid : object.IsValid prefixes) (rest : List Char) :
    ∃ c others, object.write ++ rest = c :: others ∧ isObjectFront c = true := by
  cases object with
  | resource name =>
      obtain ⟨c, others, written, front⟩ := iri_front valid.1
      exact ⟨c, others ++ rest, by rw [ObjectText.write, written, List.cons_append],
        by simp [isObjectFront, front]⟩
  | quoted string suffix =>
      obtain ⟨others, written⟩ := write_front string (suffixText suffix ++ rest)
      refine ⟨string.style.quote, others, by rw [ObjectText.write, List.append_assoc, written], ?_⟩
      rcases quote_of_mem_all valid.1.style with same | same <;> rw [same] <;> decide
  | number numeral =>
      obtain ⟨c, others, written, front⟩ := written_front valid rest
      exact ⟨c, others, written, by simp [isObjectFront, front]⟩
  | truth value => cases value <;> exact ⟨_, _, rfl, by decide⟩

theorem stops_object {belongs : Char → Bool} {prefixes : PrefixTable} {object : ObjectText}
    (valid : object.IsValid prefixes) (apart : ∀ c, isObjectFront c = true → belongs c = false)
    (rest : List Char) : Stops belongs (object.write ++ rest) := by
  obtain ⟨c, others, written, front⟩ := ObjectText.front valid rest
  rw [written, Stops.cons_iff]
  exact apart c front

theorem isLayoutStart_of_isObjectFront {c : Char} (front : isObjectFront c = true) :
    isLayoutStart c = false :=
  isLayoutStart_eq_false (by decide) front

theorem stops_truth {belongs : Char → Bool} (apart : belongs 't' = false ∧ belongs 'f' = false)
    (value : Bool) (rest : List Char) : Stops belongs ((truthText value).toList ++ rest) := by
  cases value with
  | true => exact Stops.cons_iff.2 apart.1
  | false => exact Stops.cons_iff.2 apart.2

theorem iri_misses_literal {prefixes : PrefixTable} {object : ObjectText}
    (valid : object.IsValid prefixes) (notName : ∀ name, object ≠ .resource name)
    (rest : List Char) : Misses iri ([' '] ++ (object.write ++ ' ' :: rest)) := by
  have starts : Stops isLayoutStart (object.write ++ ' ' :: rest) :=
    stops_object valid (fun _ => isLayoutStart_of_isObjectFront) _
  cases object with
  | resource name => exact absurd rfl (notName name)
  | quoted string suffix =>
      refine iri_misses IsGap.space starts ?_
      rw [ObjectText.write, List.append_assoc]
      exact stops_string valid.1 (by decide) _
  | number numeral =>
      exact iri_misses IsGap.space starts
        (stops_number valid (fun _ => isNameFront_of_isNumberFront) _)
  | truth value =>
      cases value with
      | true => exact iri_misses_word IsGap.space (by decide) (by decide)
      | false => exact iri_misses_word IsGap.space (by decide) (by decide)

theorem quotedText_misses_unquoted {prefixes : PrefixTable} {object : ObjectText}
    (valid : object.IsValid prefixes) (unquoted : ∀ string suffix, object ≠ .quoted string suffix)
    (rest : List Char) : Misses quotedText ([' '] ++ object.write ++ rest) := by
  rw [List.append_assoc]
  refine quotedText_misses IsGap.space
    (stops_object valid (fun _ => isLayoutStart_of_isObjectFront) _) ?_
  cases object with
  | resource name =>
      obtain ⟨c, others, written, front⟩ := iri_front valid.1
      rw [ObjectText.write, written, List.cons_append, Stops.cons_iff]
      exact (outside_of_isNameFront front).2.2.1
  | quoted string suffix => exact absurd rfl (unquoted string suffix)
  | number numeral => exact stops_number valid (fun _ => isQuote_of_isNumberFront) rest
  | truth value => exact stops_truth (by decide) value rest

/-! ## Reading names and literals -/

theorem suffix_reads {prefixes : PrefixTable} {string : WrittenString}
    {suffix : Option LiteralSuffix} {rest : List Char}
    (valid : (ObjectText.quoted string suffix).IsValid prefixes) (ends : EndsTerm rest) :
    Reads (Parser.optional literalSuffix) (suffixText suffix) suffix rest := by
  obtain ⟨-, isTag, isKnown⟩ := valid
  cases suffix with
  | none => exact ends.noSuffix.optional_none
  | some suffix =>
      cases suffix with
      | language tag =>
          have stops : Stops isTagChar rest := ends.name.mono fun _ => isLocalChar_of_isTagChar
          exact (literalSuffix_reads_tag (isTag tag rfl) stops).optional_some
      | datatype name =>
          have read := iri_reads IsGap.nil (isKnown name rfl).1 ends.name
          rw [List.nil_append] at read
          exact (literalSuffix_reads_name read).optional_some

/-- A string is read together with what it carries, and both decide what it is. -/
theorem string_reads {α : Type} {next : String → Option LiteralSuffix → Parser α} {result : α}
    {prefixes : PrefixTable} {string : WrittenString} {suffix : Option LiteralSuffix}
    {gap rest : List Char} (blank : IsGap gap)
    (valid : (ObjectText.quoted string suffix).IsValid prefixes) (ends : EndsTerm (' ' :: rest))
    (decided : next (String.ofList string.value) suffix = pure result) :
    Reads (do
      let value ← quotedText
      let found ← Parser.optional literalSuffix
      next value found) (gap ++ (string.write ++ suffixText suffix)) result (' ' :: rest) := by
  have noQuote : Stops isQuote (suffixText suffix ++ ' ' :: rest) := by
    cases suffix with
    | none => rfl
    | some suffix => cases suffix <;> rfl
  have quoted := quotedText_reads_written blank valid.1 noQuote
  rw [← List.append_assoc]
  refine quoted.bind ((suffix_reads valid ends).bind_end ?_)
  rw [decided]
  exact Reads.pure result (' ' :: rest)

/-! ## Tabs -/

theorem tab_not_mem_resource {name : Iri} (isName : IsResourceName name) :
    '\t' ∉ name.text.toList :=
  @tab_not_mem_term (.iri name) isName rfl

variable {prefixes : PrefixTable}

theorem tab_not_mem_suffixText {string : WrittenString} {suffix : Option LiteralSuffix}
    (valid : (ObjectText.quoted string suffix).IsValid prefixes) : '\t' ∉ suffixText suffix := by
  obtain ⟨-, isTag, isKnown⟩ := valid
  cases suffix with
  | none => simp [suffixText]
  | some suffix =>
      cases suffix with
      | language tag =>
          have inside : '\t' ∉ tag.toList := not_mem_run (isTag tag rfl).isTagChar (by decide)
          simp [suffixText, inside]
      | datatype name => simp [suffixText, tab_not_mem_resource (isKnown name rfl).1]

theorem tab_not_mem_statement {statement : Statement} (valid : statement.IsValid prefixes) :
    '\t' ∉ statement.write := by
  obtain ⟨subject, verb, object⟩ := statement
  obtain ⟨isSubject, isVerb, isObject, -⟩ := valid
  simp only at isSubject isVerb isObject
  have inSubject := tab_not_mem_resource isSubject.1
  have inVerb : '\t' ∉ verb.write := by
    cases verb with
    | resource name => exact tab_not_mem_resource isVerb.1
    | a => decide
  have inObject : '\t' ∉ object.write := by
    cases object with
    | resource name => exact tab_not_mem_resource isObject.1
    | quoted string suffix =>
        rw [ObjectText.write, List.mem_append, not_or]
        exact ⟨WrittenString.tab_not_mem_write isObject.1, tab_not_mem_suffixText isObject⟩
    | number numeral => exact tab_not_mem_number isObject
    | truth value => cases value <;> decide
  simp [Statement.write, inSubject, inVerb, inObject]

theorem tab_not_mem_directive {directive : Directive} (good : IsDeclaration directive.pair) :
    '\t' ∉ directive.write := by
  cases directive with
  | marked pair =>
      have label : '\t' ∉ pair.1.toList := tab_not_mem_label good.1
      have name : '\t' ∉ angled pair.2 := tab_not_mem_angled good.2
      simp [Directive.write_marked, label, name]
  | worded pair => exact tab_not_mem_declaration good

end FactQuery.TripleText
