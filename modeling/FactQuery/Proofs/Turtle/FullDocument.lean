import FactQuery.Proofs.Abbreviation.Phrase
import FactQuery.Proofs.Turtle.Directives

/-!
# Documents without directives

What a document says without its directives and with every name in full can itself be written as a
document: names and labels are such as tokens can hold, also where they have been resolved, and
brackets are written with what they hold.  The document that is written tells what the first one
tells.
-/

set_option autoImplicit false

namespace FactQuery.Turtle

open FactQuery.Text FactQuery.Grammar FactQuery.Token FactQuery.Sparql FactQuery.Abbreviation

/-! ## Full names -/

def IsFullName : Iri → Prop
  | .full value => IsIriText value
  | .prefixed _ _ => False

mutual

/-- Every name is in full, and names, labels and tags are such as tokens can hold. -/
def Object.IsFull : Object → Prop
  | .iri name => IsFullName name
  | .blank label => IsNodeLabel label
  | .literal _ language datatype =>
    (∀ tag, language = some tag → IsTag tag) ∧
      (∀ name, datatype = some name → IsFullName name) ∧ (language = none ∨ datatype = none)
  | .anonymous properties => AreFull properties

def AreFull : List Property → Prop
  | [] => True
  | (name, object) :: others => IsFullName name ∧ object.IsFull ∧ AreFull others

end

def Subject.IsFull : Subject → Prop
  | .iri name => IsFullName name
  | .blank label => IsNodeLabel label
  | .anonymous properties => AreFull properties

def Sentence.IsFull (sentence : Sentence) : Prop :=
  sentence.subject.IsFull ∧ AreFull sentence.properties

section SpellOut

variable {full : Iri → Option String}

theorem isFullName_spellOutDatatype
    (texts : ∀ name value, IsResourceName name → full name = some value → IsIriText value)
    {datatype spelled : Option Iri} (good : ∀ name, datatype = some name → IsResourceName name)
    (run : spellOutDatatype full datatype = some spelled) :
    (∀ name, spelled = some name → IsFullName name) ∧ (datatype = none → spelled = none) := by
  cases datatype with
  | none =>
      cases run
      simp
  | some name =>
      simp only [spellOutDatatype, Option.bind_eq_bind, Option.bind_eq_some_iff] at run
      obtain ⟨text, resolved, same⟩ := run
      cases same
      refine ⟨?_, by simp⟩
      rintro other ⟨rfl⟩
      exact texts name text (good name rfl) resolved

mutual

theorem Object.isFull_spellOut
    (texts : ∀ name value, IsResourceName name → full name = some value → IsIriText value) :
    ∀ {object spelled : Object}, object.IsWellFormed → object.spellOut full = some spelled →
      spelled.IsFull
  | .iri name, spelled, good, run => by
      rw [Object.IsWellFormed] at good
      simp only [Object.spellOut, Option.bind_eq_bind, Option.bind_eq_some_iff] at run
      obtain ⟨value, known, same⟩ := run
      cases same
      rw [Object.IsFull]
      exact texts name value good known
  | .blank label, spelled, good, run => by
      rw [Object.IsWellFormed] at good
      cases run
      rwa [Object.IsFull]
  | .literal value language datatype, spelled, good, run => by
      rw [Object.IsWellFormed] at good
      obtain ⟨isTag, isName, single⟩ := good
      simp only [Object.spellOut, Option.bind_eq_bind, Option.bind_eq_some_iff] at run
      obtain ⟨found, known, same⟩ := run
      cases same
      obtain ⟨areFull, absent⟩ := isFullName_spellOutDatatype texts isName known
      rw [Object.IsFull]
      exact ⟨isTag, areFull, single.imp_right absent⟩
  | .anonymous properties, spelled, good, run => by
      rw [Object.IsWellFormed] at good
      simp only [Object.spellOut, Option.bind_eq_bind, Option.bind_eq_some_iff] at run
      obtain ⟨own, known, same⟩ := run
      cases same
      rw [Object.IsFull]
      exact areFull_spellOutAll texts good known

theorem areFull_spellOutAll
    (texts : ∀ name value, IsResourceName name → full name = some value → IsIriText value) :
    ∀ {properties spelled : List Property}, AreWellFormed properties →
      spellOutAll full properties = some spelled → AreFull spelled
  | [], spelled, _, run => by
      cases run
      trivial
  | (name, object) :: others, spelled, good, run => by
      obtain ⟨isName, isObject, areOthers⟩ := good
      simp only [spellOutAll, Option.bind_eq_bind, Option.bind_eq_some_iff] at run
      obtain ⟨predicate, known, value, spelledValue, more, spelledMore, same⟩ := run
      cases same
      exact ⟨texts name predicate isName known, Object.isFull_spellOut texts isObject spelledValue,
        areFull_spellOutAll texts areOthers spelledMore⟩

end

theorem Subject.isFull_spellOut
    (texts : ∀ name value, IsResourceName name → full name = some value → IsIriText value)
    {subject spelled : Subject} (good : subject.IsWellFormed)
    (run : subject.spellOut full = some spelled) : spelled.IsFull := by
  cases subject with
  | iri name =>
      simp only [Subject.spellOut, Option.bind_eq_bind, Option.bind_eq_some_iff] at run
      obtain ⟨value, known, same⟩ := run
      cases same
      exact texts name value good known
  | blank label =>
      cases run
      exact good
  | anonymous properties =>
      simp only [Subject.spellOut, Option.bind_eq_bind, Option.bind_eq_some_iff] at run
      obtain ⟨own, known, same⟩ := run
      cases same
      exact areFull_spellOutAll texts good known

end SpellOut

theorem isIriText_of_toOption {base : Option String} {reference iri : String}
    (goodBase : ∀ text, base = some text → IsIriText text) (good : IsIriText reference)
    (run : (Iri.resolveWith base reference).toOption = some iri) : IsIriText iri := by
  cases resolved : Iri.resolveWith base reference with
  | error fault => simp [resolved, Except.toOption] at run
  | ok value =>
      rw [resolved] at run
      cases run
      exact Iri.isIriText_resolveWith goodBase good resolved

/-- Bases that have been resolved can be written again. -/
theorem isIriText_baseBehind {earlier : List Statement}
    (good : ∀ statement ∈ earlier, statement.IsWellFormed) {base : Option String}
    (run : baseBehind earlier = some base) : ∀ text, base = some text → IsIriText text := by
  induction earlier generalizing base with
  | nil =>
      cases run
      simp
  | cons statement earlier inductionHypothesis =>
      rw [List.forall_mem_cons] at good
      cases statement with
      | declare label reference => exact inductionHypothesis good.2 run
      | triples subject properties => exact inductionHypothesis good.2 run
      | rebase reference =>
          simp only [baseBehind, Option.bind_eq_bind, Option.bind_eq_some_iff] at run
          obtain ⟨before, known, iri, resolved, same⟩ := run
          cases same
          rintro text ⟨rfl⟩
          exact isIriText_of_toOption (inductionHypothesis good.2 known) good.1 resolved

theorem isIriText_resolveBehind {earlier : List Statement}
    (good : ∀ statement ∈ earlier, statement.IsWellFormed) {reference iri : String}
    (isText : IsIriText reference) (run : resolveBehind earlier reference = some iri) :
    IsIriText iri := by
  simp only [resolveBehind, Option.bind_eq_bind, Option.bind_eq_some_iff] at run
  obtain ⟨base, known, resolved⟩ := run
  exact isIriText_of_toOption (isIriText_baseBehind good known) isText resolved

theorem isIriText_declared? {earlier : List Statement}
    (good : ∀ statement ∈ earlier, statement.IsWellFormed) {label iri : String}
    (run : declared? label earlier = some iri) : IsIriText iri := by
  induction earlier with
  | nil => contradiction
  | cons statement earlier inductionHypothesis =>
      rw [List.forall_mem_cons] at good
      cases statement with
      | rebase reference => exact inductionHypothesis good.2 run
      | triples subject properties => exact inductionHypothesis good.2 run
      | declare other reference =>
          rw [declared?] at run
          by_cases same : other = label
          · rw [if_pos same] at run
            exact isIriText_resolveBehind good.2 good.1.2 run
          · rw [if_neg same] at run
            exact inductionHypothesis good.2 run

theorem isIriText_fullName? {earlier : List Statement}
    (good : ∀ statement ∈ earlier, statement.IsWellFormed) (name : Iri) (value : String)
    (isName : IsResourceName name) (run : fullName? earlier name = some value) :
    IsIriText value := by
  cases name with
  | full reference => exact isIriText_resolveBehind good isName run
  | «prefixed» label localPart =>
      obtain ⟨iri, known, rfl⟩ := Option.map_eq_some_iff.1 run
      intro c found
      rw [String.toList_append, List.mem_append] at found
      rcases found with inIri | inLocal
      · exact isIriText_declared? good known c inIri
      · exact isIriChar_of_isLocalChar (isName.2.2.1 c inLocal)

theorem isFull_spellOutStatements {found earlier : List Statement} {spelled : List Sentence}
    (passed : ∀ statement ∈ earlier, statement.IsWellFormed)
    (good : ∀ statement ∈ found, statement.IsWellFormed)
    (run : spellOutStatements earlier found = some spelled) :
    ∀ sentence ∈ spelled, sentence.IsFull := by
  induction found generalizing earlier spelled with
  | nil =>
      cases run
      simp
  | cons statement others inductionHypothesis =>
      obtain ⟨here, later⟩ := List.forall_mem_cons.1 good
      have behind := List.forall_mem_cons.2 ⟨here, passed⟩
      cases statement with
      | declare label reference => exact inductionHypothesis behind later run
      | rebase reference => exact inductionHypothesis behind later run
      | triples subject properties =>
          simp only [spellOutStatements, Option.bind_eq_bind, Option.bind_eq_some_iff] at run
          obtain ⟨about, isAbout, stated, areStated, more, spelledMore, same⟩ := run
          cases same
          have texts := isIriText_fullName? passed
          rw [List.forall_mem_cons]
          exact ⟨⟨Subject.isFull_spellOut texts here.1 isAbout,
            areFull_spellOutAll texts here.2 areStated⟩,
            inductionHypothesis behind later spelledMore⟩

/-! ## The written form -/

def suffixOf : Option String → Option Iri → Option LiteralSuffix
  | some tag, _ => some (.language tag)
  | none, some name => some (.datatype name)
  | none, none => none

mutual

def Object.asPhrase : Object → Phrase Object
  | .iri name => ⟨name.text.toList, .iri name⟩
  | .blank label => ⟨'_' :: ':' :: label.toList, .blank label⟩
  | .literal value language datatype =>
    ⟨quote value.toList ++ writeSuffix (suffixOf language datatype),
      .literal value language datatype⟩
  | .anonymous properties =>
    match asPredications properties with
    | [] => emptyBracket
    | first :: others => bracket ⟨first, others⟩

def asPredications : List Property → List (Predication Iri Object)
  | [] => []
  | (name, object) :: others =>
    ⟨⟨name.text.toList, name⟩, object.asPhrase, [], 0⟩ :: asPredications others

end

mutual

theorem Object.value_asPhrase : ∀ object : Object, object.asPhrase.value = object
  | .iri _ => rfl
  | .blank _ => rfl
  | .literal _ _ _ => rfl
  | .anonymous properties => by
      have pairs := pairs_asPredications properties
      rw [Object.asPhrase]
      cases written : asPredications properties with
      | nil =>
          rw [written] at pairs
          rw [← pairs]
          rfl
      | cons first others =>
          rw [written] at pairs
          rw [← pairs]
          rfl

theorem pairs_asPredications :
    ∀ properties : List Property,
      (asPredications properties).flatMap Predication.pairs = properties
  | [] => rfl
  | (name, object) :: others => by
      rw [asPredications, List.flatMap_cons, pairs_asPredications]
      have here : Predication.pairs ⟨⟨name.text.toList, name⟩, object.asPhrase, [], 0⟩ =
          [(name, object.asPhrase.value)] := rfl
      rw [here, object.value_asPhrase]
      rfl

end

/-! ## What is written is read -/

theorem exists_of_isFullName {name : Iri} (isFull : IsFullName name) :
    ∃ value, name = .full value ∧ IsIriText value := by
  cases name with
  | full value => exact ⟨value, rfl, isFull⟩
  | «prefixed» label localPart => exact isFull.elim

theorem isReadBy_fullName {name : Iri} (isFull : IsFullName name) :
    Phrase.IsReadBy predicate ⟨name.text.toList, name⟩ := by
  obtain ⟨value, rfl, isText⟩ := exists_of_isFullName isFull
  have valid : TripleText.VerbText.IsValid .empty (.resource (.full value)) := ⟨isText, rfl⟩
  exact isReadBy_verbPhrase valid

theorem isFullSuffix_suffixOf {language : Option String} {datatype : Option Iri}
    (isTag : ∀ tag, language = some tag → IsTag tag)
    (isName : ∀ name, datatype = some name → IsFullName name) :
    IsFullSuffix (suffixOf language datatype) := by
  cases language with
  | some tag => exact isTag tag rfl
  | none =>
      cases datatype with
      | none => trivial
      | some name =>
          obtain ⟨text, rfl, isText⟩ := exists_of_isFullName (isName name rfl)
          exact isText

theorem quotedLiteral_reads_full {value : String} {language : Option String}
    {datatype : Option Iri} (isFull : IsFullSuffix (suffixOf language datatype))
    (single : language = none ∨ datatype = none) {rest : List Char} (ends : EndsTerm rest) :
    Reads quotedLiteral
      ([' '] ++ (quote value.toList ++ writeSuffix (suffixOf language datatype)))
      (.literal value language datatype) rest := by
  refine literal_reads IsGap.space isFull ends.literal ?_
  rcases single with rfl | rfl
  · cases datatype <;> rfl
  · cases language <;> rfl

theorem isObject_literal {value : String} {language : Option String} {datatype : Option Iri}
    (isFull : (Object.literal value language datatype).IsFull) :
    IsObject (Object.literal value language datatype).asPhrase := by
  rw [Object.IsFull] at isFull
  obtain ⟨isTag, isName, single⟩ := isFull
  have isSuffix := isFullSuffix_suffixOf isTag isName
  intro levels _
  rw [Object.asPhrase]
  refine ⟨?_, fun rest ends => ?_, fun rest => EndsTerm.space rfl rfl⟩
  · rw [List.mem_append, not_or]
    exact ⟨tab_not_mem_quote value.toList, tab_not_mem_writeSuffix isSuffix⟩
  · have read := @quotedLiteral_reads_full value _ _ isSuffix single _ ends
    have starts : Stops isLayoutStart (quote value.toList ++
        writeSuffix (suffixOf language datatype) ++ ' ' :: rest) := rfl
    exact object_reads_literal (iri_misses IsGap.space starts rfl)
      (nodes_miss _ IsGap.space starts rfl) read.firstOf_here

theorem isPropertyBlock_of_forall {first : Predication Iri Object}
    {others : List (Predication Iri Object)}
    (good : ∀ predication ∈ first :: others, predication.verb.IsReadBy predicate ∧
      ∀ phrase ∈ predication.objects, IsObject phrase) : IsPropertyBlock ⟨first, others⟩ :=
  ⟨fun predication known => (good predication known).1,
    fun predication known => (good predication known).2⟩

mutual

theorem Object.isObject_asPhrase : ∀ object : Object, object.IsFull → IsObject object.asPhrase
  | .iri name, isFull => by
      rw [Object.IsFull] at isFull
      obtain ⟨value, rfl, isText⟩ := exists_of_isFullName isFull
      have valid : TripleText.ObjectText.IsValid .empty (.resource (.full value)) := ⟨isText, rfl⟩
      rw [Object.asPhrase]
      exact isObject_objectPhrase valid
  | .blank label, isFull => by
      rw [Object.IsFull] at isFull
      rw [Object.asPhrase]
      exact isObject_labelPhrase ⟨label, isFull⟩
  | .literal _ _ _, isFull => isObject_literal isFull
  | .anonymous properties, isFull => by
      rw [Object.IsFull] at isFull
      have good := isObject_asPredications properties isFull
      rw [Object.asPhrase]
      cases written : asPredications properties with
      | nil => exact isObject_emptyBracket
      | cons first others =>
          rw [written] at good
          exact isObject_bracket (isPropertyBlock_of_forall good)

theorem isObject_asPredications :
    ∀ properties : List Property, AreFull properties →
      ∀ predication ∈ asPredications properties, predication.verb.IsReadBy predicate ∧
        ∀ phrase ∈ predication.objects, IsObject phrase
  | [], _ => by simp [asPredications]
  | (name, object) :: others, isFull => by
      obtain ⟨isName, isFullObject, areOthers⟩ := isFull
      have here := Object.isObject_asPhrase object isFullObject
      rw [asPredications, List.forall_mem_cons]
      exact ⟨⟨isReadBy_fullName isName, List.forall_mem_singleton.2 here⟩,
        isObject_asPredications others areOthers⟩

end

theorem asPredications_cases {properties : List Property} (areFull : AreFull properties) :
    (asPredications properties = [] ∧ properties = []) ∨
      ∃ first others, asPredications properties = first :: others ∧
        IsPropertyBlock ⟨first, others⟩ ∧ Block.pairs ⟨first, others⟩ = properties := by
  have good := isObject_asPredications properties areFull
  have pairs := pairs_asPredications properties
  cases written : asPredications properties with
  | nil =>
      rw [written] at pairs
      exact .inl ⟨rfl, pairs.symm⟩
  | cons first others =>
      rw [written] at good pairs
      exact .inr ⟨first, others, rfl, isPropertyBlock_of_forall good, pairs⟩

/-! ## Sentences -/

def Subject.write : Subject → List Char
  | .iri name => name.text.toList
  | .blank label => '_' :: ':' :: label.toList
  | .anonymous own => (Object.anonymous own).asPhrase.text

def writeStated (properties : List Property) : List Char :=
  match asPredications properties with
  | [] => []
  | first :: others => Block.write ⟨first, others⟩

def Sentence.asPhrase (sentence : Sentence) : Phrase Statement :=
  ⟨sentence.subject.write ++ (writeStated sentence.properties ++ [' ', '.']), sentence.asStatement⟩

def fullDocument (spelled : List Sentence) : String :=
  document (spelled.map fun sentence => .other sentence.asPhrase)

theorem tab_not_mem_subject {subject : Subject} (isFull : subject.IsFull) :
    '\t' ∉ subject.write := by
  cases subject with
  | iri name => exact (isReadBy_fullName isFull).noTab
  | blank label => exact tab_not_mem_labelText ⟨label, isFull⟩
  | anonymous own =>
      have isObject := Object.isObject_asPhrase (.anonymous own) (by rwa [Object.IsFull])
      exact (isObject _ (Nat.le_refl _)).noTab

/-- A subject in brackets is read with the grammar for whole documents, not for a level of it. -/
theorem subject_reads_full {subject : Subject} (isFull : subject.IsFull) (rest : List Char) :
    Reads Turtle.subject (' ' :: subject.write) subject (' ' :: rest) := by
  cases subject with
  | iri name =>
      obtain ⟨value, rfl, isText⟩ := exists_of_isFullName isFull
      have stops : Stops isLocalChar (' ' :: rest) := rfl
      have written : (Iri.full value).text.toList = angled value := text_iri_full value
      rw [Subject.write, written]
      exact Canonical.subject_reads IsGap.space (.iri ⟨value, isText⟩) stops
  | blank label =>
      have stops : Stops isLocalChar (' ' :: rest) := rfl
      exact Canonical.subject_reads IsGap.space (.blank ⟨label, isFull⟩) stops
  | anonymous own =>
      rw [Subject.write, Object.asPhrase]
      rcases asPredications_cases isFull with ⟨written, rfl⟩ | ⟨first, others, written, isBlock, rfl⟩
      · have nothing : Misses Turtle.properties ([' ', ']'] ++ ' ' :: rest) :=
          Misses.nested (properties_miss_bracket (' ' :: rest))
        have read := bracketed_reads_nothing nothing
        rw [written]
        exact firstOf_reads_bracket read
      · have read := bracketed_reads (Abbreviation.properties_reads isBlock
          (.intro (by decide) _) (semicolon_misses_bracket (' ' :: rest)))
        rw [written]
        exact firstOf_reads_bracket read

theorem stated_reads {properties : List Property} (areFull : AreFull properties)
    (rest : List Char) :
    ∃ found, Reads (Parser.optional Turtle.properties) (writeStated properties) found
        (ending rest) ∧ found.getD [] = properties := by
  have closes : Closes (ending rest) := .intro (by decide) rest
  rw [writeStated]
  rcases asPredications_cases areFull with ⟨written, rfl⟩ | ⟨first, others, written, isBlock, rfl⟩
  · have nothing : Misses Turtle.properties (ending rest) :=
      Misses.nested fun _ => (predicate_misses closes).bind.bind
    rw [written]
    exact ⟨none, nothing.optional_none, rfl⟩
  · have starts : Stops isLayoutStart ('.' :: rest) := rfl
    have read := Abbreviation.properties_reads isBlock closes (symbol_misses IsGap.space starts rfl)
    rw [written]
    exact ⟨some _, read.optional_some, rfl⟩

theorem tab_not_mem_writeStated {properties : List Property} (areFull : AreFull properties) :
    '\t' ∉ writeStated properties := by
  rw [writeStated]
  rcases asPredications_cases areFull with ⟨written, _⟩ | ⟨first, others, written, isBlock, _⟩
  · rw [written]
    exact List.not_mem_nil
  · rw [written]
    exact (isBlock.isReadBy (Nat.le_refl _)).tab_not_mem_write

theorem blank_writeStated (properties : List Property) (rest : List Char) :
    ∃ behind, writeStated properties ++ ending rest = ' ' :: behind := by
  rw [writeStated]
  cases asPredications properties with
  | nil => exact ⟨_, rfl⟩
  | cons first others => exact ⟨_, rfl⟩

theorem directives_miss_subject {subject : Subject} (isFull : subject.IsFull)
    (rest : List Char) :
    Misses declaration ([' '] ++ (subject.write ++ rest)) ∧
      Misses baseDirective ([' '] ++ (subject.write ++ rest)) := by
  cases subject with
  | iri name =>
      obtain ⟨value, rfl, isText⟩ := exists_of_isFullName isFull
      have written : (Iri.full value).text.toList = angled value := text_iri_full value
      rw [Subject.write, written]
      exact directives_miss IsGap.space rfl rfl (Nat.zero_lt_succ 3)
  | blank label =>
      exact directives_miss IsGap.space rfl rfl (Nat.succ_lt_succ (Nat.zero_lt_succ 2))
  | anonymous own =>
      rw [Subject.write, Object.asPhrase]
      cases asPredications own with
      | nil => exact directives_miss IsGap.space rfl rfl (Nat.zero_lt_succ 3)
      | cons first others => exact directives_miss IsGap.space rfl rfl (Nat.zero_lt_succ 3)

theorem Sentence.isGood_asPhrase {sentence : Sentence} (isFull : sentence.IsFull) :
    (Item.other sentence.asPhrase).IsGood := by
  obtain ⟨subject, properties⟩ := sentence
  obtain ⟨isSubject, areStated⟩ := isFull
  constructor
  · have inSubject := tab_not_mem_subject isSubject
    have inStated := tab_not_mem_writeStated areStated
    simp [asPhrase, inSubject, inStated]
  · intro rest
    obtain ⟨behind, blank⟩ := blank_writeStated properties rest
    have about : Reads Turtle.subject (' ' :: subject.write) subject
        (writeStated properties ++ ending rest) := by
      rw [blank]
      exact subject_reads_full isSubject behind
    obtain ⟨found, stated, same⟩ := stated_reads areStated rest
    have stop : Reads (symbol ".") [' ', '.'] () rest := symbol_reads IsGap.space rfl
    have whole : Reads triples (' ' :: subject.write ++ (writeStated properties ++ [' ', '.']))
        (.triples subject (found.getD [])) rest := by
      refine Reads.bind ?_ (stated.bind stop.bind_pure)
      rw [List.append_assoc]
      exact about
    rw [same] at whole
    have noDirective := directives_miss_subject isSubject
      (writeStated properties ++ [' ', '.'] ++ rest)
    rw [← List.append_assoc, ← List.append_assoc] at noDirective
    exact (whole.firstOf_here.firstOf_later noDirective.2).firstOf_later noDirective.1

theorem parseStatements_fullDocument {spelled : List Sentence}
    (areFull : ∀ sentence ∈ spelled, sentence.IsFull) :
    parseStatements (fullDocument spelled) = .ok (spelled.map Sentence.asStatement) := by
  have good : ∀ item ∈ spelled.map fun sentence => Item.other sentence.asPhrase, item.IsGood := by
    rw [List.forall_mem_map]
    exact fun sentence inside => Sentence.isGood_asPhrase (areFull sentence inside)
  have parsed := parseStatements_document good
  rw [List.map_map] at parsed
  exact parsed

/-! ## Directives can be eliminated -/

/-- A document that is told without a fault can be written without directives and with every name in
full.  What is written, and any other text that is read as the same statements, tells the same. -/
theorem tell_spelledOut {next : Nat} {text : String} (faultless : (tell next text).error = none) :
    ∃ found spelled, parseStatements text = .ok found ∧
      spellOutStatements [] found = some spelled ∧
      (∀ sentence ∈ spelled, sentence.IsFull) ∧
      parseStatements (fullDocument spelled) = .ok (spelled.map Sentence.asStatement) ∧
      tell next (fullDocument spelled) = tell next text ∧
      ∀ other, parseStatements other = .ok (spelled.map Sentence.asStatement) →
        tell next other = tell next text := by
  obtain ⟨found, parsed, fine⟩ := Telling.exists_of_withValue faultless
  obtain ⟨spelled, run, same⟩ := tellStatements_spellOut found Scope.Follows.initial next fine
  have areFull := isFull_spellOutStatements (by simp) (isWellFormed_of_parseStatements parsed) run
  have written := parseStatements_fullDocument areFull
  have toldAgain : ∀ other, parseStatements other = .ok (spelled.map Sentence.asStatement) →
      tell next other = tell next text := by
    intro other read
    rw [tell, tell, read, parsed]
    exact same
  exact ⟨found, spelled, parsed, run, areFull, written, toldAgain _ written, toldAgain⟩

/-- A label that is declared again, a label for a reference, a base that is resolved against
another, and names in brackets and behind a string. -/
theorem tell_spelledOut_redeclared :
    let text := "@base <http://b.org/x/> .\n@prefix e: <http://e.org/> .\nPREFIX r: <rel/>\n" ++
      "e:s r:p [ e:q <o> ] , \"1\"^^r:t .\n" ++ "BASE <up/>\n@prefix e: <f/> .\n<s> r:p e:o ."
    let told : Telling := ⟨[⟨"http://e.org/s", "http://b.org/x/rel/p", "_:anon0", none, none⟩,
      ⟨"_:anon0", "http://e.org/q", "http://b.org/x/o", none, none⟩,
      ⟨"http://e.org/s", "http://b.org/x/rel/p", "1", some "http://b.org/x/rel/t", none⟩,
      ⟨"http://b.org/x/up/s", "http://b.org/x/rel/p", "http://b.org/x/up/f/o", none, none⟩], 1, none⟩
    tell 0 text = told ∧
      ∃ spelled, parseStatements (fullDocument spelled) = .ok (spelled.map Sentence.asStatement) ∧
        tell 0 (fullDocument spelled) = told := by
  intro text told
  have known : tell 0 text = told := by decide +kernel
  have faultless : (tell 0 text).error = none := congrArg Telling.error known
  obtain ⟨found, spelled, _, _, _, read, same, _⟩ := tell_spelledOut faultless
  exact ⟨known, spelled, read, same.trans known⟩

/-- A tab in a string becomes as many blanks as lead to the next stop, and a name in full takes
another place in the line than the name it stands for. -/
theorem spelledOut_disagrees_on_tabs :
    let text := "@prefix e: <http://e.org/> .\ne:s e:p \"a\tb\" ."
    let spelledOut := "\n<http://e.org/s> <http://e.org/p> \"a\tb\" ."
    tell 0 text = ⟨[⟨"http://e.org/s", "http://e.org/p", "a      b", none, none⟩], 0, none⟩ ∧
      tell 0 spelledOut =
        ⟨[⟨"http://e.org/s", "http://e.org/p", "a    b", none, none⟩], 0, none⟩ ∧
      tell 0 spelledOut ≠ tell 0 text := by
  decide +kernel

end FactQuery.Turtle
