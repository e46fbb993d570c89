import FactQuery.Proofs.Abbreviation.Document
import FactQuery.Proofs.Abbreviation.Query
import FactQuery.Proofs.TripleText.Document
import FactQuery.Proofs.Turtle.RoundTrip

/-!
# Written terms are phrases

Whatever form a verb, an object or a subject is written in, its text is a phrase for what it stands
for: names in full and with a label, labels of nodes, strings in every style, numbers and truth
values in both languages, and variables in queries.
-/

set_option autoImplicit false

namespace FactQuery.Abbreviation

open FactQuery.Text FactQuery.Grammar FactQuery.Token FactQuery.Sparql FactQuery.TripleText

variable {prefixes : PrefixTable}

/-! ## What stands behind another phrase -/

theorem endsTerm_name {name : Iri} (isName : IsResourceName name) (rest : List Char) :
    EndsTerm (' ' :: (name.text.toList ++ rest)) :=
  @endsTerm_term (.iri name) isName rfl rest

theorem endsTerm_verb {verb : VerbText} (valid : verb.IsValid prefixes) (rest : List Char) :
    EndsTerm (' ' :: (verb.write ++ rest)) := by
  cases verb with
  | resource name => exact endsTerm_name valid.1 rest
  | a => exact EndsTerm.space rfl rfl

theorem endsTerm_object {object : ObjectText} (valid : object.IsValid prefixes)
    (rest : List Char) : EndsTerm (' ' :: (object.write ++ rest)) := by
  refine EndsTerm.space (stops_object valid (fun _ => isLayoutStart_of_isObjectFront) rest)
    (stops_object valid (fun c front => ?_) rest)
  rw [isSuffixFront, Bool.or_eq_false_iff, beq_eq_false_iff_ne, beq_eq_false_iff_ne]
  exact ⟨ne_of_isObjectFront front (by decide), ne_of_isObjectFront front (by decide)⟩

/-! ## Tabs -/

theorem tab_not_mem_verb {verb : VerbText} (valid : verb.IsValid prefixes) :
    '\t' ∉ verb.write := by
  cases verb with
  | resource name => exact tab_not_mem_resource valid.1
  | a => decide

theorem tab_not_mem_object {object : ObjectText} (valid : object.IsValid prefixes) :
    '\t' ∉ object.write := by
  cases object with
  | resource name => exact tab_not_mem_resource valid.1
  | quoted string suffix =>
      rw [ObjectText.write, List.mem_append, not_or]
      exact ⟨WrittenString.tab_not_mem_write valid.1, tab_not_mem_suffixText valid⟩
  | number numeral => exact tab_not_mem_number valid
  | truth value => cases value <;> decide

/-! ## Phrases of a document -/

def verbPhrase (verb : VerbText) : Phrase Iri :=
  ⟨verb.write, verb.asName⟩

theorem isReadBy_verbPhrase {verb : VerbText} (valid : verb.IsValid prefixes) :
    (verbPhrase verb).IsReadBy Turtle.predicate :=
  ⟨tab_not_mem_verb valid, fun rest _ => predicate_reads valid rest, endsTerm_verb valid⟩

def objectPhrase (object : ObjectText) : Phrase Turtle.Object :=
  ⟨object.write, object.asObject⟩

theorem isObject_objectPhrase {object : ObjectText} (valid : object.IsValid prefixes) :
    IsObject (objectPhrase object) :=
  fun _ _ => ⟨tab_not_mem_object valid, fun _ ends => object_reads_ending _ valid ends,
    endsTerm_object valid⟩

def labelText (label : Turtle.Canonical.Label) : List Char :=
  '_' :: ':' :: label.val.toList

theorem tab_not_mem_labelText (label : Turtle.Canonical.Label) : '\t' ∉ labelText label :=
  (Turtle.Canonical.Resource.blank label).tab_not_mem_write

def labelPhrase (label : Turtle.Canonical.Label) : Phrase Turtle.Object :=
  ⟨labelText label, .blank label.val⟩

theorem isObject_labelPhrase (label : Turtle.Canonical.Label) : IsObject (labelPhrase label) := by
  intro levels _
  refine ⟨tab_not_mem_labelText label, fun rest _ => ?_, fun rest => EndsTerm.space rfl rfl⟩
  have stops : Stops isLocalChar (' ' :: rest) := rfl
  have read := Turtle.Canonical.blankLabel_reads IsGap.space label stops
  have noName := Turtle.Canonical.iri_misses_blank IsGap.space label (' ' :: rest)
  exact (Reads.firstOf_here read.bind_pure).firstOf_later noName.map

def namedSubject (name : Iri) : Phrase Turtle.Subject :=
  ⟨name.text.toList, .iri name⟩

theorem isSubject_namedSubject {name : Iri} (isName : IsResourceName name)
    (notDirective : ¬IsDirectiveName name) : IsSubject (namedSubject name) := by
  refine ⟨⟨tab_not_mem_resource isName, fun rest _ => ?_, endsTerm_name isName⟩, ?_,
    fun rest => directives_miss_name IsGap.space isName notDirective rest⟩
  · have stops : Stops isLocalChar (' ' :: rest) := rfl
    exact Reads.firstOf_here (iri_reads IsGap.space isName stops).bind_pure
  · rintro own ⟨⟩

def labelledSubject (label : Turtle.Canonical.Label) : Phrase Turtle.Subject :=
  ⟨labelText label, .blank label.val⟩

theorem isSubject_labelledSubject (label : Turtle.Canonical.Label) :
    IsSubject (labelledSubject label) := by
  refine ⟨⟨tab_not_mem_labelText label, fun rest _ => ?_, fun rest => EndsTerm.space rfl rfl⟩, ?_,
    fun rest => ?_⟩
  · have stops : Stops isLocalChar (' ' :: rest) := rfl
    exact Turtle.Canonical.subject_reads IsGap.space (.blank label) stops
  · rintro own ⟨⟩
  · exact @Turtle.directives_miss [' '] (labelText label ++ ' ' :: rest) IsGap.space rfl rfl
      (Nat.succ_lt_succ (Nat.zero_lt_succ 2))

def directivePhrase (directive : Directive) : Phrase Turtle.Statement :=
  ⟨directive.write, directive.asStatement⟩

theorem isGood_directive {directive : Directive} (good : IsDeclaration directive.pair) :
    (Item.other (directivePhrase directive)).IsGood :=
  ⟨tab_not_mem_directive good, fun rest _ => directive_readsFrom IsGap.space rfl good rest⟩

/-! ## Phrases of a query -/

def verbTerm (verb : VerbText) : Phrase Term :=
  ⟨verb.write, .iri verb.asName⟩

theorem isReadBy_verbTerm {verb : VerbText} (valid : verb.IsValid prefixes) :
    (verbTerm verb).IsReadBy Sparql.verb :=
  ⟨tab_not_mem_verb valid, fun rest _ => verb_reads_text valid rest, endsTerm_verb valid⟩

def objectTerm (object : ObjectText) : Phrase Term :=
  ⟨object.write, object.asTerm⟩

theorem isReadBy_objectTerm {object : ObjectText} (valid : object.IsValid prefixes) :
    (objectTerm object).IsReadBy graphTerm :=
  ⟨tab_not_mem_object valid, fun _ ends => graphTerm_reads_ending valid ends,
    endsTerm_object valid⟩

/-- A term in its own form: a variable, a name, the label of a node or a plain string. -/
def termPhrase (term : Term) : Phrase Term :=
  ⟨term.text.toList, term⟩

variable {term : Term}

theorem isReadBy_termPhrase (wellFormed : term.IsWellFormed) (plain : term.isPlain = true) :
    (termPhrase term).IsReadBy graphTerm := by
  refine ⟨tab_not_mem_term wellFormed plain, fun rest ends => ?_, endsTerm_term wellFormed plain⟩
  have read := graphTerm_reads IsGap.space wellFormed plain ends
  exact read

theorem isPatternSubject_termPhrase (wellFormed : term.IsWellFormed)
    (plain : term.isPlain = true) : IsPatternSubject (termPhrase term) := by
  refine ⟨isReadBy_termPhrase wellFormed plain, fun levels rest => ?_⟩
  have missed := clauses_miss_term levels IsGap.space wellFormed plain (' ' :: rest)
  exact missed

theorem isReadBy_verb_termPhrase (isVerb : term.IsVerb) (plain : term.isPlain = true) :
    (termPhrase term).IsReadBy Sparql.verb := by
  refine ⟨tab_not_mem_term isVerb.1 plain, fun rest ends => ?_, endsTerm_term isVerb.1 plain⟩
  have read := verb_reads IsGap.space isVerb ends
  exact read

end FactQuery.Abbreviation
