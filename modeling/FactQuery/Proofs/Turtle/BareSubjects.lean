import FactQuery.Proofs.Turtle.FullDocument
import FactQuery.Proofs.Turtle.LiteralTelling

/-!
# Statements that state nothing

A subject may be followed by a full stop at once.  Such a statement is read, wherever it stands, and
no fact is told for it, unless the subject is a bracket with properties of its own.  Every other
statement that is no directive tells a fact at least.
-/

set_option autoImplicit false

namespace FactQuery.Turtle

open Token Telling

def Statement.isDirective : Statement → Bool
  | .declare _ _ => true
  | .rebase _ => true
  | .triples _ _ => false

/-- A subject that says nothing by itself: a name, a label, or a bracket with nothing inside. -/
def Subject.isPlain : Subject → Bool
  | .iri _ => true
  | .blank _ => true
  | .anonymous own => own.isEmpty

/-- A subject with no property, neither behind it nor inside it. -/
def Statement.isBare : Statement → Bool
  | .triples subject properties => subject.isPlain && properties.isEmpty
  | _ => false

/-! ## What tells a fact -/

theorem tellProperty_facts_ne_nil {scope : Scope} {subject predicate : String} {next : Nat}
    {object : Object} (faultless : (tellProperty scope subject predicate next object).error = none) :
    (tellProperty scope subject predicate next object).facts ≠ [] := by
  cases object with
  | iri name =>
      rw [tellProperty] at faultless ⊢
      obtain ⟨value, expanded, _⟩ := exists_of_withValue faultless
      simp [expanded, withValue]
  | blank label => simp [tellProperty]
  | literal value language datatype =>
      rw [tellProperty] at faultless ⊢
      obtain ⟨found, expanded, _⟩ := exists_of_withValue faultless
      simp [expanded, withValue]
  | anonymous properties =>
      rw [tellProperty] at faultless ⊢
      rw [facts_of_andThen faultless]
      simp

/-- A subject with properties tells a fact for the first of them at least. -/
theorem tellProperties_facts_eq_nil_iff {scope : Scope} {subject : String} {next : Nat}
    {properties : List Property}
    (faultless : (tellProperties scope subject next properties).error = none) :
    (tellProperties scope subject next properties).facts = [] ↔ properties = [] := by
  cases properties with
  | nil => simp [tellProperties, nothing]
  | cons property others =>
      obtain ⟨name, object⟩ := property
      rw [tellProperties] at faultless ⊢
      obtain ⟨predicate, expanded, told⟩ := exists_of_withValue faultless
      have first := tellProperty_facts_ne_nil (error_andThen told).1
      simp only [expanded, withValue]
      rw [facts_of_andThen told]
      simp [first]

theorem tellTriples_facts_eq_nil_iff {scope : Scope} {next : Nat} {properties : List Property}
    {subject : Subject} (faultless : (tellTriples scope next properties subject).error = none) :
    (tellTriples scope next properties subject).facts = [] ↔
      subject.isPlain = true ∧ properties = [] := by
  cases subject with
  | iri name =>
      rw [tellTriples] at faultless ⊢
      obtain ⟨value, expanded, told⟩ := exists_of_withValue faultless
      simp only [expanded, withValue, tellProperties_facts_eq_nil_iff told, Subject.isPlain, true_and]
  | blank label =>
      rw [tellTriples] at faultless ⊢
      simp only [tellProperties_facts_eq_nil_iff faultless, Subject.isPlain, true_and]
  | anonymous own =>
      rw [tellTriples] at faultless ⊢
      obtain ⟨inside, behind⟩ := error_andThen faultless
      rw [facts_of_andThen faultless, List.append_eq_nil_iff,
        tellProperties_facts_eq_nil_iff inside, tellProperties_facts_eq_nil_iff behind,
        Subject.isPlain, List.isEmpty_iff]

/-! ## One statement of a document -/

/-- One statement alone tells nothing exactly if it is a directive or bare. -/
theorem tellStatement_facts_eq_nil_iff {scope : Scope} {next : Nat} {statement : Statement}
    (faultless : (tellStatements scope next [statement]).error = none) :
    (tellStatements scope next [statement]).facts = [] ↔
      statement.isDirective = true ∨ statement.isBare = true := by
  cases statement with
  | declare label reference =>
      obtain ⟨iri, resolved, _⟩ := exists_of_withValue faultless
      simp [tellStatements, resolved, withValue, nothing, Statement.isDirective]
  | rebase reference =>
      obtain ⟨iri, resolved, _⟩ := exists_of_withValue faultless
      simp [tellStatements, resolved, withValue, nothing, Statement.isDirective]
  | triples subject properties =>
      have told : tellStatements scope next [.triples subject properties] =
          tellTriples scope next properties subject := andThen_nothing _
      rw [told] at faultless ⊢
      rw [tellTriples_facts_eq_nil_iff faultless]
      simp [Statement.isDirective, Statement.isBare]

/-! ## Documents with bare subjects -/

mutual

theorem Object.tell_of_isFull (subject predicate : String) (next : Nat) :
    ∀ object : Object, object.IsFull →
      (tellProperty .initial subject predicate next object).error = none
  | .iri name, isFull => by
      rw [Object.IsFull] at isFull
      obtain ⟨value, rfl, _⟩ := exists_of_isFullName isFull
      rfl
  | .blank label, _ => rfl
  | .literal value language none, _ => rfl
  | .literal value language (some name), isFull => by
      rw [Object.IsFull] at isFull
      obtain ⟨iri, rfl, _⟩ := exists_of_isFullName (isFull.2.1 name rfl)
      rfl
  | .anonymous properties, isFull => by
      rw [Object.IsFull] at isFull
      rw [tellProperty]
      exact tell_of_areFull (anonymousId next) (next + 1) properties isFull

theorem tell_of_areFull (subject : String) (next : Nat) :
    ∀ properties : List Property, AreFull properties →
      (tellProperties .initial subject next properties).error = none
  | [], _ => rfl
  | (name, object) :: others, areFull => by
      obtain ⟨isName, isObject, areOthers⟩ := areFull
      obtain ⟨predicate, rfl, _⟩ := exists_of_isFullName isName
      have first := Object.tell_of_isFull subject predicate next object isObject
      rw [tellProperties, expand_initial, withValue, andThen, first]
      exact tell_of_areFull subject _ others areOthers

end

theorem Sentence.tell_of_isFull {sentence : Sentence} (isFull : sentence.IsFull) (next : Nat) :
    (tellTriples .initial next sentence.properties sentence.subject).error = none := by
  obtain ⟨subject, properties⟩ := sentence
  obtain ⟨isSubject, areStated⟩ := isFull
  cases subject with
  | iri name =>
      obtain ⟨value, rfl, _⟩ := exists_of_isFullName isSubject
      exact tell_of_areFull value next properties areStated
  | blank label => exact tell_of_areFull (blankId label) next properties areStated
  | anonymous own =>
      have first := tell_of_areFull (anonymousId next) (next + 1) own isSubject
      rw [tellTriples, andThen, first]
      exact tell_of_areFull (anonymousId next) _ properties areStated

theorem tellStatements_of_areFull {spelled : List Sentence}
    (areFull : ∀ sentence ∈ spelled, sentence.IsFull) :
    ∀ next, (tellStatements .initial next (spelled.map Sentence.asStatement)).error = none := by
  induction spelled with
  | nil => exact fun _ => rfl
  | cons sentence others inductionHypothesis =>
      intro next
      obtain ⟨isFull, areOthers⟩ := List.forall_mem_cons.1 areFull
      have first := sentence.tell_of_isFull isFull next
      rw [List.map_cons, Sentence.asStatement, tellStatements, andThen, first]
      exact inductionHypothesis areOthers _

/-! ## Statements and facts -/

/-- In a document that is told without a fault every statement adds its own facts to those before
it, and it adds none exactly if it is a directive or bare.  A subject with a full stop behind it is
read and told without a fault wherever it stands. -/
theorem tells_fact_unless_bare (next : Nat) :
    (∀ text, (tell next text).error = none → ∃ found, parseStatements text = .ok found ∧
      ∀ before statement after, found = before ++ statement :: after →
        ∃ own,
          (tellStatements .initial next (before ++ [statement])).facts =
            (tellStatements .initial next before).facts ++ own ∧
          (tellStatements .initial next (before ++ [statement])).facts <+: (tell next text).facts ∧
          (own = [] ↔ statement.isDirective = true ∨ statement.isBare = true)) ∧
    ∀ (before after : List Sentence) (subject : Subject),
      (∀ sentence ∈ before ++ after, sentence.IsFull) → subject.IsFull →
      let text := fullDocument (before ++ ⟨subject, []⟩ :: after)
      parseStatements text = .ok (before.map Sentence.asStatement ++
          .triples subject [] :: after.map Sentence.asStatement) ∧
        (tell next text).error = none := by
  constructor
  · intro text faultless
    obtain ⟨found, parsed, fine⟩ := exists_of_withValue faultless
    refine ⟨found, parsed, fun before statement after split => ?_⟩
    rw [tell, parsed]
    rw [split] at fine ⊢
    rw [List.append_cons] at fine
    obtain ⟨scope, here, _, rfl, faultlessHere, added, within⟩ :=
      exists_told_here after (error_tellStatements_append fine)
    exact ⟨_, added, within, tellStatement_facts_eq_nil_iff faultlessHere⟩
  · intro before after subject areFull isFull text
    have areAll : ∀ sentence ∈ before ++ ⟨subject, []⟩ :: after, Sentence.IsFull sentence := by
      intro sentence inside
      rw [List.mem_append, List.mem_cons] at inside
      rcases inside with earlier | rfl | later
      · exact areFull sentence (List.mem_append_left after earlier)
      · exact ⟨isFull, trivial⟩
      · exact areFull sentence (List.mem_append_right before later)
    have parsed := parseStatements_fullDocument areAll
    have fine := tellStatements_of_areFull areAll next
    refine ⟨?_, ?_⟩
    · rw [parsed, List.map_append, List.map_cons, Sentence.asStatement]
    · rw [tell, parsed]
      exact fine

/-- The second statement here is a bare subject too: the label in front of it is declared. -/
theorem tells_fact_unless_bare_declared :
    let text := "prefix: <p> <o> .\n[] .\n<s> <q> [] ."
    (tell 0 text).error = none ∧
      (∃ found, parseStatements text = .ok found ∧
        found.map Statement.isBare = [false, true, true, false] ∧
        ∀ before statement after, found = before ++ statement :: after →
          ∃ own,
            (tellStatements .initial 0 (before ++ [statement])).facts =
              (tellStatements .initial 0 before).facts ++ own ∧
            (own = [] ↔ statement.isDirective = true ∨ statement.isBare = true)) ∧
      (tell 0 (fullDocument
        ([] ++ ⟨.blank "b", []⟩ :: [⟨.anonymous [], [(.full "p", .blank "c")]⟩]))).error = none := by
  intro text
  have faultless : (tell 0 text).error = none := by decide +kernel
  have bare : (parseStatements text).toOption.map (·.map Statement.isBare) =
      some [false, true, true, false] := by decide +kernel
  obtain ⟨documents, subjects⟩ := tells_fact_unless_bare 0
  obtain ⟨found, parsed, each⟩ := documents text faultless
  rw [parsed] at bare
  have isNodeLabel : ∀ label ∈ ["b", "c"], IsNodeLabel label := by
    intro label inside
    rcases List.mem_pair.1 inside with rfl | rfl
    · exact ⟨by decide, by decide⟩
    · exact ⟨by decide, by decide⟩
  have isFull : Sentence.IsFull ⟨.anonymous [], [(.full "p", .blank "c")]⟩ :=
    ⟨trivial, (by decide : IsIriText "p"), isNodeLabel "c" (by decide), trivial⟩
  refine ⟨faultless, ⟨found, parsed, Option.some.inj bare, fun before statement after split => ?_⟩,
    (subjects [] _ (.blank "b") (by simpa using isFull) (isNodeLabel "b" (by decide))).2⟩
  obtain ⟨own, added, _, empty⟩ := each before statement after split
  exact ⟨own, added, empty⟩

/-- A subject and a full stop are read as a statement that is no directive, and it tells nothing. -/
theorem bare_subject_is_read :
    (parseStatements "<s> .").toOption.map (·.map Statement.isDirective) = some [false] ∧
      tell 0 "<s> ." = ⟨[], 0, none⟩ := by
  decide +kernel

end FactQuery.Turtle
