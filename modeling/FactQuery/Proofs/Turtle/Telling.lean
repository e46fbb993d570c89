import FactQuery.Turtle.Document

/-!
# Tellings in parts

A telling that goes on from another can be cut and put together again, and one without a fault has
no part with a fault.  Several properties of a subject can be told in as many statements.
-/

set_option autoImplicit false

namespace FactQuery.Turtle

/-! ## Parts of a telling -/

namespace Telling

theorem andThen_assoc (told : Telling) (more further : Nat → Telling) :
    (told.andThen more).andThen further = told.andThen fun next => (more next).andThen further := by
  obtain ⟨facts, next, error⟩ := told
  cases error with
  | some fault => rfl
  | none =>
      simp only [andThen]
      cases fault : (more next).error with
      | some fault => simp only [fault]
      | none => simp only [List.append_assoc]

theorem withValue_andThen {α : Type} (next : Nat) (value : Except Error α) (more : α → Telling)
    (further : Nat → Telling) :
    (withValue next value more).andThen further =
      withValue next value fun found => (more found).andThen further := by
  cases value <;> rfl

theorem nothing_andThen (next : Nat) (more : Nat → Telling) :
    (nothing next).andThen more = more next := by
  simp [nothing, andThen]

theorem andThen_nothing (told : Telling) : told.andThen nothing = told := by
  obtain ⟨facts, next, error⟩ := told
  cases error <;> simp [andThen, nothing]

theorem error_andThen {told : Telling} {more : Nat → Telling}
    (faultless : (told.andThen more).error = none) :
    told.error = none ∧ (more told.next).error = none := by
  obtain ⟨facts, next, error⟩ := told
  cases error with
  | some fault => simp [andThen] at faultless
  | none => exact ⟨rfl, faultless⟩

theorem facts_of_andThen {told : Telling} {more : Nat → Telling}
    (faultless : (told.andThen more).error = none) :
    (told.andThen more).facts = told.facts ++ (more told.next).facts := by
  have none := (error_andThen faultless).1
  simp only [andThen, none]

theorem facts_prefix_andThen (told : Telling) (more : Nat → Telling) :
    told.facts <+: (told.andThen more).facts := by
  obtain ⟨facts, next, error⟩ := told
  cases error with
  | some fault => exact List.prefix_rfl
  | none => exact List.prefix_append _ _

theorem andThen_congr {told : Telling} {more again : Nat → Telling}
    (same : more told.next = again told.next) : told.andThen more = told.andThen again := by
  obtain ⟨facts, next, error⟩ := told
  cases error with
  | some fault => rfl
  | none => simp only [andThen, same]

theorem exists_of_withValue {α : Type} {next : Nat} {value : Except Error α}
    {more : α → Telling} (faultless : (withValue next value more).error = none) :
    ∃ found, value = .ok found ∧ (more found).error = none := by
  cases value with
  | ok found => exact ⟨found, rfl, faultless⟩
  | error fault => simp [withValue] at faultless

end Telling

open Telling

/-! ## One property at a time -/

theorem tellProperties_cons (scope : Scope) (subject : String) (next : Nat) (property : Property)
    (others : List Property) :
    tellProperties scope subject next (property :: others) =
      (tellProperties scope subject next [property]).andThen fun next =>
        tellProperties scope subject next others := by
  obtain ⟨name, object⟩ := property
  simp only [tellProperties, withValue_andThen, andThen_assoc, nothing_andThen]

theorem tellProperties_append (scope : Scope) (subject : String) (others : List Property)
    (properties : List Property) : ∀ next,
    tellProperties scope subject next (properties ++ others) =
      (tellProperties scope subject next properties).andThen fun next =>
        tellProperties scope subject next others := by
  induction properties with
  | nil =>
      intro next
      rw [List.nil_append, tellProperties, nothing_andThen]
  | cons property properties inductionHypothesis =>
      intro next
      rw [List.cons_append, tellProperties_cons, tellProperties_cons scope subject next property
        properties, andThen_assoc]
      congr 1
      funext next
      exact inductionHypothesis next

/-- Once the subject has its identifier, the induction is on the properties. -/
theorem tellStatements_each (scope : Scope) {subject : Subject} {about : String}
    (identified : ∀ next stated,
      tellTriples scope next stated subject = tellProperties scope about next stated)
    (others : List Statement) (properties : List Property) :
    ∀ next, tellStatements scope next
        ((properties.map fun property => .triples subject [property]) ++ others) =
      (tellProperties scope about next properties).andThen fun next =>
        tellStatements scope next others := by
  induction properties with
  | nil =>
      intro next
      rw [tellProperties, nothing_andThen]
      rfl
  | cons property properties inductionHypothesis =>
      intro next
      rw [List.map_cons, List.cons_append, tellStatements, identified,
        tellProperties_cons scope about next property properties, andThen_assoc]
      congr 1
      funext next
      exact inductionHypothesis next

/-- Statements of one property each tell what one statement of all the properties tells. -/
theorem tellStatements_singles (scope : Scope) {subject : Subject}
    (notBracket : ∀ own, subject ≠ .anonymous own) {properties : List Property}
    (nonempty : properties ≠ []) (others : List Statement) (next : Nat) :
    tellStatements scope next
        ((properties.map fun property => .triples subject [property]) ++ others) =
      tellStatements scope next (.triples subject properties :: others) := by
  have known : ∀ about, (∀ next stated,
      tellTriples scope next stated subject = tellProperties scope about next stated) →
      tellStatements scope next
          ((properties.map fun property => .triples subject [property]) ++ others) =
        tellStatements scope next (.triples subject properties :: others) := by
    intro about identified
    rw [tellStatements_each scope identified, tellStatements, identified]
  cases subject with
  | blank label => exact known (blankId label) fun _ _ => rfl
  | anonymous own => exact absurd rfl (notBracket own)
  | iri name =>
      cases expanded : scope.expand name with
      | ok about =>
          refine known about fun next stated => ?_
          rw [tellTriples, expanded]
          rfl
      | error fault =>
          obtain ⟨property, properties, rfl⟩ := List.exists_cons_of_ne_nil nonempty
          simp only [List.map_cons, List.cons_append, tellStatements, tellTriples, expanded,
            withValue, andThen]

theorem tellStatements_congr {others again : List Statement}
    (same : ∀ scope next, tellStatements scope next others = tellStatements scope next again)
    (statement : Statement) (scope : Scope) (next : Nat) :
    tellStatements scope next (statement :: others) =
      tellStatements scope next (statement :: again) := by
  cases statement with
  | declare label reference => simp only [tellStatements, same]
  | rebase reference => simp only [tellStatements, same]
  | triples subject properties => simp only [tellStatements, same]

end FactQuery.Turtle
