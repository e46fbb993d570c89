import FactQuery.Proofs.Iri.Resolution
import FactQuery.Proofs.OrderedMap
import FactQuery.Proofs.Turtle.Telling
import FactQuery.Proofs.Turtle.WellFormed

/-!
# Names without directives

What a name stands for is told by the directives before its statement: the base in force is the last
one set, resolved against the base before it, and a label stands for what it was last declared for,
resolved against the base in force at the declaration.  With every name spelled out in full and the
directives left out, statements that are told without a fault tell the same.
-/

set_option autoImplicit false

namespace FactQuery.Turtle

open FactQuery.Token FactQuery.Sparql

/-! ## What names stand for

The statements before a place are given from the last to the first.
-/

/-- The base in force, if each base can be resolved against the one before it. -/
def baseBehind : List Statement → Option (Option String)
  | [] => some none
  | .rebase reference :: earlier => do
    let base ← baseBehind earlier
    let iri ← (Iri.resolveWith base reference).toOption
    return some iri
  | .declare _ _ :: earlier => baseBehind earlier
  | .triples _ _ :: earlier => baseBehind earlier

def resolveBehind (earlier : List Statement) (reference : String) : Option String := do
  let base ← baseBehind earlier
  (Iri.resolveWith base reference).toOption

def declared? (label : String) : List Statement → Option String
  | [] => none
  | .declare other reference :: earlier =>
    if other = label then resolveBehind earlier reference else declared? label earlier
  | .rebase _ :: earlier => declared? label earlier
  | .triples _ _ :: earlier => declared? label earlier

def fullName? (earlier : List Statement) : Iri → Option String
  | .full reference => resolveBehind earlier reference
  | .prefixed label localPart => (declared? label earlier).map (· ++ localPart)

/-! ## Spelling names out -/

def spellOutDatatype (full : Iri → Option String) : Option Iri → Option (Option Iri)
  | none => some none
  | some name => do
    let value ← full name
    return some (.full value)

mutual

def Object.spellOut (full : Iri → Option String) : Object → Option Object
  | .iri name => do
    let value ← full name
    return .iri (.full value)
  | .blank label => some (.blank label)
  | .literal value language datatype => do
    let datatype ← spellOutDatatype full datatype
    return .literal value language datatype
  | .anonymous properties => do
    let own ← spellOutAll full properties
    return .anonymous own

def spellOutAll (full : Iri → Option String) : List Property → Option (List Property)
  | [] => some []
  | (name, object) :: others => do
    let predicate ← full name
    let object ← object.spellOut full
    let others ← spellOutAll full others
    return (.full predicate, object) :: others

end

def Subject.spellOut (full : Iri → Option String) : Subject → Option Subject
  | .iri name => do
    let value ← full name
    return .iri (.full value)
  | .blank label => some (.blank label)
  | .anonymous properties => do
    let own ← spellOutAll full properties
    return .anonymous own

structure Sentence where
  subject : Subject
  properties : List Property

def Sentence.asStatement (sentence : Sentence) : Statement :=
  .triples sentence.subject sentence.properties

/-- What statements say, without their directives and with every name in full. -/
def spellOutStatements (earlier : List Statement) : List Statement → Option (List Sentence)
  | [] => some []
  | .triples subject properties :: others => do
    let about ← subject.spellOut (fullName? earlier)
    let stated ← spellOutAll (fullName? earlier) properties
    let others ← spellOutStatements (.triples subject properties :: earlier) others
    return ⟨about, stated⟩ :: others
  | .declare label reference :: others =>
    spellOutStatements (.declare label reference :: earlier) others
  | .rebase reference :: others => spellOutStatements (.rebase reference :: earlier) others

/-! ## Scopes and directives -/

/-- The scope holds what the directives before a place say. -/
structure Scope.Follows (scope : Scope) (earlier : List Statement) : Prop where
  base : baseBehind earlier = some scope.base
  label : ∀ label, declared? label earlier = scope.prefixes.find? label

namespace Scope.Follows

variable {scope : Scope} {earlier : List Statement}

theorem initial : Scope.initial.Follows [] :=
  ⟨rfl, fun _ => rfl⟩

theorem resolve_eq (follows : scope.Follows earlier) (reference : String) :
    resolveBehind earlier reference = (scope.resolve reference).toOption := by
  rw [resolveBehind, follows.base, Scope.resolve]
  cases run : Iri.resolveWith scope.base reference with
  | ok value => simp [run, Except.toOption]
  | error fault => simp [run, Except.toOption]

theorem expand_eq (follows : scope.Follows earlier) (name : Iri) :
    fullName? earlier name = (scope.expand name).toOption := by
  cases name with
  | full reference => exact follows.resolve_eq reference
  | «prefixed» label localPart =>
      rw [fullName?, follows.label, Scope.expand]
      cases scope.prefixes.find? label <;> rfl

theorem declare (follows : scope.Follows earlier) {label reference iri : String}
    (resolved : scope.resolve reference = .ok iri) :
    ({ scope with prefixes := scope.prefixes.insert label iri } : Scope).Follows
      (.declare label reference :: earlier) := by
  refine ⟨follows.base, fun other => ?_⟩
  rw [declared?, OrderedMap.find?_insert]
  by_cases same : label = other
  · rw [if_pos same, follows.resolve_eq, resolved, if_pos same.symm]
    rfl
  · rw [if_neg same, if_neg fun equal => same equal.symm]
    exact follows.label other

theorem rebase (follows : scope.Follows earlier) {reference iri : String}
    (resolved : scope.resolve reference = .ok iri) :
    ({ scope with base := some iri } : Scope).Follows (.rebase reference :: earlier) := by
  refine ⟨?_, follows.label⟩
  have run := follows.resolve_eq reference
  rw [resolveBehind, follows.base, resolved] at run
  rw [baseBehind, follows.base]
  simp only [Option.bind_eq_bind, Option.bind_some] at run ⊢
  rw [run]
  rfl

theorem triples (follows : scope.Follows earlier) (subject : Subject)
    (properties : List Property) : scope.Follows (.triples subject properties :: earlier) :=
  ⟨follows.base, follows.label⟩

end Scope.Follows

/-! ## Telling what has been spelled out -/

theorem expand_initial (value : String) : Scope.initial.expand (.full value) = .ok value := rfl

section Telling

variable {scope : Scope} {full : Iri → Option String}

theorem full_of_expand (same : ∀ name, full name = (scope.expand name).toOption) {name : Iri}
    {value : String} (expanded : scope.expand name = .ok value) : full name = some value := by
  rw [same, expanded]
  rfl

theorem spellOutDatatype_of_expand (same : ∀ name, full name = (scope.expand name).toOption)
    {datatype : Option Iri} {found : Option String}
    (expanded : scope.expandDatatype datatype = .ok found) :
    spellOutDatatype full datatype = some (found.map .full) := by
  cases datatype with
  | none =>
      cases expanded
      rfl
  | some name =>
      rw [Scope.expandDatatype] at expanded
      cases known : scope.expand name with
      | error fault => simp [known, Except.map] at expanded
      | ok text =>
          rw [known] at expanded
          cases expanded
          rw [spellOutDatatype, full_of_expand same known]
          rfl

mutual

theorem tellProperty_spellOut (same : ∀ name, full name = (scope.expand name).toOption)
    (subject predicate : String) (next : Nat) :
    ∀ object : Object, (tellProperty scope subject predicate next object).error = none →
      ∃ spelled, object.spellOut full = some spelled ∧
        tellProperty .initial subject predicate next spelled =
          tellProperty scope subject predicate next object
  | .iri name, faultless => by
      rw [tellProperty] at faultless
      obtain ⟨value, expanded, _⟩ := Telling.exists_of_withValue faultless
      refine ⟨.iri (.full value), ?_, ?_⟩
      · rw [Object.spellOut, full_of_expand same expanded]
        rfl
      · rw [tellProperty, tellProperty, expanded, expand_initial]
  | .blank label, _ => ⟨.blank label, rfl, rfl⟩
  | .literal value language datatype, faultless => by
      rw [tellProperty] at faultless
      obtain ⟨found, expanded, _⟩ := Telling.exists_of_withValue faultless
      refine ⟨.literal value language (found.map .full), ?_, ?_⟩
      · rw [Object.spellOut, spellOutDatatype_of_expand same expanded]
        rfl
      · rw [tellProperty, tellProperty, expanded]
        cases found <;> rfl
  | .anonymous properties, faultless => by
      rw [tellProperty] at faultless
      have inside := (Telling.error_andThen faultless).2
      obtain ⟨own, spelled, told⟩ := tellProperties_spellOut same (anonymousId next) (next + 1)
        properties inside
      refine ⟨.anonymous own, ?_, ?_⟩
      · rw [Object.spellOut, spelled]
        rfl
      · rw [tellProperty, tellProperty]
        exact Telling.andThen_congr told

theorem tellProperties_spellOut (same : ∀ name, full name = (scope.expand name).toOption)
    (subject : String) (next : Nat) :
    ∀ properties : List Property, (tellProperties scope subject next properties).error = none →
      ∃ spelled, spellOutAll full properties = some spelled ∧
        tellProperties .initial subject next spelled = tellProperties scope subject next properties
  | [], _ => ⟨[], rfl, rfl⟩
  | (name, object) :: others, faultless => by
      rw [tellProperties] at faultless
      obtain ⟨predicate, expanded, behind⟩ := Telling.exists_of_withValue faultless
      obtain ⟨first, later⟩ := Telling.error_andThen behind
      obtain ⟨spelled, here, told⟩ :=
        tellProperty_spellOut same subject predicate next object first
      obtain ⟨more, onward, toldLater⟩ := tellProperties_spellOut same subject _ others later
      refine ⟨(.full predicate, spelled) :: more, ?_, ?_⟩
      · rw [spellOutAll, full_of_expand same expanded, here, onward]
        rfl
      · rw [tellProperties, tellProperties, expanded, expand_initial, Telling.withValue,
          Telling.withValue, told]
        exact Telling.andThen_congr toldLater

end

theorem tellTriples_spellOut (same : ∀ name, full name = (scope.expand name).toOption)
    (next : Nat) (properties : List Property) (subject : Subject)
    (faultless : (tellTriples scope next properties subject).error = none) :
    ∃ about stated, subject.spellOut full = some about ∧
      spellOutAll full properties = some stated ∧
      tellTriples .initial next stated about = tellTriples scope next properties subject := by
  cases subject with
  | iri name =>
      obtain ⟨value, expanded, inside⟩ := Telling.exists_of_withValue faultless
      obtain ⟨stated, spelled, told⟩ := tellProperties_spellOut same value next properties inside
      refine ⟨.iri (.full value), stated, ?_, spelled, ?_⟩
      · rw [Subject.spellOut, full_of_expand same expanded]
        rfl
      · rw [tellTriples, tellTriples, expanded, expand_initial]
        exact told
  | blank label =>
      obtain ⟨stated, spelled, told⟩ :=
        tellProperties_spellOut same (blankId label) next properties faultless
      exact ⟨.blank label, stated, rfl, spelled, told⟩
  | anonymous own =>
      rw [tellTriples] at faultless
      obtain ⟨first, later⟩ := Telling.error_andThen faultless
      obtain ⟨inner, spelledOwn, toldOwn⟩ :=
        tellProperties_spellOut same (anonymousId next) (next + 1) own first
      obtain ⟨stated, spelled, told⟩ := tellProperties_spellOut same (anonymousId next) _
        properties later
      refine ⟨.anonymous inner, stated, ?_, spelled, ?_⟩
      · rw [Subject.spellOut, spelledOwn]
        rfl
      · rw [tellTriples, tellTriples, toldOwn]
        exact Telling.andThen_congr told

end Telling

/-- The induction is on the statements that are left; the scope follows those that have passed. -/
theorem tellStatements_spellOut (found : List Statement) :
    ∀ {scope : Scope} {earlier : List Statement}, scope.Follows earlier → ∀ next,
      (tellStatements scope next found).error = none →
      ∃ spelled, spellOutStatements earlier found = some spelled ∧
        tellStatements .initial next (spelled.map Sentence.asStatement) =
          tellStatements scope next found := by
  induction found with
  | nil => exact fun _ _ _ => ⟨[], rfl, rfl⟩
  | cons statement others inductionHypothesis =>
      intro scope earlier follows next faultless
      cases statement with
      | declare label reference =>
          obtain ⟨iri, resolved, later⟩ := Telling.exists_of_withValue faultless
          obtain ⟨spelled, run, told⟩ :=
            inductionHypothesis (follows.declare resolved) next later
          refine ⟨spelled, run, ?_⟩
          rw [tellStatements, resolved]
          exact told
      | rebase reference =>
          obtain ⟨iri, resolved, later⟩ := Telling.exists_of_withValue faultless
          obtain ⟨spelled, run, told⟩ := inductionHypothesis (follows.rebase resolved) next later
          refine ⟨spelled, run, ?_⟩
          rw [tellStatements, resolved]
          exact told
      | triples subject properties =>
          rw [tellStatements] at faultless
          obtain ⟨first, later⟩ := Telling.error_andThen faultless
          obtain ⟨about, stated, aboutSpelled, statedSpelled, toldFirst⟩ :=
            tellTriples_spellOut follows.expand_eq next properties subject first
          obtain ⟨spelled, run, told⟩ :=
            inductionHypothesis (follows.triples subject properties) _ later
          refine ⟨⟨about, stated⟩ :: spelled, ?_, ?_⟩
          · rw [spellOutStatements, aboutSpelled, statedSpelled, run]
            rfl
          · rw [List.map_cons, Sentence.asStatement, tellStatements, tellStatements, toldFirst]
            exact Telling.andThen_congr told

end FactQuery.Turtle
