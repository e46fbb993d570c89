import FactQuery.Proofs.Turtle.LiteralTelling
import Mathlib.Data.List.TakeWhile

/-!
# What becomes of references

A reference without a scheme is resolved against the base in force, wherever a document may have
one: as a term, as a datatype, in the declaration of a label and as the next base.  A colon in front
of the first slash passes for the end of a scheme, and so a reference with such a colon in its query
or its fragment is kept as it is written.
-/

set_option autoImplicit false

namespace FactQuery

open FactQuery.Text

namespace Iri

/-- A colon stands in front of the first slash, question mark and number sign. -/
def hasScheme (reference : String) : Bool :=
  (reference.toList.takeWhile fun c => !(c == '/' || c == '?' || c == '#')).contains ':'

/-- A colon stands in the query or the fragment, and no slash in front of it. -/
def hidesColon (reference : String) : Bool :=
  ((reference.toList.takeWhile (· != '/')).dropWhile fun c => !(c == '?' || c == '#')).contains ':'

/-- What a reference is kept as: itself if it has a scheme or passes for one that has, and else what
resolution against the base leads to. -/
def joined (base : Option String) (reference : String) : Except AuthorityError String :=
  match base with
  | none => .ok reference
  | some base =>
    if hasScheme reference || hidesColon reference then .ok reference else resolve base reference

theorem cut_fst (separator : Char) (text : List Char) :
    (cut separator text).1 = text.takeWhile (· != separator) := by
  rw [cut]
  split
  · rename_i ended
    have whole := List.takeWhile_append_dropWhile (p := (· != separator)) (l := text)
    rw [ended, List.append_nil] at whole
    exact whole.symm
  · rfl

/-- The text in front of the first slash falls into what may be a scheme and what cannot. -/
theorem isRelative_eq (reference : String) :
    isRelative reference = !(hasScheme reference || hidesColon reference) := by
  have inFront : reference.toList.takeWhile (fun c => !(c == '/' || c == '?' || c == '#')) =
      (reference.toList.takeWhile (· != '/')).takeWhile fun c => !(c == '?' || c == '#') := by
    rw [List.takeWhile_takeWhile]
    congr 1
    funext c
    cases slash : c == '/' <;> simp [bne, slash, Bool.beq_eq_decide_eq]
  have parts := List.takeWhile_append_dropWhile (p := fun c => !(c == '?' || c == '#'))
    (l := reference.toList.takeWhile (· != '/'))
  rw [isRelative, cut_fst, hasScheme, hidesColon, inFront, ← List.contains_append, parts]

theorem resolveWith_eq_joined (base : Option String) (reference : String) :
    resolveWith base reference = joined base reference := by
  cases base with
  | none => rfl
  | some base =>
      rw [resolveWith, joined, isRelative_eq]
      by_cases empty : base.isEmpty
      · simp [resolve, empty]
      · cases hasScheme reference || hidesColon reference <;> simp [empty]

end Iri

namespace Turtle

open Telling

/-! ## What is kept -/

/-- What a name stands for, given the base in force and what labels have been recorded for. -/
def StandsFor (base : Option String) (recorded : String → Option String) : Iri → String → Prop
  | .full reference, value => Iri.joined base reference = .ok value
  | .prefixed label localPart, value => ∃ iri, recorded label = some iri ∧ value = iri ++ localPart

mutual

/-- The facts that are kept for an object, with what its names stand for in their places. -/
inductive Object.Keeps (stands : Iri → String → Prop) : String → String → Object → List Fact → Prop
  | iri {subject predicate value : String} {name : Iri} (known : stands name value) :
    Object.Keeps stands subject predicate (.iri name) [⟨subject, predicate, value, none, none⟩]
  | blank {subject predicate : String} (label : String) :
    Object.Keeps stands subject predicate (.blank label)
      [⟨subject, predicate, blankId label, none, none⟩]
  | plain {subject predicate : String} (value : String) (language : Option String) :
    Object.Keeps stands subject predicate (.literal value language none)
      [⟨subject, predicate, value, none, language⟩]
  | typed {subject predicate datatype : String} {name : Iri} (value : String)
    (language : Option String) (known : stands name datatype) :
    Object.Keeps stands subject predicate (.literal value language (some name))
      [⟨subject, predicate, value, some datatype, language⟩]
  | anonymous {subject predicate : String} {properties : List Property} {facts : List Fact}
    (number : Nat) (inside : KeepsAll stands (anonymousId number) properties facts) :
    Object.Keeps stands subject predicate (.anonymous properties)
      (⟨subject, predicate, anonymousId number, none, none⟩ :: facts)

/-- The facts that are kept for the properties of a subject. -/
inductive KeepsAll (stands : Iri → String → Prop) : String → List Property → List Fact → Prop
  | nil (subject : String) : KeepsAll stands subject [] []
  | cons {subject predicate : String} {name : Iri} {object : Object} {others : List Property}
    {facts more : List Fact} (known : stands name predicate)
    (here : Object.Keeps stands subject predicate object facts)
    (later : KeepsAll stands subject others more) :
    KeepsAll stands subject ((name, object) :: others) (facts ++ more)

end

inductive Subject.Keeps (stands : Iri → String → Prop) : Subject → List Property → List Fact → Prop
  | iri {name : Iri} {subject : String} {properties : List Property} {facts : List Fact}
    (known : stands name subject) (stated : KeepsAll stands subject properties facts) :
    Subject.Keeps stands (.iri name) properties facts
  | blank {properties : List Property} {facts : List Fact} (label : String)
    (stated : KeepsAll stands (blankId label) properties facts) :
    Subject.Keeps stands (.blank label) properties facts
  | anonymous {own properties : List Property} {facts more : List Fact} (number : Nat)
    (inside : KeepsAll stands (anonymousId number) own facts)
    (stated : KeepsAll stands (anonymousId number) properties more) :
    Subject.Keeps stands (.anonymous own) properties (facts ++ more)

/-- What becomes of a statement behind others, which are given from the last to the first: facts for
what it states, a label or a base for a directive. -/
inductive Statement.Keeps (earlier : List Statement) (base : Option String) :
    Statement → List Fact → Prop
  | declare {label reference iri : String} (known : Iri.joined base reference = .ok iri)
    (recorded : declared? label (.declare label reference :: earlier) = some iri) :
    Statement.Keeps earlier base (.declare label reference) []
  | rebase {reference iri : String} (known : Iri.joined base reference = .ok iri)
    (recorded : baseBehind (.rebase reference :: earlier) = some (some iri)) :
    Statement.Keeps earlier base (.rebase reference) []
  | triples {subject : Subject} {properties : List Property} {facts : List Fact}
    (stated : subject.Keeps (StandsFor base fun label => declared? label earlier) properties facts) :
    Statement.Keeps earlier base (.triples subject properties) facts

/-! ## What is told is kept -/

section Scope

variable {scope : Scope} {earlier : List Statement}

theorem resolve_eq_ok_iff {reference value : String} :
    scope.resolve reference = .ok value ↔ Iri.joined scope.base reference = .ok value := by
  rw [Scope.resolve, Iri.resolveWith_eq_joined]
  cases Iri.joined scope.base reference <;> simp

theorem Scope.Follows.standsFor (follows : scope.Follows earlier) {name : Iri} {value : String}
    (expanded : scope.expand name = .ok value) :
    StandsFor scope.base (fun label => declared? label earlier) name value := by
  cases name with
  | full reference => exact resolve_eq_ok_iff.1 expanded
  | «prefixed» label localPart =>
      rw [Scope.expand] at expanded
      rw [StandsFor, follows.label]
      cases known : scope.prefixes.find? label with
      | none => simp [known] at expanded
      | some iri =>
          rw [known] at expanded
          exact ⟨iri, rfl, (Except.ok.inj expanded).symm⟩

end Scope

section Telling

variable {scope : Scope} {stands : Iri → String → Prop}

mutual

theorem tellProperty_keeps (known : ∀ name value, scope.expand name = .ok value → stands name value)
    (subject predicate : String) (next : Nat) :
    ∀ object : Object, (tellProperty scope subject predicate next object).error = none →
      object.Keeps stands subject predicate (tellProperty scope subject predicate next object).facts
  | .iri name, faultless => by
      rw [tellProperty] at faultless ⊢
      obtain ⟨value, expanded, _⟩ := exists_of_withValue faultless
      rw [expanded]
      exact .iri (known name value expanded)
  | .blank label, _ => by
      rw [tellProperty]
      exact .blank label
  | .literal value language none, _ => by
      rw [tellProperty]
      exact .plain value language
  | .literal value language (some name), faultless => by
      rw [tellProperty, Scope.expandDatatype] at faultless ⊢
      cases expanded : scope.expand name with
      | error fault => simp [expanded, Except.map, withValue] at faultless
      | ok datatype => exact .typed value language (known name datatype expanded)
  | .anonymous properties, faultless => by
      rw [tellProperty] at faultless ⊢
      have inside := tellProperties_keeps known (anonymousId next) (next + 1) properties
        (error_andThen faultless).2
      rw [facts_of_andThen faultless]
      exact .anonymous next inside

theorem tellProperties_keeps
    (known : ∀ name value, scope.expand name = .ok value → stands name value) (subject : String)
    (next : Nat) :
    ∀ properties : List Property, (tellProperties scope subject next properties).error = none →
      KeepsAll stands subject properties (tellProperties scope subject next properties).facts
  | [], _ => .nil subject
  | (name, object) :: others, faultless => by
      rw [tellProperties] at faultless ⊢
      obtain ⟨predicate, expanded, told⟩ := exists_of_withValue faultless
      obtain ⟨first, behind⟩ := error_andThen told
      have here := tellProperty_keeps known subject predicate next object first
      have later := tellProperties_keeps known subject _ others behind
      simp only [expanded, withValue]
      rw [facts_of_andThen told]
      exact .cons (known name predicate expanded) here later

end

theorem tellTriples_keeps (known : ∀ name value, scope.expand name = .ok value → stands name value)
    (next : Nat) (properties : List Property) (subject : Subject)
    (faultless : (tellTriples scope next properties subject).error = none) :
    subject.Keeps stands properties (tellTriples scope next properties subject).facts := by
  cases subject with
  | iri name =>
      rw [tellTriples] at faultless ⊢
      obtain ⟨about, expanded, told⟩ := exists_of_withValue faultless
      rw [expanded]
      exact .iri (known name about expanded) (tellProperties_keeps known about next properties told)
  | blank label =>
      exact .blank label (tellProperties_keeps known (blankId label) next properties faultless)
  | anonymous own =>
      rw [tellTriples] at faultless ⊢
      obtain ⟨first, behind⟩ := error_andThen faultless
      rw [facts_of_andThen faultless]
      exact .anonymous next (tellProperties_keeps known _ (next + 1) own first)
        (tellProperties_keeps known _ _ properties behind)

end Telling

/-- One statement alone, told in a scope that holds what the directives before it say. -/
theorem tellStatement_keeps {scope : Scope} {earlier : List Statement}
    (follows : scope.Follows earlier) (next : Nat) (statement : Statement)
    (faultless : (tellStatements scope next [statement]).error = none) :
    statement.Keeps earlier scope.base (tellStatements scope next [statement]).facts := by
  cases statement with
  | declare label reference =>
      obtain ⟨iri, resolved, _⟩ := exists_of_withValue faultless
      have recorded : declared? label (.declare label reference :: earlier) = some iri := by
        rw [declared?, if_pos rfl, follows.resolve_eq, resolved]
        rfl
      rw [tellStatements, resolved]
      exact .declare (resolve_eq_ok_iff.1 resolved) recorded
  | rebase reference =>
      obtain ⟨iri, resolved, _⟩ := exists_of_withValue faultless
      rw [tellStatements, resolved]
      exact .rebase (resolve_eq_ok_iff.1 resolved) (follows.rebase resolved).base
  | triples subject properties =>
      have told : tellStatements scope next [.triples subject properties] =
          tellTriples scope next properties subject := andThen_nothing _
      rw [told] at faultless ⊢
      exact .triples (tellTriples_keeps (fun _ _ => follows.standsFor) next properties subject
        faultless)

/-! ## Documents -/

/-- Wherever the telling of a document reaches a statement, every reference in it is kept as what
resolution against the base in force leads to, unless a colon makes it pass for one with a scheme.
-/
theorem references_are_joined (next : Nat) {text : String} {before after : List Statement}
    {statement : Statement} (parsed : parseStatements text = .ok (before ++ statement :: after))
    (reached : (tellStatements .initial next (before ++ [statement])).error = none) :
    ∃ base facts, baseBehind before.reverse = some base ∧
      (tellStatements .initial next (before ++ [statement])).facts =
        (tellStatements .initial next before).facts ++ facts ∧
      (tellStatements .initial next (before ++ [statement])).facts <+: (tell next text).facts ∧
      statement.Keeps before.reverse base facts := by
  obtain ⟨scope, here, follows, rfl, faultless, added, within⟩ := exists_told_here after reached
  refine ⟨scope.base, _, follows.base, added, ?_, tellStatement_keeps follows _ statement faultless⟩
  rw [tell, parsed]
  exact within

/-- A base that is joined to none, a label for a query behind it, and references with a fragment and
with dots behind them, of which one has a colon that stands behind a slash. -/
theorem references_are_joined_dotted :
    let text := "@base <http://e.org/a/b> .\n@prefix r: <?q=> .\n<#f> r:p \"v\"^^<../t#x/y:z> ."
    let fact : Fact :=
      ⟨"http://e.org/a/b#f", "http://e.org/a/b?q=p", "v", some "http://e.org/t#x/y:z", none⟩
    ∃ before statement, parseStatements text = .ok (before ++ statement :: []) ∧
      (tellStatements .initial 0 (before ++ [statement])).error = none ∧
      statement.Keeps before.reverse (some "http://e.org/a/b") [fact] := by
  intro text fact
  have shown : (parseStatements text).toOption.map (fun found =>
      (found.length, baseBehind (found.take 2).reverse, tellStatements .initial 0 (found.take 2),
        tellStatements .initial 0 found)) =
      some (3, some (some "http://e.org/a/b"), ⟨[], 0, none⟩, ⟨[fact], 0, none⟩) := by
    decide +kernel
  cases parsed : parseStatements text with
  | error fault =>
      rw [parsed] at shown
      contradiction
  | ok found =>
      rw [parsed] at shown
      obtain ⟨three, rest⟩ := Prod.mk.inj (Option.some.inj shown)
      obtain ⟨first, second, statement, rfl⟩ := List.length_eq_three.1 three
      obtain ⟨based, others⟩ := Prod.mk.inj rest
      obtain ⟨silent, told⟩ := Prod.mk.inj others
      have reached : (tellStatements .initial 0 ([first, second] ++ [statement])).error = none :=
        congrArg Telling.error told
      obtain ⟨base, facts, inForce, added, _, keeps⟩ := references_are_joined 0 parsed reached
      obtain rfl : some "http://e.org/a/b" = base := Option.some.inj (based.symm.trans inForce)
      have both : (tellStatements .initial 0 [first, second]).facts = [] :=
        congrArg Telling.facts silent
      have whole : (tellStatements .initial 0 ([first, second] ++ [statement])).facts = [fact] :=
        congrArg Telling.facts told
      rw [whole, both] at added
      obtain rfl : [fact] = facts := added
      exact ⟨[first, second], statement, rfl, reached, keeps⟩

/-- The colon of a fragment has no slash in front of it, so the reference is kept as it is written.
-/
theorem hidden_colon_is_not_joined :
    Iri.hasScheme "#a:b" = false ∧
      (Iri.resolve "http://e.org/d" "#a:b").toOption = some "http://e.org/d#a:b" ∧
      tell 0 "@base <http://e.org/d> .\n<#a:b> <p> \"v\" ." =
        ⟨[⟨"#a:b", "http://e.org/p", "v", none, none⟩], 0, none⟩ := by
  decide +kernel

end Turtle

end FactQuery
