import FactQuery.Proofs.Turtle.Directives
import FactQuery.Proofs.Turtle.LiteralPlace

/-!
# One property in what is told

The facts of a document are told in one go, and in the middle of it stands the property whose object
is a literal.  What is told before it, and how the telling goes on behind it, does not depend on the
literal; and the names in it stand for what the directives before its statement say.
-/

set_option autoImplicit false

namespace FactQuery.Turtle

open FactQuery.Grammar Telling

/-! ## Around one property -/

/-- In the middle of a telling a property is told, in a scope; all the rest is the same for every
object that it may have. -/
def Tells (scope : Scope) (tell : Object → Telling) : Prop :=
  ∃ (front : Telling) (subject predicate : String) (rest : Nat → Telling), ∀ object,
    tell object = front.andThen fun next =>
      (tellProperty scope subject predicate next object).andThen rest

namespace Tells

variable {scope : Scope}

theorem here (subject predicate : String) (next : Nat) :
    Tells scope (tellProperty scope subject predicate next) :=
  ⟨nothing next, subject, predicate, nothing, fun object => by
    rw [nothing_andThen, andThen_nothing]⟩

theorem ended {told : Telling} {fault : Error} (faulty : told.error = some fault)
    (more : Object → Nat → Telling) : Tells scope fun object => told.andThen (more object) := by
  refine ⟨told, "", "", nothing, fun object => ?_⟩
  simp only [andThen, faulty]

theorem after {more : Object → Nat → Telling} (told : Telling)
    (tells : told.error = none → Tells scope fun object => more object told.next) :
    Tells scope fun object => told.andThen (more object) := by
  cases faulty : told.error with
  | some fault => exact ended faulty more
  | none =>
      obtain ⟨front, subject, predicate, rest, same⟩ := tells faulty
      refine ⟨told.andThen fun _ => front, subject, predicate, rest, fun object => ?_⟩
      rw [andThen_assoc]
      exact andThen_congr (same object)

theorem before {tell : Object → Telling} (tells : Tells scope tell) (more : Nat → Telling) :
    Tells scope fun object => (tell object).andThen more := by
  obtain ⟨front, subject, predicate, rest, same⟩ := tells
  refine ⟨front, subject, predicate, fun next => (rest next).andThen more, fun object => ?_⟩
  simp only [same, andThen_assoc]

theorem withValue {α : Type} {tell : α → Object → Telling} (next : Nat) (value : Except Error α)
    (tells : ∀ found, Tells scope (tell found)) :
    Tells scope fun object => Telling.withValue next value fun found => tell found object := by
  cases value with
  | ok found => exact tells found
  | error fault =>
      refine ⟨⟨[], next, some fault⟩, "", "", nothing, fun object => ?_⟩
      simp only [andThen, Telling.withValue]

end Tells

/-! ## From the literal to the document -/

def Rule.Tells : (rule : Rule) → (Object → rule.Value) → Prop
  | .object, fill => ∀ scope subject predicate next, Turtle.Tells scope fun literal =>
      tellProperty scope subject predicate next (fill literal)
  | .group, fill => ∀ scope subject next, Turtle.Tells scope fun literal =>
      tellProperties scope subject next (fill literal)
  | .properties, fill => ∀ scope subject next, Turtle.Tells scope fun literal =>
      tellProperties scope subject next (fill literal)
  | .statement, fill => ∀ scope others next, Turtle.Tells scope fun literal =>
      tellStatements scope next (fill literal :: others)
  | .document, fill => ∃ (before after : List Statement) (filled : Object → Statement),
      (∀ literal, fill literal = before ++ filled literal :: after) ∧
        ∀ scope others next, Turtle.Tells scope fun literal =>
          tellStatements scope next (filled literal :: others)

section Rules

variable {scope : Scope} {subject : String} {next : Nat} {fill : Object → List Property}

theorem Tells.among (before after : List Property)
    (tells : ∀ next, Tells scope fun literal => tellProperties scope subject next (fill literal))
    (next : Nat) : Tells scope fun literal =>
      tellProperties scope subject next (before ++ (fill literal ++ after)) := by
  simp only [tellProperties_append]
  exact .after _ fun _ => (tells _).before _

theorem Tells.property {fill : Object → Object} (name : Iri)
    (tells : ∀ predicate next, Tells scope fun literal =>
      tellProperty scope subject predicate next (fill literal)) (next : Nat) :
    Tells scope fun literal => tellProperties scope subject next [(name, fill literal)] := by
  simp only [tellProperties]
  exact .withValue next _ fun predicate => (tells predicate next).before _

theorem Tells.stated (about : Subject)
    (tells : ∀ subject next, Tells scope fun literal =>
      tellProperties scope subject next (fill literal)) (others : List Statement) (next : Nat) :
    Tells scope fun literal => tellStatements scope next (.triples about (fill literal) :: others) := by
  simp only [tellStatements]
  refine Tells.before ?_ _
  cases about with
  | iri name => exact .withValue next _ fun subject => tells subject next
  | blank label => exact tells _ next
  | anonymous own =>
      have behind : Tells scope fun literal =>
          (tellProperties scope (anonymousId next) (next + 1) own).andThen fun last =>
            tellProperties scope (anonymousId next) last (fill literal) :=
        .after _ fun _ => tells _ _
      exact behind

theorem Tells.within (stated : List Property)
    (tells : ∀ subject next, Tells scope fun literal =>
      tellProperties scope subject next (fill literal)) (others : List Statement) (next : Nat) :
    Tells scope fun literal =>
      tellStatements scope next (.triples (.anonymous (fill literal)) stated :: others) := by
  simp only [tellStatements, tellTriples]
  exact ((tells _ _).before _).before _

end Rules

theorem Place.tells {here behind start last : Cursor} {rule : Rule} {fill : Object → rule.Value}
    (place : Place here behind rule start fill last) : rule.Tells fill := by
  induction place with
  | literal => exact fun scope subject predicate next => Tells.here subject predicate next
  | bracket opened inside closed inductionHypothesis =>
      intro scope subject predicate next
      simp only [tellProperty]
      exact .after _ fun _ => inductionHypothesis scope _ _
  | @group _ _ _ _ _ name before after _ predicated amid inside inductionHypothesis =>
      intro scope subject next
      have among := Tells.among (before.map fun value => (name, value))
        (after.map fun value => (name, value))
        (Tells.property name (inductionHypothesis scope subject)) next
      simpa using among
  | firstGroup inside later inductionHypothesis =>
      intro scope subject next
      exact Tells.among [] _ (inductionHypothesis scope subject) next
  | @laterGroup _ _ _ _ _ _ first before after _ opening earlier separated inside later
      inductionHypothesis =>
      intro scope subject next
      have among := Tells.among (first ++ before.flatMap fun group => group.getD [])
        (after.flatMap fun group => group.getD []) (inductionHypothesis scope subject) next
      simpa using among
  | @stated _ _ _ _ about _ noDirective named inside ended inductionHypothesis =>
      exact fun scope others next =>
        Tells.stated about (inductionHypothesis scope) others next
  | within opened inside closed stated ended inductionHypothesis =>
      exact fun scope others next => Tells.within _ (inductionHypothesis scope) others next
  | @document _ _ _ _ before after filled amid inside ended inductionHypothesis =>
      exact ⟨before, after, filled, fun _ => rfl, inductionHypothesis⟩

/-! ## The directives before a statement -/

/-- Statements before the others tell their part, and leave a scope that holds what the directives
up to there say. -/
def LeadsOn (scope : Scope) (next : Nat) (before earlier : List Statement) : Prop :=
  ∃ (front : Telling) (inside : Scope),
    (front.error = none → inside.Follows (before.reverse ++ earlier)) ∧
      ∀ others, tellStatements scope next (before ++ others) =
        front.andThen fun next => tellStatements inside next others

namespace LeadsOn

variable {scope again : Scope} {next : Nat} {statement : Statement}
  {before earlier : List Statement}

theorem step (told : Telling)
    (first : ∀ others, tellStatements scope next (statement :: others) =
      told.andThen fun next => tellStatements again next others)
    (further : LeadsOn again told.next before (statement :: earlier)) :
    LeadsOn scope next (statement :: before) earlier := by
  obtain ⟨front, inside, follows, same⟩ := further
  refine ⟨told.andThen fun _ => front, inside, fun faultless => ?_, fun others => ?_⟩
  · rw [List.reverse_cons, List.append_assoc]
    exact follows (error_andThen faultless).2
  · rw [List.cons_append, first, andThen_assoc]
    exact andThen_congr (same others)

theorem broken {fault : Error} (ended : ∀ others,
      tellStatements scope next (statement :: others) = ⟨[], next, some fault⟩) :
    LeadsOn scope next (statement :: before) earlier :=
  ⟨⟨[], next, some fault⟩, scope, nofun, fun others => ended (before ++ others)⟩

end LeadsOn

theorem Scope.Follows.leadsOn (before : List Statement) :
    ∀ {scope : Scope} {earlier : List Statement}, scope.Follows earlier → ∀ next,
      LeadsOn scope next before earlier := by
  induction before with
  | nil =>
      intro scope earlier follows next
      exact ⟨nothing next, scope, fun _ => follows, fun others => by
        rw [nothing_andThen, List.nil_append]⟩
  | cons statement before inductionHypothesis =>
      intro scope earlier follows next
      cases statement with
      | triples subject properties =>
          exact .step _ (fun others => rfl)
            (inductionHypothesis (follows.triples subject properties) _)
      | declare label reference =>
          cases resolved : scope.resolve reference with
          | error fault => exact .broken fun others => by rw [tellStatements, resolved, withValue]
          | ok iri =>
              refine .step (nothing next) (fun others => ?_)
                (inductionHypothesis (follows.declare resolved) next)
              rw [tellStatements, resolved, withValue, nothing_andThen]
      | rebase reference =>
          cases resolved : scope.resolve reference with
          | error fault => exact .broken fun others => by rw [tellStatements, resolved, withValue]
          | ok iri =>
              refine .step (nothing next) (fun others => ?_)
                (inductionHypothesis (follows.rebase resolved) next)
              rw [tellStatements, resolved, withValue, nothing_andThen]

/-- A document is told up to a statement, and from there on in a scope that holds what the
directives before the statement say. -/
theorem exists_scope_behind (next : Nat) (before : List Statement) :
    ∃ inside : Scope,
      ((tellStatements .initial next before).error = none → inside.Follows before.reverse) ∧
      ∀ others, tellStatements .initial next (before ++ others) =
        (tellStatements .initial next before).andThen fun next =>
          tellStatements inside next others := by
  obtain ⟨front, inside, follows, same⟩ := Scope.Follows.initial.leadsOn before next
  have told : tellStatements .initial next before = front := by
    have alone := same []
    rw [List.append_nil] at alone
    rw [alone]
    exact andThen_nothing front
  rw [List.append_nil] at follows
  rw [told]
  exact ⟨inside, follows, same⟩

/-- What a statement tells, in a scope that holds what the directives before it say, is added to
what has been told before it, and what is told later is added to that. -/
theorem exists_told_here {next : Nat} {before : List Statement} {statement : Statement}
    (after : List Statement)
    (faultless : (tellStatements .initial next (before ++ [statement])).error = none) :
    ∃ (scope : Scope) (here : Telling), scope.Follows before.reverse ∧
      here = tellStatements scope (tellStatements .initial next before).next [statement] ∧
      here.error = none ∧
      (tellStatements .initial next (before ++ [statement])).facts =
        (tellStatements .initial next before).facts ++ here.facts ∧
      (tellStatements .initial next (before ++ [statement])).facts <+:
        (tellStatements .initial next (before ++ statement :: after)).facts := by
  obtain ⟨later, _, onward⟩ := exists_scope_behind next (before ++ [statement])
  have whole := onward after
  rw [List.append_assoc, List.singleton_append] at whole
  have within := facts_prefix_andThen (tellStatements .initial next (before ++ [statement]))
    fun next => tellStatements later next after
  rw [← whole] at within
  obtain ⟨scope, follows, told⟩ := exists_scope_behind next before
  have added := told [statement]
  rw [added] at faultless
  refine ⟨scope, _, follows (error_andThen faultless).1, rfl, (error_andThen faultless).2, ?_, within⟩
  rw [added, facts_of_andThen faultless]

theorem error_tellStatements_append {next : Nat} {before after : List Statement}
    (faultless : (tellStatements .initial next (before ++ after)).error = none) :
    (tellStatements .initial next before).error = none := by
  obtain ⟨scope, _, told⟩ := exists_scope_behind next before
  rw [told] at faultless
  exact (error_andThen faultless).1

/-- The literal is told in a scope that holds what the directives before its statement say. -/
theorem Place.told {here behind start last : Cursor} {fill : Object → List Statement}
    (place : Place here behind .document start fill last) :
    ∃ (before after : List Statement) (filled : Object → Statement),
      (∀ literal, fill literal = before ++ filled literal :: after) ∧
      ∀ next, ∃ (front : Telling) (scope : Scope) (subject predicate : String)
        (rest : Nat → Telling), (front.error = none → scope.Follows before.reverse) ∧
        ∀ literal, tellStatements .initial next (fill literal) =
          front.andThen fun next =>
            (tellProperty scope subject predicate next literal).andThen rest := by
  obtain ⟨before, after, filled, whole, tells⟩ := place.tells
  refine ⟨before, after, filled, whole, fun next => ?_⟩
  obtain ⟨earlier, scope, follows, same⟩ := Scope.Follows.initial.leadsOn before next
  obtain ⟨front, subject, predicate, rest, told⟩ := tells scope after earlier.next
  refine ⟨earlier.andThen fun _ => front, scope, subject, predicate, rest, fun faultless => ?_,
    fun literal => ?_⟩
  · rw [← List.append_nil before.reverse]
    exact follows (error_andThen faultless).1
  · rw [whole, same, andThen_assoc]
    exact andThen_congr (told literal)

/-- What is told for a literal, if its datatype stands for something or it has none, and else the
fault with what has been told before. -/
def toldAround (earlier later : List Fact) (next last : Nat) (subject predicate value : String)
    (language : Option String) : Except Error (Option String) → Telling
  | .ok datatype => ⟨earlier ++ ⟨subject, predicate, value, datatype, language⟩ :: later, last, none⟩
  | .error fault => ⟨earlier, next, some fault⟩

/-- If a document is told without a fault for one literal, then so it is for every other literal
whose datatype stands for something, with one fact changed. -/
theorem Place.told_literal {here behind start last : Cursor} {fill : Object → List Statement}
    (place : Place here behind .document start fill last) :
    ∃ (before after : List Statement) (filled : Object → Statement),
      (∀ literal, fill literal = before ++ filled literal :: after) ∧
      ∀ next value language datatype,
        (tellStatements .initial next (fill (.literal value language datatype))).error = none →
        ∃ (scope : Scope) (earlier later : List Fact) (middle last : Nat)
          (subject predicate : String), scope.Follows before.reverse ∧
          ∀ value language datatype,
            tellStatements .initial next (fill (.literal value language datatype)) =
              toldAround earlier later middle last subject predicate value language
                (scope.expandDatatype datatype) := by
  obtain ⟨before, after, filled, whole, tells⟩ := place.told
  refine ⟨before, after, filled, whole, fun next value language datatype faultless => ?_⟩
  obtain ⟨front, scope, subject, predicate, rest, follows, same⟩ := tells next
  rw [same] at faultless
  obtain ⟨noFault, further⟩ := error_andThen faultless
  obtain ⟨here, behind⟩ := error_andThen further
  have reached : (tellProperty scope subject predicate front.next
      (.literal value language datatype)).next = front.next := by
    obtain ⟨found, expanded, -⟩ := exists_of_withValue (by rwa [tellProperty] at here)
    rw [tellProperty, expanded, withValue]
  rw [reached] at behind
  refine ⟨scope, front.facts, (rest front.next).facts, front.next, (rest front.next).next, subject,
    predicate, follows noFault, fun value language datatype => ?_⟩
  rw [same]
  cases expanded : scope.expandDatatype datatype with
  | error fault => simp [andThen, noFault, tellProperty, expanded, withValue, toldAround]
  | ok found => simp [andThen, noFault, tellProperty, expanded, withValue, toldAround, behind]

end FactQuery.Turtle
