import FactQuery.Turtle.Document
import Mathlib.Data.List.Nodup

/-!
# Numbers of anonymous nodes

In a numbered document every bracket shows the number of its node.  `number` numbers a document in
the order of the opening brackets, and the steps of a numbered document are what telling it amounts
to: a number is taken, a fact is told, or a name stands for nothing and the telling ends.  Telling a
document is taking the steps of its numbered form, and over any sequence of documents told in a row
the numbers taken are consecutive, whatever faults cut the documents short.
-/

set_option autoImplicit false

namespace FactQuery.Turtle

/-! ## Numbered documents -/

inductive NumberedObject where
  | iri (name : Iri)
  | blank (label : String)
  | literal (value : String) (language : Option String) (datatype : Option Iri)
  | anonymous (number : Nat) (properties : List (Iri × NumberedObject))

inductive NumberedSubject where
  | iri (name : Iri)
  | blank (label : String)
  | anonymous (number : Nat) (properties : List (Iri × NumberedObject))

inductive NumberedStatement where
  | declare (label iri : String)
  | rebase (iri : String)
  | triples (subject : NumberedSubject) (properties : List (Iri × NumberedObject))

mutual

def NumberedObject.erase : NumberedObject → Object
  | .iri name => .iri name
  | .blank label => .blank label
  | .literal value language datatype => .literal value language datatype
  | .anonymous _ properties => .anonymous (eraseProperties properties)

def eraseProperties : List (Iri × NumberedObject) → List Property
  | [] => []
  | (name, object) :: others => (name, object.erase) :: eraseProperties others

end

def NumberedSubject.erase : NumberedSubject → Subject
  | .iri name => .iri name
  | .blank label => .blank label
  | .anonymous _ properties => .anonymous (eraseProperties properties)

def NumberedStatement.erase : NumberedStatement → Statement
  | .declare label reference => .declare label reference
  | .rebase reference => .rebase reference
  | .triples subject properties => .triples subject.erase (eraseProperties properties)

mutual

def NumberedObject.numbers : NumberedObject → List Nat
  | .anonymous number properties => number :: numbersOf properties
  | _ => []

def numbersOf : List (Iri × NumberedObject) → List Nat
  | [] => []
  | (_, object) :: others => object.numbers ++ numbersOf others

end

def NumberedSubject.numbers : NumberedSubject → List Nat
  | .anonymous number properties => number :: numbersOf properties
  | _ => []

def NumberedStatement.numbers : NumberedStatement → List Nat
  | .triples subject properties => subject.numbers ++ numbersOf properties
  | _ => []

/-! ## Numbering a document -/

mutual

def Object.brackets : Object → Nat
  | .anonymous properties => bracketsOf properties + 1
  | _ => 0

def bracketsOf : List Property → Nat
  | [] => 0
  | (_, object) :: others => object.brackets + bracketsOf others

end

def Subject.brackets : Subject → Nat
  | .anonymous properties => bracketsOf properties + 1
  | _ => 0

def Statement.brackets : Statement → Nat
  | .triples subject properties => subject.brackets + bracketsOf properties
  | _ => 0

def bracketsIn : List Statement → Nat
  | [] => 0
  | statement :: others => statement.brackets + bracketsIn others

mutual

/-- A bracket's number is `first` and as many more as brackets have been opened before it. -/
def Object.number (first : Nat) : Object → NumberedObject
  | .iri name => .iri name
  | .blank label => .blank label
  | .literal value language datatype => .literal value language datatype
  | .anonymous properties => .anonymous first (numberProperties (first + 1) properties)

def numberProperties (first : Nat) : List Property → List (Iri × NumberedObject)
  | [] => []
  | (name, object) :: others =>
    (name, object.number first) :: numberProperties (first + object.brackets) others

end

def Subject.number (first : Nat) : Subject → NumberedSubject
  | .iri name => .iri name
  | .blank label => .blank label
  | .anonymous properties => .anonymous first (numberProperties (first + 1) properties)

def Statement.number (first : Nat) : Statement → NumberedStatement
  | .declare label reference => .declare label reference
  | .rebase reference => .rebase reference
  | .triples subject properties =>
    .triples (subject.number first) (numberProperties (first + subject.brackets) properties)

def numberStatements (first : Nat) : List Statement → List NumberedStatement
  | [] => []
  | statement :: others =>
    statement.number first :: numberStatements (first + statement.brackets) others

mutual

theorem Object.erase_number (first : Nat) : ∀ object : Object, (object.number first).erase = object
  | .iri _ => rfl
  | .blank _ => rfl
  | .literal _ _ _ => rfl
  | .anonymous properties => by
      rw [Object.number, NumberedObject.erase, eraseProperties_number]

theorem eraseProperties_number (first : Nat) :
    ∀ properties : List Property, eraseProperties (numberProperties first properties) = properties
  | [] => rfl
  | (name, object) :: others => by
      rw [numberProperties, eraseProperties, object.erase_number, eraseProperties_number]

end

theorem Statement.erase_number (first : Nat) (statement : Statement) :
    (statement.number first).erase = statement := by
  cases statement with
  | declare label reference => rfl
  | rebase reference => rfl
  | triples subject properties =>
      rw [Statement.number, NumberedStatement.erase, eraseProperties_number]
      cases subject with
      | iri name => rfl
      | blank label => rfl
      | anonymous own => rw [Subject.number, NumberedSubject.erase, eraseProperties_number]

theorem map_erase_numberStatements (found : List Statement) :
    ∀ first, (numberStatements first found).map NumberedStatement.erase = found := by
  induction found with
  | nil => intro first; rfl
  | cons statement others inductionHypothesis =>
      intro first
      rw [numberStatements, List.map_cons, statement.erase_number, inductionHypothesis]

theorem cons_range' (first count : Nat) :
    first :: List.range' (first + 1) count = List.range' first (count + 1) :=
  List.range'_succ.symm

mutual

theorem Object.numbers_number (first : Nat) :
    ∀ object : Object, (object.number first).numbers = List.range' first object.brackets
  | .iri _ => rfl
  | .blank _ => rfl
  | .literal _ _ _ => rfl
  | .anonymous properties => by
      rw [Object.number, NumberedObject.numbers, numbersOf_number, cons_range', Object.brackets]

theorem numbersOf_number (first : Nat) :
    ∀ properties : List Property,
      numbersOf (numberProperties first properties) = List.range' first (bracketsOf properties)
  | [] => rfl
  | (name, object) :: others => by
      rw [numberProperties, numbersOf, object.numbers_number, numbersOf_number,
        List.range'_append_1, bracketsOf]

end

theorem Statement.numbers_number (first : Nat) (statement : Statement) :
    (statement.number first).numbers = List.range' first statement.brackets := by
  cases statement with
  | declare label reference => rfl
  | rebase reference => rfl
  | triples subject properties =>
      have own : (subject.number first).numbers = List.range' first subject.brackets := by
        cases subject with
        | iri name => rfl
        | blank label => rfl
        | anonymous own =>
            rw [Subject.number, NumberedSubject.numbers, numbersOf_number, cons_range',
              Subject.brackets]
      rw [Statement.number, NumberedStatement.numbers, own, numbersOf_number,
        List.range'_append_1, Statement.brackets]

theorem numbers_numberStatements (found : List Statement) :
    ∀ first, (numberStatements first found).flatMap NumberedStatement.numbers =
      List.range' first (bracketsIn found) := by
  induction found with
  | nil => intro first; rfl
  | cons statement others inductionHypothesis =>
      intro first
      rw [numberStatements, List.flatMap_cons, statement.numbers_number, inductionHypothesis,
        List.range'_append_1, bracketsIn]

/-! ## The steps of a numbered document -/

inductive Step where
  | opened (number : Nat)
  | told (fact : Fact)
  | failed (error : Error)

/-- Go on with what a name stands for, or fail. -/
def Step.withValue {α : Type} (value : Except Error α) (more : α → List Step) : List Step :=
  match value with
  | .ok found => more found
  | .error error => [.failed error]

mutual

/-- The fact that leads to a bracket is followed by what the bracket's own list says of its node. -/
def NumberedObject.steps (scope : Scope) (subject predicate : String) :
    NumberedObject → List Step
  | .iri name =>
    Step.withValue (scope.expand name) fun value => [.told ⟨subject, predicate, value, none, none⟩]
  | .blank label => [.told ⟨subject, predicate, blankId label, none, none⟩]
  | .literal value language datatype =>
    Step.withValue (scope.expandDatatype datatype) fun datatype =>
      [.told ⟨subject, predicate, value, datatype, language⟩]
  | .anonymous number properties =>
    .opened number :: .told ⟨subject, predicate, anonymousId number, none, none⟩ ::
      stepsOf scope (anonymousId number) properties

def stepsOf (scope : Scope) (subject : String) : List (Iri × NumberedObject) → List Step
  | [] => []
  | (name, object) :: others =>
    Step.withValue (scope.expand name) fun predicate =>
      object.steps scope subject predicate ++ stepsOf scope subject others

end

/-- What a bracket says of its node stands before what the list behind it says. -/
def NumberedSubject.steps (scope : Scope) (properties : List (Iri × NumberedObject)) :
    NumberedSubject → List Step
  | .iri name => Step.withValue (scope.expand name) fun subject => stepsOf scope subject properties
  | .blank label => stepsOf scope (blankId label) properties
  | .anonymous number own =>
    .opened number ::
      (stepsOf scope (anonymousId number) own ++ stepsOf scope (anonymousId number) properties)

def documentSteps (scope : Scope) : List NumberedStatement → List Step
  | [] => []
  | .declare label reference :: others =>
    Step.withValue (scope.resolve reference) fun iri =>
      documentSteps { scope with prefixes := scope.prefixes.insert label iri } others
  | .rebase reference :: others =>
    Step.withValue (scope.resolve reference) fun iri =>
      documentSteps { scope with base := some iri } others
  | .triples subject properties :: others =>
    subject.steps scope properties ++ documentSteps scope others

def taken : List Step → List Nat
  | [] => []
  | .opened number :: others => number :: taken others
  | .told _ :: others => taken others
  | .failed _ :: _ => []

def toldFacts : List Step → List Fact
  | [] => []
  | .opened _ :: others => toldFacts others
  | .told fact :: others => fact :: toldFacts others
  | .failed _ :: _ => []

def fault? : List Step → Option Error
  | [] => none
  | .opened _ :: others => fault? others
  | .told _ :: others => fault? others
  | .failed error :: _ => some error

/-- The telling that takes the steps up to the first fault. -/
def Telling.ofSteps (next : Nat) (steps : List Step) : Telling :=
  ⟨toldFacts steps, next + (taken steps).length, fault? steps⟩

/-! ## Consecutive numbers

Steps lead from one number to another if the numbers they take are the consecutive ones between the
two.  A fault may leave out the last of them.
-/

inductive Leads : Nat → List Step → Nat → Prop where
  | done (number : Nat) : Leads number [] number
  | opened {number last : Nat} {others : List Step} (later : Leads (number + 1) others last) :
      Leads number (.opened number :: others) last
  | told {number last : Nat} {others : List Step} (fact : Fact) (later : Leads number others last) :
      Leads number (.told fact :: others) last
  | failed {number last : Nat} (error : Error) (others : List Step) (upTo : number ≤ last) :
      Leads number (.failed error :: others) last

namespace Leads

theorem le {first last : Nat} {steps : List Step} (leads : Leads first steps last) :
    first ≤ last := by
  induction leads with
  | done number => exact Nat.le_refl number
  | opened later inductionHypothesis => omega
  | told fact later inductionHypothesis => exact inductionHypothesis
  | failed error others upTo => exact upTo

theorem append {first middle last : Nat} {steps others : List Step}
    (earlier : Leads first steps middle) (later : Leads middle others last) :
    Leads first (steps ++ others) last := by
  induction earlier with
  | done number => exact later
  | opened _ inductionHypothesis => exact .opened (inductionHypothesis later)
  | told fact _ inductionHypothesis => exact .told fact (inductionHypothesis later)
  | failed error behind upTo => exact .failed error _ (Nat.le_trans upTo later.le)

theorem withValue {α : Type} {first last : Nat} {more : α → List Step} (value : Except Error α)
    (upTo : first ≤ last) (leads : ∀ found, Leads first (more found) last) :
    Leads first (Step.withValue value more) last := by
  cases value with
  | ok found => exact leads found
  | error error => exact .failed error [] upTo

theorem taken_eq {first last : Nat} {steps : List Step} (leads : Leads first steps last) :
    taken steps = List.range' first (taken steps).length := by
  induction leads with
  | done number => rfl
  | opened later inductionHypothesis =>
      rw [taken, List.length_cons, ← cons_range', ← inductionHypothesis]
  | told fact later inductionHypothesis => exact inductionHypothesis
  | failed error others upTo => rfl

theorem first_add_length {first last : Nat} {steps : List Step} (leads : Leads first steps last)
    (faultless : fault? steps = none) : first + (taken steps).length = last := by
  induction leads with
  | done number => rfl
  | opened later inductionHypothesis =>
      have reached := inductionHypothesis faultless
      rw [taken, List.length_cons]
      omega
  | told fact later inductionHypothesis => exact inductionHypothesis faultless
  | failed error others upTo => simp [fault?] at faultless

end Leads

mutual

theorem Object.steps_leads (scope : Scope) (subject predicate : String) (first : Nat) :
    ∀ object : Object, Leads first ((object.number first).steps scope subject predicate)
      (first + object.brackets)
  | .iri name => .withValue _ (Nat.le_add_right _ _) fun _ => .told _ (.done _)
  | .blank label => .told _ (.done _)
  | .literal value language datatype =>
      .withValue _ (Nat.le_add_right _ _) fun _ => .told _ (.done _)
  | .anonymous properties => by
      have own := stepsOf_leads scope (anonymousId first) (first + 1) properties
      rw [Nat.add_assoc, Nat.add_comm 1] at own
      exact .opened (.told _ own)

theorem stepsOf_leads (scope : Scope) (subject : String) (first : Nat) :
    ∀ properties : List Property,
      Leads first (stepsOf scope subject (numberProperties first properties))
        (first + bracketsOf properties)
  | [] => .done first
  | (name, object) :: others => by
      refine .withValue _ (Nat.le_add_right _ _) fun predicate => ?_
      have later := stepsOf_leads scope subject (first + object.brackets) others
      rw [Nat.add_assoc] at later
      exact (object.steps_leads scope subject predicate first).append later

end

theorem Subject.steps_leads (scope : Scope) (properties : List Property) (first : Nat)
    (subject : Subject) :
    Leads first ((subject.number first).steps scope
        (numberProperties (first + subject.brackets) properties))
      (first + (subject.brackets + bracketsOf properties)) := by
  have behind := fun about =>
    stepsOf_leads scope about (first + subject.brackets) properties
  rw [← Nat.add_assoc]
  cases subject with
  | iri name => exact .withValue _ (Nat.le_add_right _ _) fun about => behind about
  | blank label => exact behind (blankId label)
  | anonymous own =>
      have inside := stepsOf_leads scope (anonymousId first) (first + 1) own
      rw [Nat.add_assoc, Nat.add_comm 1] at inside
      exact .opened (inside.append (behind (anonymousId first)))

theorem documentSteps_leads (found : List Statement) :
    ∀ scope first, Leads first (documentSteps scope (numberStatements first found))
      (first + bracketsIn found) := by
  induction found with
  | nil => exact fun scope first => .done first
  | cons statement others inductionHypothesis =>
      intro scope first
      rw [bracketsIn, ← Nat.add_assoc]
      cases statement with
      | declare label reference =>
          exact .withValue _ (Nat.le_add_right _ _) fun iri => inductionHypothesis _ first
      | rebase reference =>
          exact .withValue _ (Nat.le_add_right _ _) fun iri => inductionHypothesis _ first
      | triples subject properties =>
          exact (subject.steps_leads scope properties first).append
            (inductionHypothesis scope (first + (subject.brackets + bracketsOf properties)))

/-! ## Telling takes the steps -/

theorem steps_append {steps : List Step} (others : List Step) (faultless : fault? steps = none) :
    taken (steps ++ others) = taken steps ++ taken others ∧
      toldFacts (steps ++ others) = toldFacts steps ++ toldFacts others ∧
      fault? (steps ++ others) = fault? others := by
  induction steps with
  | nil => exact ⟨rfl, rfl, rfl⟩
  | cons step steps inductionHypothesis =>
      cases step with
      | opened number =>
          obtain ⟨numbers, facts, fault⟩ := inductionHypothesis faultless
          exact ⟨congrArg (number :: ·) numbers, facts, fault⟩
      | told fact =>
          obtain ⟨numbers, facts, fault⟩ := inductionHypothesis faultless
          exact ⟨numbers, congrArg (fact :: ·) facts, fault⟩
      | failed error => simp [fault?] at faultless

/-- Nothing behind a fault counts. -/
theorem steps_append_of_fault {steps : List Step} {error : Error} (others : List Step)
    (fault : fault? steps = some error) :
    taken (steps ++ others) = taken steps ∧ toldFacts (steps ++ others) = toldFacts steps ∧
      fault? (steps ++ others) = some error := by
  induction steps with
  | nil => simp [fault?] at fault
  | cons step steps inductionHypothesis =>
      cases step with
      | opened number =>
          obtain ⟨numbers, facts, same⟩ := inductionHypothesis fault
          exact ⟨congrArg (number :: ·) numbers, facts, same⟩
      | told fact =>
          obtain ⟨numbers, facts, same⟩ := inductionHypothesis fault
          exact ⟨numbers, congrArg (fact :: ·) facts, same⟩
      | failed first => exact ⟨rfl, rfl, fault⟩

namespace Telling

/-- Steps are taken one part after the other; the second part begins with the number to which the
first leads. -/
theorem ofSteps_andThen {next last : Nat} {steps others : List Step} (more : Nat → Telling)
    (leads : Leads next steps last) (behind : more last = ofSteps last others) :
    (ofSteps next steps).andThen more = ofSteps next (steps ++ others) := by
  cases fault : fault? steps with
  | some error =>
      obtain ⟨numbers, facts, same⟩ := steps_append_of_fault others fault
      rw [ofSteps, ofSteps, numbers, facts, same, fault, andThen]
  | none =>
      obtain ⟨numbers, facts, same⟩ := steps_append others fault
      have reached := leads.first_add_length fault
      rw [ofSteps, ofSteps, numbers, facts, same, fault, andThen, reached, behind, ofSteps,
        List.length_append, ← Nat.add_assoc, reached]

theorem ofSteps_withValue {α : Type} (next : Nat) (value : Except Error α)
    {more : α → Telling} {steps : α → List Step}
    (same : ∀ found, more found = ofSteps next (steps found)) :
    withValue next value more = ofSteps next (Step.withValue value steps) := by
  cases value with
  | ok found => exact same found
  | error error => rfl

theorem ofSteps_opened (number : Nat) (others : List Step) :
    ofSteps number (.opened number :: others) = ofSteps (number + 1) others := by
  rw [ofSteps, ofSteps, toldFacts, taken, fault?, List.length_cons, Nat.add_comm _ 1,
    ← Nat.add_assoc]

end Telling

open Telling

mutual

theorem tellProperty_eq (scope : Scope) (subject predicate : String) (next : Nat) :
    ∀ object : Object, tellProperty scope subject predicate next object =
      .ofSteps next ((object.number next).steps scope subject predicate)
  | .iri name => ofSteps_withValue next _ fun _ => rfl
  | .blank label => rfl
  | .literal value language datatype => ofSteps_withValue next _ fun _ => rfl
  | .anonymous properties => by
      have own := tellProperties_eq scope (anonymousId next) (next + 1) properties
      have link : Leads (next + 1)
          [.told ⟨subject, predicate, anonymousId next, none, none⟩] (next + 1) :=
        .told _ (.done _)
      have linked := ofSteps_andThen
        (fun following => tellProperties scope (anonymousId next) following properties) link own
      rw [tellProperty, Object.number, NumberedObject.steps, ofSteps_opened]
      exact linked

theorem tellProperties_eq (scope : Scope) (subject : String) (next : Nat) :
    ∀ properties : List Property, tellProperties scope subject next properties =
      .ofSteps next (stepsOf scope subject (numberProperties next properties))
  | [] => rfl
  | (name, object) :: others => by
      rw [tellProperties, numberProperties, stepsOf]
      refine ofSteps_withValue next _ fun predicate => ?_
      rw [tellProperty_eq scope subject predicate next object]
      exact ofSteps_andThen _ (object.steps_leads scope subject predicate next)
        (tellProperties_eq scope subject (next + object.brackets) others)

end

theorem tellTriples_eq (scope : Scope) (next : Nat) (properties : List Property)
    (subject : Subject) :
    tellTriples scope next properties subject =
      .ofSteps next ((subject.number next).steps scope
        (numberProperties (next + subject.brackets) properties)) := by
  cases subject with
  | iri name => exact ofSteps_withValue next _ fun about => tellProperties_eq scope about next _
  | blank label => exact tellProperties_eq scope (blankId label) next properties
  | anonymous own =>
      have inside := stepsOf_leads scope (anonymousId next) (next + 1) own
      have behind := tellProperties_eq scope (anonymousId next) (next + 1 + bracketsOf own)
        properties
      have whole := ofSteps_andThen
        (fun following => tellProperties scope (anonymousId next) following properties)
        inside behind
      rw [Nat.add_assoc, Nat.add_comm 1] at whole
      rw [tellTriples, tellProperties_eq, Subject.number, NumberedSubject.steps, ofSteps_opened]
      exact whole

theorem tellStatements_eq (found : List Statement) :
    ∀ scope next, tellStatements scope next found =
      .ofSteps next (documentSteps scope (numberStatements next found)) := by
  induction found with
  | nil => exact fun scope next => rfl
  | cons statement others inductionHypothesis =>
      intro scope next
      cases statement with
      | declare label reference =>
          exact ofSteps_withValue next _ fun iri => inductionHypothesis _ next
      | rebase reference =>
          exact ofSteps_withValue next _ fun iri => inductionHypothesis _ next
      | triples subject properties =>
          rw [tellStatements, tellTriples_eq]
          exact ofSteps_andThen _ (subject.steps_leads scope properties next)
            (inductionHypothesis scope _)

/-! ## Documents in a row -/

/-- The steps of a document whose brackets are numbered from `next` on. -/
def textSteps (next : Nat) (text : String) : List Step :=
  Step.withValue (parseStatements text) fun found =>
    documentSteps .initial (numberStatements next found)

/-- Each document with the number that the ones before it have reached. -/
def readings (next : Nat) : List String → List (Nat × String)
  | [] => []
  | text :: others => (next, text) :: readings (tell next text).next others

def identifiers (next : Nat) (texts : List String) : List String :=
  (readings next texts).flatMap fun reading =>
    (taken (textSteps reading.1 reading.2)).map anonymousId

theorem tell_eq (next : Nat) (text : String) : tell next text = .ofSteps next (textSteps next text) :=
  ofSteps_withValue next _ fun found => tellStatements_eq found .initial next

theorem textSteps_leads (next : Nat) (text : String) :
    ∃ last, Leads next (textSteps next text) last := by
  rw [textSteps]
  cases parseStatements text with
  | error error => exact ⟨next, .failed error [] (Nat.le_refl next)⟩
  | ok found => exact ⟨_, documentSteps_leads found .initial next⟩

/-- A document takes up the numbers where the ones before it have left them. -/
theorem identifiers_eq (texts : List String) :
    ∀ next, ∃ count, identifiers next texts = (List.range' next count).map anonymousId := by
  induction texts with
  | nil => exact fun next => ⟨0, rfl⟩
  | cons text others inductionHypothesis =>
      intro next
      obtain ⟨last, leads⟩ := textSteps_leads next text
      have reached : (tell next text).next = next + (taken (textSteps next text)).length := by
        rw [tell_eq, ofSteps]
      obtain ⟨count, later⟩ := inductionHypothesis (tell next text).next
      rw [reached] at later
      refine ⟨(taken (textSteps next text)).length + count, ?_⟩
      rw [← List.range'_append_1, List.map_append, ← later, ← leads.taken_eq, identifiers,
        readings, List.flatMap_cons, reached, identifiers]

theorem anonymousId_injective : Function.Injective anonymousId := by
  intro left right same
  rw [anonymousId, anonymousId, String.append_right_inj] at same
  have digits : Nat.toDigits 10 left = Nat.toDigits 10 right := by
    rw [← Nat.toList_repr, ← Nat.toList_repr]
    exact congrArg String.toList same
  have values := congrArg (Nat.ofDigitChars 10 · 0) digits
  simp only [Nat.ofDigitChars_ten_toDigits] at values
  exact values

/-- However many documents are told in a row, and whether or not they end in a fault, no two
brackets get one identifier.  Each telling is the steps of the document's numbered form; without a
fault the brackets show the consecutive numbers from the one reached before, in the order of the
opening brackets, and all of them are taken. -/
theorem brackets_numbered (first : Nat) (texts : List String) :
    (identifiers first texts).Nodup ∧
      ∀ next text, (next, text) ∈ readings first texts →
        tell next text = .ofSteps next (textSteps next text) ∧
        ((tell next text).error = none → ∃ document count,
          parseStatements text = .ok (document.map NumberedStatement.erase) ∧
          document.flatMap NumberedStatement.numbers = List.range' next count ∧
          textSteps next text = documentSteps .initial document ∧
          taken (documentSteps .initial document) = List.range' next count ∧
          tell next text =
            ⟨toldFacts (documentSteps .initial document), next + count, none⟩) := by
  constructor
  · obtain ⟨count, same⟩ := identifiers_eq texts first
    rw [same]
    exact List.Nodup.map anonymousId_injective (List.nodup_range' 1)
  · intro next text _
    refine ⟨tell_eq next text, fun faultless => ?_⟩
    have told := tell_eq next text
    rw [told] at faultless
    cases parsed : parseStatements text with
    | error error => simp [textSteps, parsed, Step.withValue, ofSteps, fault?] at faultless
    | ok found =>
        have steps : textSteps next text =
            documentSteps .initial (numberStatements next found) := by
          rw [textSteps, parsed]
          rfl
        have leads := documentSteps_leads found .initial next
        rw [← steps] at leads
        have reached := leads.first_add_length faultless
        have size : (taken (textSteps next text)).length = bracketsIn found := by omega
        refine ⟨numberStatements next found, bracketsIn found, ?_, ?_, steps, ?_, ?_⟩
        · rw [map_erase_numberStatements]
        · exact numbers_numberStatements found next
        · rw [← steps, leads.taken_eq, size]
        · rw [told, ← steps, ← size]
          exact congrArg (Telling.mk _ _) faultless

/-- The second document ends at a label that is not declared, with the number of its bracket used
up; the third goes on from there. -/
theorem brackets_numbered_after_fault :
    let last := "<s> <p> [ <q> [ ] ] ."
    let texts := ["[ <q> 1 ] <p> [ ] .", "<s> <p> [ ] , e:x .", last]
    (identifiers 0 texts).Nodup ∧
      identifiers 0 texts = ["_:anon0", "_:anon1", "_:anon2", "_:anon3", "_:anon4"] ∧
      ∃ document count,
        parseStatements last = .ok (document.map NumberedStatement.erase) ∧
        document.flatMap NumberedStatement.numbers = List.range' 3 count ∧
        tell 3 last = ⟨toldFacts (documentSteps .initial document), 3 + count, none⟩ := by
  intro last texts
  obtain ⟨distinct, each⟩ := brackets_numbered 0 texts
  have third : (3, last) ∈ readings 0 texts := by decide +kernel
  have faultless : (tell 3 last).error = none := by decide +kernel
  obtain ⟨document, count, parsed, numbers, _, _, told⟩ := (each 3 last third).2 faultless
  exact ⟨distinct, by decide +kernel, document, count, parsed, numbers, told⟩

end FactQuery.Turtle
