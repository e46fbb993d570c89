import FactQuery.Evaluation.Join
import FactQuery.Proofs.Turtle.Numbering

/-!
# Blank nodes in one space of identifiers

A document has two sorts of blank nodes, those with a label and those behind a bracket, and both get
their identifiers in one space: a label is put behind `_:`, and the number of a bracket behind
`_:anon`.  What a document says is told here about the nodes themselves, and the facts of the
document are what is left when each node is replaced by its identifier.  The nodes stay apart
exactly as long as no label is `anon` with the number of one of the document's brackets.
-/

set_option autoImplicit false

namespace FactQuery.Turtle

open FactQuery.Sparql

/-! ## Nodes and their identifiers -/

inductive BlankNode where
  | labelled (label : String)
  | bracket (number : Nat)
  deriving DecidableEq, Repr

def BlankNode.identifier : BlankNode → String
  | .labelled label => blankId label
  | .bracket number => anonymousId number

theorem blankId_injective : Function.Injective blankId := by
  intro left right same
  rwa [blankId, blankId, String.append_right_inj] at same

/-- A label clashes with a bracket in no other way than by being spelled like it. -/
theorem blankId_eq_anonymousId_iff (label : String) (number : Nat) :
    blankId label = anonymousId number ↔ label = "anon" ++ toString number := by
  have spelled : anonymousId number = blankId ("anon" ++ toString number) := by
    rw [anonymousId, blankId, ← String.append_assoc]
    rfl
  rw [spelled]
  exact blankId_injective.eq_iff

/-! ## The nodes of a document -/

mutual

/-- The nodes in the order of the text; a bracket stands before the nodes inside it. -/
def NumberedObject.nodes : NumberedObject → List BlankNode
  | .iri _ => []
  | .blank label => [.labelled label]
  | .literal _ _ _ => []
  | .anonymous number properties => .bracket number :: nodesOf properties

def nodesOf : List (Iri × NumberedObject) → List BlankNode
  | [] => []
  | (_, object) :: others => object.nodes ++ nodesOf others

end

def NumberedSubject.nodes : NumberedSubject → List BlankNode
  | .iri _ => []
  | .blank label => [.labelled label]
  | .anonymous number properties => .bracket number :: nodesOf properties

def NumberedStatement.nodes : NumberedStatement → List BlankNode
  | .declare _ _ => []
  | .rebase _ => []
  | .triples subject properties => subject.nodes ++ nodesOf properties

def nodesIn (document : List NumberedStatement) : List BlankNode :=
  document.flatMap NumberedStatement.nodes

mutual

theorem NumberedObject.bracket_mem_nodes (number : Nat) :
    ∀ object : NumberedObject, .bracket number ∈ object.nodes ↔ number ∈ object.numbers
  | .iri _ => by simp [NumberedObject.nodes, NumberedObject.numbers]
  | .blank label => by simp [NumberedObject.nodes, NumberedObject.numbers]
  | .literal _ _ _ => by simp [NumberedObject.nodes, NumberedObject.numbers]
  | .anonymous own properties => by
      rw [NumberedObject.nodes, NumberedObject.numbers, List.mem_cons, List.mem_cons,
        BlankNode.bracket.injEq, bracket_mem_nodesOf number properties]

theorem bracket_mem_nodesOf (number : Nat) :
    ∀ properties : List (Iri × NumberedObject),
      .bracket number ∈ nodesOf properties ↔ number ∈ numbersOf properties
  | [] => by simp [nodesOf, numbersOf]
  | (name, object) :: others => by
      rw [nodesOf, numbersOf, List.mem_append, List.mem_append, object.bracket_mem_nodes number,
        bracket_mem_nodesOf number others]

end

theorem NumberedStatement.bracket_mem_nodes (number : Nat) (statement : NumberedStatement) :
    .bracket number ∈ statement.nodes ↔ number ∈ statement.numbers := by
  cases statement with
  | declare label reference => simp [nodes, numbers]
  | rebase reference => simp [nodes, numbers]
  | triples subject properties =>
      have own : .bracket number ∈ subject.nodes ↔ number ∈ subject.numbers := by
        cases subject with
        | iri name => simp [NumberedSubject.nodes, NumberedSubject.numbers]
        | blank label => simp [NumberedSubject.nodes, NumberedSubject.numbers]
        | anonymous first inside =>
            simp [NumberedSubject.nodes, NumberedSubject.numbers, bracket_mem_nodesOf]
      rw [nodes, numbers, List.mem_append, List.mem_append, own, bracket_mem_nodesOf]

theorem bracket_mem_nodesIn {document : List NumberedStatement} {number : Nat} :
    .bracket number ∈ nodesIn document ↔
      number ∈ document.flatMap NumberedStatement.numbers := by
  simp only [nodesIn, List.mem_flatMap, NumberedStatement.bracket_mem_nodes]

/-! ## What a document says of its nodes -/

/-- What stands at an end of a fact: a node, or the text of something that has a name or a value. -/
inductive Entity where
  | value (text : String)
  | blank (node : BlankNode)

def Entity.text : Entity → String
  | .value text => text
  | .blank node => node.identifier

def Entity.nodes : Entity → List BlankNode
  | .value _ => []
  | .blank node => [node]

/-- A fact whose blank nodes have not been replaced by their identifiers. -/
structure Link where
  subject : Entity
  predicate : String
  object : Entity
  datatype : Option String
  language : Option String

def Link.fact (link : Link) : Fact :=
  ⟨link.subject.text, link.predicate, link.object.text, link.datatype, link.language⟩

def Link.nodes (link : Link) : List BlankNode :=
  link.subject.nodes ++ link.object.nodes

def saidWith {α : Type} (value : Except Error α) (more : α → List Link) : List Link :=
  match value with
  | .ok found => more found
  | .error _ => []

mutual

def NumberedObject.links (scope : Scope) (subject : Entity) (predicate : String) :
    NumberedObject → List Link
  | .iri name =>
    saidWith (scope.expand name) fun value => [⟨subject, predicate, .value value, none, none⟩]
  | .blank label => [⟨subject, predicate, .blank (.labelled label), none, none⟩]
  | .literal value language datatype =>
    saidWith (scope.expandDatatype datatype) fun datatype =>
      [⟨subject, predicate, .value value, datatype, language⟩]
  | .anonymous number properties =>
    ⟨subject, predicate, .blank (.bracket number), none, none⟩ ::
      linksOf scope (.blank (.bracket number)) properties

def linksOf (scope : Scope) (subject : Entity) : List (Iri × NumberedObject) → List Link
  | [] => []
  | (name, object) :: others =>
    saidWith (scope.expand name) fun predicate =>
      object.links scope subject predicate ++ linksOf scope subject others

end

def NumberedSubject.links (scope : Scope) (properties : List (Iri × NumberedObject)) :
    NumberedSubject → List Link
  | .iri name =>
    saidWith (scope.expand name) fun subject => linksOf scope (.value subject) properties
  | .blank label => linksOf scope (.blank (.labelled label)) properties
  | .anonymous number own =>
    linksOf scope (.blank (.bracket number)) own ++
      linksOf scope (.blank (.bracket number)) properties

def linksIn (scope : Scope) : List NumberedStatement → List Link
  | [] => []
  | .declare label reference :: others =>
    saidWith (scope.resolve reference) fun iri =>
      linksIn { scope with prefixes := scope.prefixes.insert label iri } others
  | .rebase reference :: others =>
    saidWith (scope.resolve reference) fun iri => linksIn { scope with base := some iri } others
  | .triples subject properties :: others =>
    subject.links scope properties ++ linksIn scope others

theorem exists_of_mem_saidWith {α : Type} {value : Except Error α} {more : α → List Link}
    {link : Link} (said : link ∈ saidWith value more) : ∃ found, link ∈ more found := by
  cases value with
  | ok found => exact ⟨found, said⟩
  | error error => cases said

mutual

theorem NumberedObject.nodes_of_mem_links (scope : Scope) (subject : Entity) (predicate : String)
    {link : Link} {node : BlankNode} (among : node ∈ link.nodes) :
    ∀ object : NumberedObject, link ∈ object.links scope subject predicate →
      node ∈ subject.nodes ∨ node ∈ object.nodes
  | .iri name, said => by
      obtain ⟨value, said⟩ := exists_of_mem_saidWith said
      rw [List.mem_singleton.1 said] at among
      exact .inl (by simpa [Link.nodes, Entity.nodes] using among)
  | .blank label, said => by
      rw [List.mem_singleton.1 said] at among
      exact List.mem_append.1 among
  | .literal value language datatype, said => by
      obtain ⟨datatype, said⟩ := exists_of_mem_saidWith said
      rw [List.mem_singleton.1 said] at among
      exact .inl (by simpa [Link.nodes, Entity.nodes] using among)
  | .anonymous number properties, said => by
      rw [NumberedObject.nodes]
      rcases List.mem_cons.1 said with rfl | said
      · rcases List.mem_append.1 among with about | own
        · exact .inl about
        · exact .inr (List.mem_cons.2 (.inl (List.mem_singleton.1 own)))
      · rcases nodes_of_mem_linksOf scope (.blank (.bracket number)) among properties said
          with own | inside
        · exact .inr (List.mem_cons.2 (.inl (List.mem_singleton.1 own)))
        · exact .inr (List.mem_cons_of_mem _ inside)

theorem nodes_of_mem_linksOf (scope : Scope) (subject : Entity) {link : Link} {node : BlankNode}
    (among : node ∈ link.nodes) :
    ∀ properties : List (Iri × NumberedObject), link ∈ linksOf scope subject properties →
      node ∈ subject.nodes ∨ node ∈ nodesOf properties
  | [], said => by cases said
  | (name, object) :: others, said => by
      obtain ⟨predicate, said⟩ := exists_of_mem_saidWith said
      rw [nodesOf, List.mem_append]
      rcases List.mem_append.1 said with first | later
      · have held := object.nodes_of_mem_links scope subject predicate among first
        exact held.imp_right .inl
      · have held := nodes_of_mem_linksOf scope subject among others later
        exact held.imp_right .inr

end

theorem NumberedSubject.nodes_of_mem_links (scope : Scope)
    (properties : List (Iri × NumberedObject)) (subject : NumberedSubject) {link : Link}
    {node : BlankNode} (among : node ∈ link.nodes)
    (said : link ∈ subject.links scope properties) :
    node ∈ subject.nodes ++ nodesOf properties := by
  rw [List.mem_append]
  cases subject with
  | iri name =>
      obtain ⟨about, said⟩ := exists_of_mem_saidWith said
      have held := nodes_of_mem_linksOf scope (.value about) among properties said
      exact held.imp_left (by simp [Entity.nodes])
  | blank label =>
      exact nodes_of_mem_linksOf scope (.blank (.labelled label)) among properties said
  | anonymous number own =>
      rw [NumberedSubject.nodes, List.mem_cons]
      rcases List.mem_append.1 said with inside | behind
      · have held := nodes_of_mem_linksOf scope (.blank (.bracket number)) among own inside
        exact .inl (held.imp_left List.mem_singleton.1)
      · have held := nodes_of_mem_linksOf scope (.blank (.bracket number)) among properties behind
        exact held.imp_left fun first => .inl (List.mem_singleton.1 first)

/-- A document speaks of no other nodes than its own. -/
theorem nodes_of_mem_linksIn {link : Link} {node : BlankNode} (among : node ∈ link.nodes)
    (document : List NumberedStatement) :
    ∀ scope, link ∈ linksIn scope document → node ∈ nodesIn document := by
  induction document with
  | nil => exact fun scope said => by cases said
  | cons statement others inductionHypothesis =>
      intro scope said
      rw [nodesIn, List.flatMap_cons, List.mem_append]
      cases statement with
      | declare label reference =>
          obtain ⟨iri, said⟩ := exists_of_mem_saidWith said
          exact .inr (inductionHypothesis _ said)
      | rebase reference =>
          obtain ⟨iri, said⟩ := exists_of_mem_saidWith said
          exact .inr (inductionHypothesis _ said)
      | triples subject properties =>
          rcases List.mem_append.1 said with first | later
          · exact .inl (subject.nodes_of_mem_links scope properties among first)
          · exact .inr (inductionHypothesis scope later)

/-! ## The facts of a document without a fault -/

theorem fault?_withValue {α : Type} {value : Except Error α} {more : α → List Step}
    (faultless : fault? (Step.withValue value more) = none) :
    ∃ found, value = .ok found ∧ fault? (more found) = none := by
  cases value with
  | ok found => exact ⟨found, rfl, faultless⟩
  | error error => simp [Step.withValue, fault?] at faultless

theorem fault?_append {steps others : List Step} (faultless : fault? (steps ++ others) = none) :
    fault? steps = none ∧ fault? others = none := by
  cases fault : fault? steps with
  | some error =>
      obtain ⟨_, _, same⟩ := steps_append_of_fault others fault
      rw [same] at faultless
      cases faultless
  | none =>
      obtain ⟨_, _, same⟩ := steps_append others fault
      exact ⟨rfl, same ▸ faultless⟩

mutual

theorem NumberedObject.toldFacts_steps (scope : Scope) (subject : Entity) (predicate : String) :
    ∀ object : NumberedObject, fault? (object.steps scope subject.text predicate) = none →
      toldFacts (object.steps scope subject.text predicate) =
        (object.links scope subject predicate).map Link.fact
  | .iri name, faultless => by
      obtain ⟨value, expanded, _⟩ := fault?_withValue faultless
      rw [NumberedObject.steps, NumberedObject.links, expanded]
      rfl
  | .blank label, _ => rfl
  | .literal value language datatype, faultless => by
      obtain ⟨found, expanded, _⟩ := fault?_withValue faultless
      rw [NumberedObject.steps, NumberedObject.links, expanded]
      rfl
  | .anonymous number properties, faultless => by
      have inside := toldFacts_stepsOf scope (.blank (.bracket number)) properties faultless
      exact congrArg (List.cons _) inside

theorem toldFacts_stepsOf (scope : Scope) (subject : Entity) :
    ∀ properties : List (Iri × NumberedObject),
      fault? (stepsOf scope subject.text properties) = none →
      toldFacts (stepsOf scope subject.text properties) =
        (linksOf scope subject properties).map Link.fact
  | [], _ => rfl
  | (name, object) :: others, faultless => by
      obtain ⟨predicate, expanded, faultless⟩ := fault?_withValue faultless
      obtain ⟨first, later⟩ := fault?_append faultless
      have behind := toldFacts_stepsOf scope subject others later
      rw [stepsOf, linksOf, expanded, Step.withValue, saidWith, (steps_append _ first).2.1,
        object.toldFacts_steps scope subject predicate first, behind, List.map_append]

end

theorem NumberedSubject.toldFacts_steps (scope : Scope)
    (properties : List (Iri × NumberedObject)) (subject : NumberedSubject)
    (faultless : fault? (subject.steps scope properties) = none) :
    toldFacts (subject.steps scope properties) =
      (subject.links scope properties).map Link.fact := by
  cases subject with
  | iri name =>
      obtain ⟨about, expanded, faultless⟩ := fault?_withValue faultless
      rw [NumberedSubject.steps, NumberedSubject.links, expanded]
      exact toldFacts_stepsOf scope (.value about) properties faultless
  | blank label => exact toldFacts_stepsOf scope (.blank (.labelled label)) properties faultless
  | anonymous number own =>
      obtain ⟨first, later⟩ := fault?_append faultless
      have inside := toldFacts_stepsOf scope (.blank (.bracket number)) own first
      have behind := toldFacts_stepsOf scope (.blank (.bracket number)) properties later
      rw [NumberedSubject.steps, NumberedSubject.links, List.map_append, ← inside, ← behind]
      exact (steps_append _ first).2.1

theorem toldFacts_documentSteps (document : List NumberedStatement) :
    ∀ scope, fault? (documentSteps scope document) = none →
      toldFacts (documentSteps scope document) = (linksIn scope document).map Link.fact := by
  induction document with
  | nil => exact fun scope _ => rfl
  | cons statement others inductionHypothesis =>
      intro scope faultless
      cases statement with
      | declare label reference =>
          obtain ⟨iri, resolved, faultless⟩ := fault?_withValue faultless
          rw [documentSteps, linksIn, resolved]
          exact inductionHypothesis _ faultless
      | rebase reference =>
          obtain ⟨iri, resolved, faultless⟩ := fault?_withValue faultless
          rw [documentSteps, linksIn, resolved]
          exact inductionHypothesis _ faultless
      | triples subject properties =>
          obtain ⟨first, later⟩ := fault?_append faultless
          rw [documentSteps, linksIn, (steps_append _ first).2.1,
            subject.toldFacts_steps scope properties first, inductionHypothesis scope later,
            List.map_append]

/-- Telling a document without a fault puts identifiers in the place of the nodes of what it says,
and uses up one number for each of its brackets. -/
theorem tell_eq_links {next : Nat} {text : String} (faultless : (tell next text).error = none) :
    ∃ found, parseStatements text = .ok found ∧
      tell next text =
        ⟨(linksIn .initial (numberStatements next found)).map Link.fact,
          next + bracketsIn found, none⟩ := by
  have told := tell_eq next text
  rw [told] at faultless
  obtain ⟨found, parsed, free⟩ := fault?_withValue faultless
  have steps : textSteps next text = documentSteps .initial (numberStatements next found) := by
    rw [textSteps, parsed]
    rfl
  have reached := (documentSteps_leads found .initial next).first_add_length free
  have facts := toldFacts_documentSteps (numberStatements next found) .initial free
  refine ⟨found, parsed, ?_⟩
  rw [told, steps, Telling.ofSteps, reached, facts, free]

/-! ## When nodes stay apart -/

/-- Different nodes have different identifiers. -/
def AreApart (nodes : List BlankNode) : Prop :=
  ∀ node ∈ nodes, ∀ other ∈ nodes, node.identifier = other.identifier → node = other

theorem areApart_iff {nodes : List BlankNode} :
    AreApart nodes ↔
      ∀ number, .bracket number ∈ nodes → .labelled ("anon" ++ toString number) ∉ nodes := by
  constructor
  · intro apart number bracket clash
    have same : (BlankNode.labelled ("anon" ++ toString number)).identifier =
        (BlankNode.bracket number).identifier :=
      (blankId_eq_anonymousId_iff _ number).2 rfl
    cases apart _ clash _ bracket same
  · intro free node among other otherAmong same
    cases node with
    | labelled label =>
        cases other with
        | labelled other => rw [blankId_injective same]
        | bracket number =>
            have spelled := (blankId_eq_anonymousId_iff label number).1 same
            exact absurd (spelled ▸ among) (free number otherAmong)
    | bracket number =>
        cases other with
        | labelled label =>
            have spelled := (blankId_eq_anonymousId_iff label number).1 same.symm
            exact absurd (spelled ▸ otherAmong) (free number among)
        | bracket other => rw [anonymousId_injective same]

/-- A document that is told without a fault says something of its own blank nodes, and its facts are
what it says with the identifiers in their place.  Different nodes have different identifiers there,
wherever they stand, exactly if no label is `anon` followed by the number of one of the brackets. -/
theorem tell_keeps_apart_iff (next : Nat) (text : String)
    (faultless : (tell next text).error = none) :
    ∃ found document,
      parseStatements text = .ok found ∧
      document = numberStatements next found ∧
      document.map NumberedStatement.erase = found ∧
      document.flatMap NumberedStatement.numbers = List.range' next (bracketsIn found) ∧
      tell next text =
        ⟨(linksIn .initial document).map Link.fact, next + bracketsIn found, none⟩ ∧
      (∀ link ∈ linksIn .initial document, ∀ node ∈ link.nodes, node ∈ nodesIn document) ∧
      (AreApart (nodesIn document) ↔
        ∀ number, next ≤ number → number < next + bracketsIn found →
          .labelled ("anon" ++ toString number) ∉ nodesIn document) := by
  obtain ⟨found, parsed, told⟩ := tell_eq_links faultless
  have numbers := numbers_numberStatements found next
  refine ⟨found, numberStatements next found, parsed, rfl, ?_, numbers, told, ?_, ?_⟩
  · exact map_erase_numberStatements found next
  · intro link said node among
    exact nodes_of_mem_linksIn among (numberStatements next found) .initial said
  · rw [areApart_iff]
    apply forall_congr'
    intro number
    rw [bracket_mem_nodesIn, numbers, List.mem_range'_1, and_imp]

/-- The label `anon2` is free, since the brackets have the numbers 0 and 1. -/
theorem tell_keeps_apart_nested :
    let text := "_:anon2 <p> [ <q> [ <r> _:b ] ] ."
    (tell 0 text).error = none ∧
      ∃ document : List NumberedStatement,
        parseStatements text = .ok (document.map NumberedStatement.erase) ∧
        nodesIn document = [.labelled "anon2", .bracket 0, .bracket 1, .labelled "b"] ∧
        (tell 0 text).facts = (linksIn .initial document).map Link.fact ∧
        AreApart (nodesIn document) := by
  intro text
  have faultless : (tell 0 text).error = none := by decide +kernel
  obtain ⟨found, document, parsed, numbered, erased, _, told, _, apart⟩ :=
    tell_keeps_apart_iff 0 text faultless
  have shown : (parseStatements text).toOption.map
      (fun found => (bracketsIn found, nodesIn (numberStatements 0 found))) =
        some (2, [.labelled "anon2", .bracket 0, .bracket 1, .labelled "b"]) := by
    decide +kernel
  rw [parsed] at shown
  obtain ⟨brackets, nodes⟩ := Prod.mk.inj (Option.some.inj shown)
  rw [← numbered] at nodes
  refine ⟨faultless, document, by rw [parsed, erased], nodes, by rw [told], apart.2 ?_⟩
  intro number _ below
  rw [brackets] at below
  rw [nodes]
  have either : number = 0 ∨ number = 1 := by omega
  rcases either with rfl | rfl <;> decide +kernel

/-- A label may be spelled like the bracket behind it.  The two nodes are one in the store then, and
a join finds a node that has both what is said of the one and what is said of the other. -/
theorem tell_merges_nodes :
    let text := "_:anon0 <p> \"1\" . [ <q> \"2\" ] ."
    let first : TriplePattern :=
      ⟨.term (.variable "x"), .term (.iri (.full "p")), .term (.variable "a")⟩
    let second : TriplePattern :=
      ⟨.term (.variable "x"), .term (.iri (.full "q")), .term (.variable "b")⟩
    (¬∀ next text document, (tell next text).error = none →
      parseStatements text = .ok (document.map NumberedStatement.erase) →
      document.flatMap NumberedStatement.numbers =
        List.range' next (document.flatMap NumberedStatement.numbers).length →
      ∀ number label, .bracket number ∈ nodesIn document → .labelled label ∈ nodesIn document →
        anonymousId number ≠ blankId label) ∧
      (tell 0 text).facts =
        [⟨"_:anon0", "p", "1", none, none⟩, ⟨"_:anon0", "q", "2", none, none⟩] ∧
      (joinPatterns (tell 0 text).facts .empty [first, second]).toOption.map Joined.rows =
        some [.ofList [("x", some "_:anon0"), ("a", some "1"), ("b", some "2")]] := by
  intro text first second
  refine ⟨fun always => ?_, by decide +kernel, by decide +kernel⟩
  have faultless : (tell 0 text).error = none := by decide +kernel
  obtain ⟨found, parsed, _⟩ := tell_eq_links faultless
  have shown : (parseStatements text).toOption.map
      (fun found => nodesIn (numberStatements 0 found)) =
        some [.labelled "anon0", .bracket 0] := by
    decide +kernel
  rw [parsed] at shown
  have nodes : nodesIn (numberStatements 0 found) = [.labelled "anon0", .bracket 0] :=
    Option.some.inj shown
  have numbers := numbers_numberStatements found 0
  refine always 0 text (numberStatements 0 found) faultless ?_ ?_ 0 "anon0" ?_ ?_ rfl
  · rw [parsed, map_erase_numberStatements]
  · rw [numbers, List.length_range']
  · simp [nodes]
  · simp [nodes]

end FactQuery.Turtle
