import FactQuery.Proofs.Sparql.WellFormed

/-!
# The terms of a tree

A syntax tree holds terms at every depth.  Listed in the order in which they are written, they tell
all its names, and putting neighbouring runs of patterns together leaves the list as it is.
-/

set_option autoImplicit false

namespace FactQuery.Sparql

def Term.names (term : Term) : List Iri :=
  (Node.term term).iris

namespace Node

mutual

/-- The terms at every depth, in the order in which they are written. -/
def terms : Node → List Term
  | .term value => [value]
  | .binary _ left right => left.terms ++ right.terms
  | .logical _ operands => termsOf operands
  | .call _ arguments => termsOf arguments
  | .filter condition => condition.terms
  | .triples patterns => termsOfTriples patterns
  | .group body => termsOf body
  | .optional body => termsOf body
  | .union alternatives => termsOfGroups alternatives

def termsOf : List Node → List Term
  | [] => []
  | first :: others => first.terms ++ termsOf others

def termsOfTriple : Triple Node → List Term
  | ⟨subject, predicate, object⟩ => subject.terms ++ predicate.terms ++ object.terms

def termsOfTriples : List (Triple Node) → List Term
  | [] => []
  | first :: others => termsOfTriple first ++ termsOfTriples others

def termsOfGroups : List (List Node) → List Term
  | [] => []
  | first :: others => termsOf first ++ termsOfGroups others

end

mutual

theorem iris_eq_terms : ∀ node : Node, node.iris = node.terms.flatMap Term.names
  | .term value => by rw [terms, List.flatMap_singleton, Term.names]
  | .binary _ left right => by
      rw [iris, terms, List.flatMap_append, iris_eq_terms left, iris_eq_terms right]
  | .logical _ operands => by rw [iris, terms, irisOf_eq_terms operands]
  | .call _ arguments => by rw [iris, terms, irisOf_eq_terms arguments]
  | .filter condition => by rw [iris, terms, iris_eq_terms condition]
  | .triples patterns => by rw [iris, terms, irisOfTriples_eq_terms patterns]
  | .group body => by rw [iris, terms, irisOf_eq_terms body]
  | .optional body => by rw [iris, terms, irisOf_eq_terms body]
  | .union alternatives => by rw [iris, terms, irisOfGroups_eq_terms alternatives]

theorem irisOf_eq_terms : ∀ nodes : List Node, irisOf nodes = (termsOf nodes).flatMap Term.names
  | [] => rfl
  | first :: others => by
      rw [irisOf, termsOf, List.flatMap_append, iris_eq_terms first, irisOf_eq_terms others]

theorem irisOfTriple_eq_terms : ∀ pattern : Triple Node,
    irisOfTriple pattern = (termsOfTriple pattern).flatMap Term.names
  | ⟨subject, predicate, object⟩ => by
      rw [irisOfTriple, termsOfTriple, List.flatMap_append, List.flatMap_append,
        iris_eq_terms subject, iris_eq_terms predicate, iris_eq_terms object]

theorem irisOfTriples_eq_terms : ∀ patterns : List (Triple Node),
    irisOfTriples patterns = (termsOfTriples patterns).flatMap Term.names
  | [] => rfl
  | first :: others => by
      rw [irisOfTriples, termsOfTriples, List.flatMap_append, irisOfTriple_eq_terms first,
        irisOfTriples_eq_terms others]

theorem irisOfGroups_eq_terms : ∀ groups : List (List Node),
    irisOfGroups groups = (termsOfGroups groups).flatMap Term.names
  | [] => rfl
  | first :: others => by
      rw [irisOfGroups, termsOfGroups, List.flatMap_append, irisOf_eq_terms first,
        irisOfGroups_eq_terms others]

end

theorem termsOf_eq_flatMap (nodes : List Node) : termsOf nodes = nodes.flatMap terms := by
  induction nodes with
  | nil => rfl
  | cons node others inductionHypothesis => rw [termsOf, inductionHypothesis, List.flatMap_cons]

theorem termsOfTriples_eq_flatMap (patterns : List TriplePattern) :
    termsOfTriples patterns = patterns.flatMap termsOfTriple := by
  induction patterns with
  | nil => rfl
  | cons pattern others inductionHypothesis =>
      rw [termsOfTriples, inductionHypothesis, List.flatMap_cons]

theorem termsOfGroups_eq_flatMap (groups : List (List Node)) :
    termsOfGroups groups = groups.flatMap termsOf := by
  induction groups with
  | nil => rfl
  | cons group others inductionHypothesis =>
      rw [termsOfGroups, inductionHypothesis, List.flatMap_cons]

end Node

open Node

theorem termsOf_mergeRuns (entries : List Node) :
    termsOf (mergeRuns entries) = termsOf entries := by
  induction entries with
  | nil => rfl
  | cons first others inductionHypothesis =>
      cases kind : first.isRun with
      | false => rw [mergeRuns_cons kind, termsOf, termsOf, inductionHypothesis]
      | true =>
          obtain ⟨patterns, rfl⟩ := eq_triples_of_isRun kind
          rw [mergeRuns, termsOf, ← inductionHypothesis]
          split
          · rename_i more behind merged
            rw [merged, termsOf, termsOf, terms, terms, terms, termsOfTriples_eq_flatMap,
              termsOfTriples_eq_flatMap, termsOfTriples_eq_flatMap, List.flatMap_append,
              List.append_assoc]
          · rw [termsOf]

end FactQuery.Sparql
