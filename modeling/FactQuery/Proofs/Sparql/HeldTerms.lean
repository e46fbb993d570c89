import FactQuery.Proofs.Sparql.LiteralTerms

/-!
# Terms that a query holds

Whatever stands in a query that was read, at any depth, was read by a token.  So the names in it
are such as tokens can write, and a literal carries a language tag or the name of a datatype, never
both.
-/

set_option autoImplicit false

namespace FactQuery.Sparql

open FactQuery.Grammar Node

/-- Every term of a tree is well formed. -/
def Node.HoldsWellFormed (node : Node) : Prop :=
  ∀ term ∈ node.terms, term.IsWellFormed

theorem forall_mem_termsOf {nodes : List Node} (each : ∀ node ∈ nodes, node.HoldsWellFormed) :
    ∀ term ∈ termsOf nodes, term.IsWellFormed := by
  intro term held
  rw [termsOf_eq_flatMap, List.mem_flatMap] at held
  obtain ⟨node, inside, held⟩ := held
  exact each node inside term held

theorem holdsWellFormed_term {term : Term} (wellFormed : term.IsWellFormed) :
    (Node.term term).HoldsWellFormed := by
  intro other held
  rw [terms, List.mem_singleton] at held
  rwa [held]

/-! ## Expressions -/

theorem leftChain_holds {operator : Parser String} {parser : Parser Node}
    (each : Yields parser HoldsWellFormed) :
    Yields (Parser.leftChain operator .binary parser) HoldsWellFormed := by
  have signs : Yields operator fun _ => True := fun _ _ _ _ => trivial
  refine Yields.leftChain signs each fun sign left right _ leftHolds rightHolds => ?_
  rw [HoldsWellFormed, terms, List.forall_mem_append]
  exact ⟨leftHolds, rightHolds⟩

theorem connected_holds {connective : Connective} {parser : Parser Node}
    (each : Yields parser HoldsWellFormed) : Yields (connected connective parser) HoldsWellFormed := by
  refine each.separated1.bind fun operands areGood => ?_
  split
  · exact Yields.pure (areGood.2 _ (List.mem_singleton.2 rfl))
  · refine Yields.pure ?_
    rw [HoldsWellFormed, terms]
    exact forall_mem_termsOf areGood.2

section Levels

variable {inner : Parser Node} (deeper : Yields inner HoldsWellFormed)

include deeper

theorem functionCall_holds : Yields (functionCall inner) HoldsWellFormed := by
  refine Yields.after fun name => Yields.after fun _ => ?_
  refine deeper.separated1.optional.bind fun found areGood => Yields.after fun _ => Yields.pure ?_
  rw [HoldsWellFormed, terms]
  apply forall_mem_termsOf
  cases found with
  | none => simp
  | some arguments => exact (areGood arguments rfl).2

theorem parenthesised_holds : Yields (parenthesised inner) HoldsWellFormed :=
  Yields.after fun _ => deeper.bind fun _ holds => Yields.after fun _ => Yields.pure holds

theorem operand_holds : Yields (operand inner) HoldsWellFormed := by
  have literal : ∀ {parser : Parser Term}, Yields parser Term.IsLiteral →
      Yields (Node.term <$> parser) HoldsWellFormed :=
    fun yields => yields.map fun _ isLiteral => holdsWellFormed_term isLiteral.1
  refine Yields.firstOf ?_
  simp only [List.forall_mem_cons]
  refine ⟨functionCall_holds deeper, ?_, literal quotedLiteral_yields, literal number_yields,
    literal boolean_yields, ?_, parenthesised_holds deeper, by simp⟩
  · exact variableName_yields.map fun _ isName => holdsWellFormed_term isName
  · exact iri_yields.map fun _ isName => holdsWellFormed_term isName

theorem sum_holds : Yields (sum inner) HoldsWellFormed :=
  leftChain_holds (leftChain_holds (operand_holds deeper))

theorem comparison_holds : Yields (comparison inner) HoldsWellFormed := by
  have right : Yields (do
      let operator ← comparisonOperator
      let right ← sum inner
      return (operator, right)) fun behind => behind.2.HoldsWellFormed :=
    Yields.after fun _ => (sum_holds deeper).bind fun _ holds => Yields.pure holds
  refine (sum_holds deeper).bind fun left leftHolds => right.optional.bind fun behind holds => ?_
  cases behind with
  | none => exact Yields.pure leftHolds
  | some pair =>
      refine Yields.pure ?_
      rw [HoldsWellFormed, terms, List.forall_mem_append]
      exact ⟨leftHolds, holds pair rfl⟩

theorem negation_holds : Yields (negation inner) HoldsWellFormed := by
  refine Yields.after fun sign => (comparison_holds deeper).bind fun node holds => ?_
  split
  · refine Yields.pure ?_
    rw [HoldsWellFormed, terms]
    apply forall_mem_termsOf
    intro operand inside
    rwa [List.mem_singleton.1 inside]
  · exact Yields.pure holds

end Levels

theorem expression_holds : Yields expression HoldsWellFormed := by
  refine Ensures.yields (Ensures.nested fun inner deeper => Yields.ensures ?_)
  exact connected_holds (connected_holds (negation_holds deeper.yields))

/-! ## Groups -/

theorem holdsWellFormed_of_isEntry {patterns : List TriplePattern}
    (isEntry : (Node.triples patterns).IsEntry) : (Node.triples patterns).HoldsWellFormed := by
  intro term held
  rw [terms, termsOfTriples_eq_flatMap, List.mem_flatMap] at held
  obtain ⟨pattern, inside, held⟩ := held
  obtain ⟨⟨subject, predicate, object⟩, isPattern, rfl⟩ := isEntry.2 pattern inside
  obtain ⟨isSubject, isVerb, isObject⟩ := isPattern
  simp only [Triple.map, termsOfTriple, terms, List.cons_append, List.nil_append, List.mem_cons,
    List.not_mem_nil, or_false] at held
  rcases held with rfl | rfl | rfl
  · exact isSubject
  · exact isVerb.1
  · exact isObject

theorem filterClause_holds : Yields filterClause HoldsWellFormed := by
  have condition : Yields (Parser.firstOf [parenthesised expression, functionCall expression])
      HoldsWellFormed := by
    refine Yields.firstOf ?_
    simp only [List.forall_mem_cons]
    exact ⟨parenthesised_holds expression_holds, functionCall_holds expression_holds, by simp⟩
  refine Yields.after fun _ => condition.bind fun _ holds => Yields.after fun _ => Yields.pure ?_
  rwa [HoldsWellFormed, terms]

section Groups

variable {inner : Parser Group}
  (deeper : Yields inner fun body => ∀ term ∈ termsOf body, term.IsWellFormed)

include deeper

theorem entry_holds : Yields (entry inner) HoldsWellFormed := by
  refine Yields.firstOf ?_
  simp only [List.forall_mem_cons]
  refine ⟨filterClause_holds, ?_, ?_, ?_, by simp⟩
  · refine Yields.after fun _ => deeper.bind fun body areGood => Yields.after fun _ => Yields.pure ?_
    rwa [HoldsWellFormed, terms]
  · refine deeper.separated1.bind fun alternatives areGood => Yields.after fun _ => ?_
    split
    · refine Yields.pure ?_
      rw [HoldsWellFormed, terms]
      exact areGood.2 _ (List.mem_singleton.2 rfl)
    · refine Yields.pure ?_
      intro term held
      rw [terms, termsOfGroups_eq_flatMap, List.mem_flatMap] at held
      obtain ⟨body, inside, held⟩ := held
      exact areGood.2 body inside term held
  · exact triplesSameSubject_yields.bind fun _ isEntry => Yields.after fun _ =>
      Yields.pure (holdsWellFormed_of_isEntry isEntry)

end Groups

theorem group_holds : Yields group fun body => ∀ term ∈ termsOf body, term.IsWellFormed := by
  refine Ensures.yields (Ensures.nested fun inner deeper => Yields.ensures ?_)
  refine Yields.after fun _ => (entry_holds deeper.yields).many.bind fun entries areGood => ?_
  refine Yields.after fun _ => Yields.pure ?_
  rw [termsOf_mergeRuns]
  exact forall_mem_termsOf areGood

/-! ## Queries -/

/-- Every term of a query that is read from a text is well formed, at whatever depth it stands. -/
theorem Query.isWellFormed_of_mem_terms {text : String} {found : Query}
    (read : Query.ofText text = .ok found) :
    ∀ term ∈ termsOf found.group, term.IsWellFormed := by
  have whole : Yields whereGroup fun body => ∀ term ∈ termsOf body, term.IsWellFormed :=
    Yields.after fun _ => group_holds
  have form : Yields (Parser.firstOf [selectForm, askForm]) fun form => ∀ prefixes,
      ∀ term ∈ termsOf (Query.mk prefixes form).group, term.IsWellFormed := by
    refine Yields.firstOf ?_
    simp only [List.forall_mem_cons]
    refine ⟨?_, ?_, by simp⟩
    · exact Yields.after fun _ => Yields.after fun _ => Yields.after fun _ =>
        whole.bind fun _ areGood => Yields.after fun _ => Yields.after fun _ =>
          Yields.pure fun _ => areGood
    · exact Yields.after fun _ => whole.bind fun _ areGood => Yields.pure fun _ => areGood
  have yields : Yields query fun found => ∀ term ∈ termsOf found.group, term.IsWellFormed :=
    Yields.after fun declared => form.bind fun _ areGood => Yields.after fun _ =>
      Yields.pure (areGood _)
  exact Query.good_of_ofText yields read

end FactQuery.Sparql
