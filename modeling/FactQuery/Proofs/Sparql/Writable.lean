import FactQuery.Proofs.Sparql.WellFormed

/-!
# Every filter that is read can be written

The only node without a text is a negation that has nothing to negate, and the grammar never builds
one.  So an operand that a filter cannot evaluate can always be told.
-/

set_option autoImplicit false

namespace FactQuery.Sparql

open FactQuery.Grammar

theorem areWritable_iff {nodes : List Node} :
    Node.areWritable nodes = true ↔ ∀ node ∈ nodes, node.isWritable = true := by
  induction nodes with
  | nil => simp [Node.areWritable]
  | cons node others inductionHypothesis => simp [Node.areWritable, inductionHypothesis]

/-! ## Levels of an expression -/

theorem leftChain_writable {parser : Parser Node} {operator : Parser String}
    (each : Yields parser fun node => node.isWritable = true) :
    Yields (Parser.leftChain operator .binary parser) fun node => node.isWritable = true := by
  have signs : Yields operator fun _ => True := fun _ _ _ _ => trivial
  refine Yields.leftChain signs each ?_
  intro sign left right _ leftGood rightGood
  rw [Node.isWritable, leftGood, rightGood, Bool.true_and]

theorem connected_writable {connective : Connective} {parser : Parser Node}
    (notNegation : connective ≠ .not) (each : Yields parser fun node => node.isWritable = true) :
    Yields (connected connective parser) fun node => node.isWritable = true := by
  have operands : Yields (Parser.separated1 (symbol connective.symbol) parser) fun nodes =>
      nodes ≠ [] ∧ ∀ node ∈ nodes, node.isWritable = true := each.separated1
  refine operands.bind fun nodes areGood => ?_
  split
  · exact Yields.pure (areGood.2 _ (List.mem_singleton.2 rfl))
  · refine Yields.pure ?_
    cases connective with
    | not => exact absurd rfl notNegation
    | and => exact areWritable_iff.2 areGood.2
    | or => exact areWritable_iff.2 areGood.2

section Levels

variable {inner : Parser Node} (deeper : Yields inner fun node => node.isWritable = true)

include deeper

theorem functionCall_writable : Yields (functionCall inner) fun node => node.isWritable = true := by
  have arguments : Yields (Parser.separated1 (symbol ",") inner) fun nodes =>
      nodes ≠ [] ∧ ∀ node ∈ nodes, node.isWritable = true := deeper.separated1
  refine Yields.after fun _ => Yields.after fun _ => arguments.optional.bind fun found areGood => ?_
  refine Yields.after fun _ => Yields.pure ?_
  rw [Node.isWritable, areWritable_iff]
  cases found with
  | none => simp
  | some nodes => exact (areGood nodes rfl).2

theorem parenthesised_writable :
    Yields (parenthesised inner) fun node => node.isWritable = true :=
  Yields.after fun _ => deeper.bind fun _ isGood => Yields.after fun _ => Yields.pure isGood

theorem operand_writable : Yields (operand inner) fun node => node.isWritable = true := by
  have term : ∀ parser : Parser Term, Yields (Node.term <$> parser) fun node =>
      node.isWritable = true :=
    fun parser => Yields.after fun _ => Yields.pure rfl
  refine Yields.firstOf ?_
  simp only [List.forall_mem_cons]
  exact ⟨functionCall_writable deeper, Yields.after fun _ => Yields.pure rfl, term _, term _,
    term _, Yields.after fun _ => Yields.pure rfl, parenthesised_writable deeper, by simp⟩

theorem product_writable : Yields (product inner) fun node => node.isWritable = true :=
  leftChain_writable (operand_writable deeper)

theorem sum_writable : Yields (sum inner) fun node => node.isWritable = true :=
  leftChain_writable (product_writable deeper)

theorem comparison_writable : Yields (comparison inner) fun node => node.isWritable = true := by
  have right : Yields (do
      let operator ← comparisonOperator
      let right ← sum inner
      return (operator, right)) fun behind => behind.2.isWritable = true :=
    Yields.after fun _ => (sum_writable deeper).bind fun _ isGood => Yields.pure isGood
  refine (sum_writable deeper).bind fun left leftGood => right.optional.bind fun behind isGood => ?_
  cases behind with
  | none => exact Yields.pure leftGood
  | some pair =>
      refine Yields.pure ?_
      rw [Node.isWritable, leftGood, isGood pair rfl, Bool.true_and]

theorem negation_writable : Yields (negation inner) fun node => node.isWritable = true := by
  refine Yields.after fun sign => (comparison_writable deeper).bind fun node isGood => ?_
  split
  · exact Yields.pure isGood
  · exact Yields.pure isGood

end Levels

theorem expression_writable : Yields expression fun node => node.isWritable = true := by
  refine Ensures.yields (Ensures.nested fun inner deeper => Yields.ensures ?_)
  exact connected_writable (by decide) (connected_writable (by decide)
    (negation_writable deeper.yields))

/-! ## Filters of a query -/

/-- A filter has a condition that can be written. -/
def Node.IsWritableFilter : Node → Prop
  | .filter condition => condition.isWritable = true
  | _ => True

theorem entry_writable (inner : Parser Group) : Yields (entry inner) Node.IsWritableFilter := by
  have condition : Yields (Parser.firstOf [parenthesised expression, functionCall expression])
      fun node => node.isWritable = true := by
    refine Yields.firstOf ?_
    simp only [List.forall_mem_cons]
    exact ⟨parenthesised_writable expression_writable, functionCall_writable expression_writable,
      by simp⟩
  refine Yields.firstOf ?_
  simp only [List.forall_mem_cons]
  refine ⟨?_, ?_, ?_, ?_, by simp⟩
  · exact Yields.after fun _ => condition.bind fun _ isGood => Yields.after fun _ =>
      Yields.pure isGood
  · exact Yields.after fun _ => Yields.after fun _ => Yields.after fun _ => Yields.pure trivial
  · refine Yields.after fun alternatives => Yields.after fun _ => ?_
    split
    · exact Yields.pure trivial
    · exact Yields.pure trivial
  · exact Yields.after fun _ => Yields.after fun _ => Yields.pure trivial

theorem group_writable : Yields group fun body => ∀ entry ∈ body, entry.IsWritableFilter := by
  refine Ensures.yields (Ensures.nested fun inner _ => Yields.ensures ?_)
  exact Yields.after fun _ => (entry_writable inner).many.bind fun _ areWritable =>
    Yields.after fun _ => Yields.pure (mergeRuns_keeps (fun _ _ _ _ => trivial) areWritable)

theorem query_writable :
    Yields query fun found => ∀ entry ∈ found.group, entry.IsWritableFilter := by
  have whole : Yields whereGroup fun body => ∀ entry ∈ body, entry.IsWritableFilter :=
    Yields.after fun _ => group_writable
  have form : Yields (Parser.firstOf [selectForm, askForm]) fun form => ∀ prefixes,
      ∀ entry ∈ (Query.mk prefixes form).group, entry.IsWritableFilter := by
    refine Yields.firstOf ?_
    simp only [List.forall_mem_cons]
    refine ⟨?_, ?_, by simp⟩
    · exact Yields.after fun _ => Yields.after fun _ => Yields.after fun _ =>
        whole.bind fun _ areGood => Yields.after fun _ => Yields.after fun _ =>
          Yields.pure fun _ => areGood
    · exact Yields.after fun _ => whole.bind fun _ areGood => Yields.pure fun _ => areGood
  exact Yields.after fun declared => form.bind fun _ areGood => Yields.after fun _ =>
    Yields.pure (areGood _)

/-- Every filter of a query that is read from a text can be written. -/
theorem Query.isWritableFilter_of_ofText {text : String} {found : Query}
    (read : Query.ofText text = .ok found) : ∀ entry ∈ found.group, entry.IsWritableFilter :=
  Query.good_of_ofText query_writable read

end FactQuery.Sparql
