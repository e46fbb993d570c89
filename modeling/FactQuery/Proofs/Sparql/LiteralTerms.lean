import FactQuery.Proofs.Sparql.LiteralPlace

/-!
# The terms around a literal

The tree that is read around a literal has the same terms for every literal, and the literal itself
among them.  So the check of its labels does not depend on what the literal is.
-/

set_option autoImplicit false

namespace FactQuery.Sparql

open FactQuery.Grammar

open Node

/-! ## Terms with slots -/

/-- The terms are fixed but for some, one at least, in the place of which the literal stands. -/
def HasSlots (terms : Term → List Term) : Prop :=
  ∃ slots : List (Option Term), none ∈ slots ∧ ∀ literal, terms literal = slots.map (·.getD literal)

namespace HasSlots

variable {terms again : Term → List Term}

theorem single : HasSlots fun literal => [literal] :=
  ⟨[none], List.mem_singleton.2 rfl, fun _ => rfl⟩

theorem among (slots : HasSlots terms) (before after : List Term) :
    HasSlots fun literal => before ++ (terms literal ++ after) := by
  obtain ⟨inside, hasSlot, same⟩ := slots
  refine ⟨before.map some ++ (inside ++ after.map some), by simp [hasSlot], fun literal => ?_⟩
  simp [same, Function.comp_def]

theorem congr (slots : HasSlots terms) (same : ∀ literal, again literal = terms literal) :
    HasSlots again := by
  rwa [funext same]

theorem mem (slots : HasSlots terms) (literal : Term) : literal ∈ terms literal := by
  obtain ⟨inside, hasSlot, same⟩ := slots
  rw [same]
  exact List.mem_map.2 ⟨none, hasSlot, rfl⟩

theorem names_eq (slots : HasSlots terms) {one other : Term}
    (nameless : one.names = [] ∧ other.names = []) :
    (terms one).flatMap Term.names = (terms other).flatMap Term.names := by
  obtain ⟨inside, -, same⟩ := slots
  rw [same, same, List.flatMap_map, List.flatMap_map]
  congr 1
  funext slot
  cases slot with
  | none => rw [Option.getD_none, Option.getD_none, nameless.1, nameless.2]
  | some term => rfl

end HasSlots

/-! ## From the literal to the query -/

/-- What the rules on the way hold; predications are still to be given their subject. -/
def Rule.HasSlots : (rule : Rule) → (Term → rule.Value) → Prop
  | .predications, fill => ∃ slots : List (Term × Option Term), none ∈ slots.map Prod.snd ∧
      ∀ literal, fill literal = slots.map fun slot => (slot.1, slot.2.getD literal)
  | .triples, fill => Sparql.HasSlots fun literal => termsOfTriples (fill literal)
  | .level _, fill => Sparql.HasSlots fun literal => (fill literal).terms
  | .call, fill => Sparql.HasSlots fun literal => (fill literal).terms
  | .entry, fill => Sparql.HasSlots fun literal => (fill literal).terms
  | .group, fill => Sparql.HasSlots fun literal => termsOf (fill literal)
  | .form, fill => Sparql.HasSlots fun literal => termsOf (Query.group ⟨.empty, fill literal⟩)
  | .query, fill => (Sparql.HasSlots fun literal => termsOf (fill literal).group) ∧
      ∃ prefixes, ∀ literal, (fill literal).prefixes = prefixes

theorem termsOfTriples_blockPatterns (subject : Term) (first : List (Term × Term))
    (others : List (Option (List (Term × Term)))) :
    termsOfTriples (blockPatterns subject first others) =
      (first ++ others.flatMap fun group => group.getD []).flatMap fun pair =>
        [subject, pair.1, pair.2] := by
  rw [termsOfTriples_eq_flatMap, blockPatterns, List.flatMap_map]
  rfl

theorem HasSlots.node {fill : Term → Node} (slots : HasSlots fun literal => (fill literal).terms)
    (before after : List Node) : HasSlots fun literal => termsOf (before ++ fill literal :: after) := by
  refine (slots.among (termsOf before) (termsOf after)).congr fun literal => ?_
  simp [termsOf_eq_flatMap]

theorem terms_joined (connective : Connective) (operands : List Node) :
    (joined connective operands).terms = termsOf operands := by
  unfold joined
  split
  · rw [termsOf, termsOf, List.append_nil]
  · rw [terms]

theorem terms_unionOf (alternatives : List Group) :
    (unionOf alternatives).terms = alternatives.flatMap termsOf := by
  unfold unionOf
  split
  · rw [terms, List.flatMap_singleton]
  · rw [terms, termsOfGroups_eq_flatMap]

theorem terms_joinAll (first : Node) (steps : List (String × Node)) :
    (joinAll .binary first steps).terms = first.terms ++ steps.flatMap fun step => step.2.terms := by
  induction steps generalizing first with
  | nil => simp [joinAll]
  | cons step others inductionHypothesis =>
      have folded := inductionHypothesis (.binary step.1 first step.2)
      rw [joinAll] at folded ⊢
      rw [List.foldl_cons, folded, terms, List.flatMap_cons, List.append_assoc]

theorem exists_terms_join {operator : Parser String} {operand : Parser Node}
    {start inner behind last : Cursor} {join : Node → Node}
    (amid : AmidChain operator .binary operand start inner behind join last) :
    ∃ before after, ∀ node, (join node).terms = before ++ (node.terms ++ after) := by
  cases amid with
  | first later => exact ⟨[], _, fun node => terms_joinAll node _⟩
  | @later _ _ _ _ _ value sign steps others first earlier signed later =>
      refine ⟨(joinAll .binary value steps).terms, others.flatMap fun step => step.2.terms,
        fun node => ?_⟩
      rw [terms_joinAll, terms, List.append_assoc]

theorem predications_hasSlots {fill : Term → List (Term × Term)} (subject : Term)
    (slots : Rule.predications.HasSlots fill) (before after : List (Term × Term)) :
    HasSlots fun literal => (before ++ (fill literal ++ after)).flatMap fun pair =>
      [subject, pair.1, pair.2] := by
  obtain ⟨inside, hasSlot, same⟩ := slots
  have predicated : HasSlots fun literal => (fill literal).flatMap fun pair =>
      [subject, pair.1, pair.2] := by
    obtain ⟨⟨verb, object⟩, found, rfl⟩ := List.mem_map.1 hasSlot
    refine ⟨inside.flatMap fun slot => [some subject, some slot.1, slot.2],
      List.mem_flatMap.2 ⟨_, found, by simp⟩, fun literal => ?_⟩
    simp only [same, List.flatMap_map, List.map_flatMap]
    rfl
  refine (predicated.among (before.flatMap fun pair => [subject, pair.1, pair.2])
    (after.flatMap fun pair => [subject, pair.1, pair.2])).congr fun literal => ?_
  rw [List.flatMap_append, List.flatMap_append]

/-- The tree around a literal has the same terms for every literal. -/
theorem Place.hasSlots {here behind start last : Cursor} {rule : Rule} {fill : Term → rule.Value}
    (place : Place here behind rule start fill last) : rule.HasSlots fill := by
  induction place with
  | @object _ _ _ predicate before after predicated amid =>
      refine ⟨before.map (fun object => (predicate, some object)) ++
        (predicate, none) :: after.map fun object => (predicate, some object), by simp,
        fun literal => ?_⟩
      show ((before ++ literal :: after).map fun object => (predicate, object)) = _
      simp [Function.comp_def]
  | @subject _ _ first others predicated later =>
      have nonempty : first ≠ [] := (predicateObjects_yields _ _ _ predicated).1
      obtain ⟨pair, rest, rfl⟩ := List.exists_cons_of_ne_nil nonempty
      refine ⟨(pair :: rest ++ others.flatMap fun group => group.getD []).flatMap fun pair =>
        [none, some pair.1, some pair.2], by simp, fun literal => ?_⟩
      refine (termsOfTriples_blockPatterns literal _ others).trans ?_
      rw [List.map_flatMap]
      rfl
  | @firstGroup _ _ _ _ subject others _ named inside later inductionHypothesis =>
      refine (predications_hasSlots subject inductionHypothesis []
        (others.flatMap fun group => group.getD [])).congr fun literal => ?_
      rw [termsOfTriples_blockPatterns, List.nil_append]
  | @laterGroup _ _ _ _ _ _ _ subject first before after _ named predicated earlier separated inside
      later inductionHypothesis =>
      refine (predications_hasSlots subject inductionHypothesis
        (first ++ before.flatMap fun group => group.getD [])
        (after.flatMap fun group => group.getD [])).congr fun literal => ?_
      rw [termsOfTriples_blockPatterns]
      simp
  | operand => exact HasSlots.single
  | bracket opened inside closed inductionHypothesis => exact inductionHypothesis
  | call inside inductionHypothesis => exact inductionHypothesis
  | argument named opened amid inside closed inductionHypothesis =>
      exact (inductionHypothesis.node _ _).congr fun literal => by rw [terms]
  | chain groups amid inside inductionHypothesis =>
      obtain ⟨before, after, same⟩ := exists_terms_join amid
      exact (inductionHypothesis.among before after).congr fun literal => same _
  | uncompared inside single inductionHypothesis => exact inductionHypothesis
  | @left _ _ _ _ _ right _ inside compared other inductionHypothesis =>
      refine (inductionHypothesis.among [] right.terms).congr fun literal => ?_
      rw [terms, List.nil_append]
  | @right _ _ _ _ _ left _ other compared inside inductionHypothesis =>
      refine (inductionHypothesis.among left.terms []).congr fun literal => ?_
      rw [terms, List.append_nil]
  | unsigned plain inside inductionHypothesis => exact inductionHypothesis
  | negated signed inside inductionHypothesis =>
      refine inductionHypothesis.congr fun literal => ?_
      rw [terms, termsOf, termsOf, List.append_nil]
  | connected joins amid inside inductionHypothesis =>
      exact (inductionHypothesis.node _ _).congr fun literal => terms_joined _ _
  | filter named opened inside closed stopped inductionHypothesis =>
      exact inductionHypothesis.congr fun literal => by rw [terms]
  | filterCall named inside stopped inductionHypothesis =>
      exact inductionHypothesis.congr fun literal => by rw [terms]
  | patterns noClause inside stopped inductionHypothesis =>
      exact inductionHypothesis.congr fun literal => by rw [terms]
  | optional named inside stopped inductionHypothesis =>
      exact inductionHypothesis.congr fun literal => by rw [terms]
  | @union _ _ _ _ _ before after _ amid inside stopped inductionHypothesis =>
      refine (inductionHypothesis.among (before.flatMap termsOf) (after.flatMap termsOf)).congr
        fun literal => ?_
      rw [terms_unionOf, List.flatMap_append, List.flatMap_cons]
  | group opened amid inside closed inductionHypothesis =>
      exact (inductionHypothesis.node _ _).congr fun literal => termsOf_mergeRuns _
  | select named thinned shown introduced inside ordered limited inductionHypothesis =>
      exact inductionHypothesis
  | ask named introduced inside inductionHypothesis => exact inductionHypothesis
  | @query _ _ _ _ declared fill prefixes inside ended inductionHypothesis =>
      exact ⟨inductionHypothesis, _, fun literal => rfl⟩

end FactQuery.Sparql
