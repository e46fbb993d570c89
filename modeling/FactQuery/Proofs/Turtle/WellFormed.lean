import FactQuery.Proofs.Sparql.Operand
import FactQuery.Turtle.Document

/-!
# Statements that have been read

The names, labels and tags of a statement that has been read are such as its tokens can hold, in
brackets as well, and no literal has both a language and a datatype.
-/

set_option autoImplicit false

namespace FactQuery.Turtle

open FactQuery.Grammar FactQuery.Token FactQuery.Sparql

def IsNodeLabel (label : String) : Prop :=
  label.toList ≠ [] ∧ IsLocal label

mutual

def Object.IsWellFormed : Object → Prop
  | .iri name => IsResourceName name
  | .blank label => IsNodeLabel label
  | .literal _ language datatype =>
    (∀ tag, language = some tag → IsTag tag) ∧
      (∀ name, datatype = some name → IsResourceName name) ∧ (language = none ∨ datatype = none)
  | .anonymous properties => AreWellFormed properties

def AreWellFormed : List Property → Prop
  | [] => True
  | (name, object) :: others =>
    IsResourceName name ∧ object.IsWellFormed ∧ AreWellFormed others

end

def Subject.IsWellFormed : Subject → Prop
  | .iri name => IsResourceName name
  | .blank label => IsNodeLabel label
  | .anonymous properties => AreWellFormed properties

def Statement.IsWellFormed : Statement → Prop
  | .declare label reference => IsLabel label ∧ IsIriText reference
  | .rebase reference => IsIriText reference
  | .triples subject properties => subject.IsWellFormed ∧ AreWellFormed properties

theorem areWellFormed_append {properties others : List Property} (good : AreWellFormed properties)
    (later : AreWellFormed others) : AreWellFormed (properties ++ others) := by
  induction properties with
  | nil => exact later
  | cons property properties inductionHypothesis =>
      obtain ⟨name, object⟩ := property
      exact ⟨good.1, good.2.1, inductionHypothesis good.2.2⟩

theorem areWellFormed_map {name : Iri} (isName : IsResourceName name) {objects : List Object}
    (good : ∀ object ∈ objects, object.IsWellFormed) :
    AreWellFormed (objects.map fun object => (name, object)) := by
  induction objects with
  | nil => trivial
  | cons object objects inductionHypothesis =>
      rw [List.forall_mem_cons] at good
      exact ⟨isName, good.1, inductionHypothesis good.2⟩

theorem areWellFormed_flatMap {groups : List (Option (List Property))}
    (good : ∀ group ∈ groups, ∀ properties, group = some properties → AreWellFormed properties) :
    AreWellFormed (groups.flatMap fun group => group.getD []) := by
  induction groups with
  | nil => trivial
  | cons group groups inductionHypothesis =>
      rw [List.forall_mem_cons] at good
      rw [List.flatMap_cons]
      refine areWellFormed_append ?_ (inductionHypothesis good.2)
      cases group with
      | none => trivial
      | some properties => exact good.1 properties rfl

/-! ## Objects -/

theorem scanBlankLabel_sound {text token rest : List Char}
    (found : scanBlankLabel text = some (token, rest)) :
    IsNodeLabel (String.ofList (token.drop 2)) := by
  unfold scanBlankLabel at found
  split at found
  · rename_i behind
    simp only [List.isEmpty_iff] at found
    split at found
    · contradiction
    · rename_i nonempty
      obtain ⟨rfl, rfl⟩ := Prod.mk.inj (Option.some.inj found)
      rw [List.drop_succ_cons, List.drop_succ_cons, List.drop_zero]
      refine ⟨?_, (splitLocal_sound behind).1⟩
      rw [String.toList_ofList]
      exact nonempty
  · contradiction

theorem blankLabel_yields : Yields blankLabel IsNodeLabel :=
  (Yields.lexeme fun _ _ _ found => scanBlankLabel_sound found).bind fun _ isLabel =>
    Yields.pure isLabel

theorem isWellFormed_typed {value datatype : String} (isText : IsIriText datatype) :
    (Object.literal value none (some (.full datatype))).IsWellFormed := by
  rw [Object.IsWellFormed]
  refine ⟨by simp, ?_, Or.inl rfl⟩
  rintro name ⟨rfl⟩
  exact isText

theorem number_yields : Yields number Object.IsWellFormed := by
  refine Yields.firstOf fun parser inside => ?_
  simp only [List.mem_cons, List.not_mem_nil, or_false] at inside
  rcases inside with rfl | rfl | rfl
  · exact Yields.after fun value => Yields.pure (isWellFormed_typed (by decide +kernel))
  · exact Yields.after fun value => Yields.pure (isWellFormed_typed (by decide +kernel))
  · exact Yields.after fun value => Yields.pure (isWellFormed_typed (by decide +kernel))

theorem boolean_yields : Yields boolean Object.IsWellFormed := by
  refine Yields.firstOf fun parser inside => ?_
  simp only [List.mem_cons, List.not_mem_nil, or_false] at inside
  rcases inside with rfl | rfl
  · exact Yields.after fun _ => Yields.pure (isWellFormed_typed (by decide +kernel))
  · exact Yields.after fun _ => Yields.pure (isWellFormed_typed (by decide +kernel))

theorem quotedLiteral_yields : Yields quotedLiteral Object.IsWellFormed := by
  refine Yields.after fun value => ?_
  refine literalSuffix_yields.optional.bind fun suffix isSuffix => ?_
  cases suffix with
  | none => exact Yields.pure (by simp [Object.IsWellFormed])
  | some suffix =>
      have good := isSuffix suffix rfl
      cases suffix with
      | language tag =>
          refine Yields.pure ?_
          rw [Object.IsWellFormed]
          refine ⟨?_, by simp, Or.inr rfl⟩
          rintro other ⟨rfl⟩
          exact good
      | datatype name =>
          refine Yields.pure ?_
          rw [Object.IsWellFormed]
          refine ⟨by simp, ?_, Or.inl rfl⟩
          rintro other ⟨rfl⟩
          exact good

theorem bracketed_yields {inner : Parser (List Property)} (yields : Yields inner AreWellFormed) :
    Yields (bracketed inner) AreWellFormed := by
  refine Yields.after fun _ => yields.optional.bind fun inside good => Yields.after fun _ => ?_
  refine Yields.pure ?_
  cases inside with
  | none => trivial
  | some properties => exact good properties rfl

theorem object_yields {inner : Parser (List Property)} (yields : Yields inner AreWellFormed) :
    Yields (object inner) Object.IsWellFormed := by
  refine Yields.firstOf fun parser inside => ?_
  simp only [List.mem_cons, List.not_mem_nil, or_false] at inside
  rcases inside with rfl | rfl | rfl | rfl | rfl | rfl
  · exact iri_yields.map fun _ isName => by rwa [Object.IsWellFormed]
  · exact blankLabel_yields.map fun _ isLabel => by rwa [Object.IsWellFormed]
  · exact (bracketed_yields yields).map fun _ good => by rwa [Object.IsWellFormed]
  · exact quotedLiteral_yields
  · exact number_yields
  · exact boolean_yields

/-! ## Statements -/

theorem predicate_yields : Yields predicate IsResourceName := by
  have isType : IsResourceName (.full Vocabulary.rdfType) :=
    (by decide +kernel : IsIriText Vocabulary.rdfType)
  refine Yields.firstOf fun parser inside => ?_
  simp only [List.mem_cons, List.not_mem_nil, or_false] at inside
  rcases inside with rfl | rfl
  · exact iri_yields
  · exact Yields.after fun _ => Yields.pure isType

theorem propertyGroup_yields {inner : Parser (List Property)} (yields : Yields inner AreWellFormed) :
    Yields (propertyGroup inner) AreWellFormed := by
  have single := object_yields yields
  refine predicate_yields.bind fun name isName => ?_
  have objects : Yields (Parser.separated1 (symbol ",") (object inner))
      fun objects => ∀ object ∈ objects, object.IsWellFormed := by
    refine single.bind fun first isFirst => ?_
    have later : Yields (Parser.many (do symbol ","; object inner))
        fun objects => ∀ object ∈ objects, object.IsWellFormed :=
      (Yields.after fun _ => single).many
    exact later.bind fun others areOthers => Yields.pure (List.forall_mem_cons.2 ⟨isFirst, areOthers⟩)
  exact objects.bind fun objects good => Yields.pure (areWellFormed_map isName good)

theorem propertyRule_yields {inner : Parser (List Property)} (yields : Yields inner AreWellFormed) :
    Yields (propertyRule inner) AreWellFormed := by
  have group := propertyGroup_yields yields
  refine group.bind fun first isFirst => ?_
  have later : Yields (Parser.many (do symbol ";"; Parser.optional (propertyGroup inner)))
      fun groups => ∀ found ∈ groups, ∀ properties, found = some properties →
        AreWellFormed properties :=
    (Yields.after fun _ => group.optional).many
  exact later.bind fun others areOthers =>
    Yields.pure (areWellFormed_append isFirst (areWellFormed_flatMap areOthers))

theorem properties_yields : Yields properties AreWellFormed := by
  refine Ensures.yields (Ensures.nested fun inner isGood => ?_)
  exact (propertyRule_yields isGood.yields).ensures

theorem subject_yields : Yields subject Subject.IsWellFormed := by
  refine Yields.firstOf fun parser inside => ?_
  simp only [List.mem_cons, List.not_mem_nil, or_false] at inside
  rcases inside with rfl | rfl | rfl
  · exact iri_yields.map fun _ isName => isName
  · exact blankLabel_yields.map fun _ isLabel => isLabel
  · exact (bracketed_yields properties_yields).map fun _ good => good

theorem declaration_yields : Yields declaration Statement.IsWellFormed := by
  refine Yields.firstOf fun parser inside => ?_
  simp only [List.mem_cons, List.not_mem_nil, or_false] at inside
  rcases inside with rfl | rfl
  · exact Yields.after fun _ => prefixLabel_yields.bind fun label isLabel =>
      iriRef_yields.bind fun name isText => Yields.after fun _ => Yields.pure ⟨isLabel, isText⟩
  · exact Yields.after fun _ => prefixLabel_yields.bind fun label isLabel =>
      iriRef_yields.bind fun name isText => Yields.pure ⟨isLabel, isText⟩

theorem baseDirective_yields : Yields baseDirective Statement.IsWellFormed := by
  refine Yields.firstOf fun parser inside => ?_
  simp only [List.mem_cons, List.not_mem_nil, or_false] at inside
  rcases inside with rfl | rfl
  · exact Yields.after fun _ => iriRef_yields.bind fun name isText =>
      Yields.after fun _ => Yields.pure isText
  · exact Yields.after fun _ => iriRef_yields.bind fun name isText => Yields.pure isText

theorem triples_yields : Yields triples Statement.IsWellFormed := by
  refine subject_yields.bind fun about isSubject => ?_
  refine properties_yields.optional.bind fun stated good => Yields.after fun _ => ?_
  refine Yields.pure ⟨isSubject, ?_⟩
  cases stated with
  | none => trivial
  | some properties => exact good properties rfl

theorem statement_yields : Yields statement Statement.IsWellFormed := by
  refine Yields.firstOf fun parser inside => ?_
  simp only [List.mem_cons, List.not_mem_nil, or_false] at inside
  rcases inside with rfl | rfl | rfl
  · exact declaration_yields
  · exact baseDirective_yields
  · exact triples_yields

theorem isWellFormed_of_parseStatements {text : String} {found : List Statement}
    (parsed : parseStatements text = .ok found) :
    ∀ statement ∈ found, statement.IsWellFormed := by
  unfold parseStatements at parsed
  simp only at parsed
  split at parsed
  · rename_i statements next run
    split at parsed
    · cases parsed
      exact statement_yields.many _ _ next run
    · contradiction
  · contradiction
  · contradiction

end FactQuery.Turtle
