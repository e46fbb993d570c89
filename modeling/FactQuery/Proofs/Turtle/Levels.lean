import FactQuery.Proofs.Token.Progress
import FactQuery.Turtle.Grammar

/-!
# Properties in brackets are properties

What stands in the brackets of an anonymous node is read as the properties of any other node,
however deep the brackets stand.
-/

set_option autoImplicit false

namespace FactQuery.Turtle

open FactQuery.Text FactQuery.Grammar FactQuery.Token

/-! ## Terms -/

theorem predicate_takes : Takes predicate := by
  refine Takes.firstOf ?_
  simp only [List.forall_mem_cons]
  exact ⟨iri_takes, (foldedWord_takes (by decide)).bind fun _ => Shrinks.pure _, by simp⟩

theorem splitLocal_length_le (text : List Char) : (splitLocal text).2.length ≤ text.length := by
  have whole := congrArg List.length (splitLocal_sound text).2
  rw [List.length_append] at whole
  omega

theorem scanBlankLabel_shortens : Shortens scanBlankLabel := by
  intro text token rest scanned
  unfold scanBlankLabel at scanned
  split at scanned
  · rename_i behind
    simp only at scanned
    split at scanned
    · cases scanned
    · obtain ⟨-, rfl⟩ := Prod.mk.inj (Option.some.inj scanned)
      have fewer := splitLocal_length_le behind
      simp only [List.length_cons]
      omega
  · cases scanned

theorem blankLabel_takes : Takes blankLabel :=
  scanBlankLabel_shortens.takes.bind fun _ => Shrinks.pure _

theorem quotedLiteral_takes : Takes quotedLiteral := by
  refine quotedText_takes.bind fun value => literalSuffix_takes.shrinks.optional.bind fun suffix => ?_
  rcases suffix with _ | (tag | name) <;> exact Shrinks.pure _

theorem number_takes : Takes number :=
  numberChoice_takes fun value datatype => Object.literal value none (some (.full datatype))

theorem boolean_takes : Takes boolean := by
  refine Takes.firstOf ?_
  simp only [List.forall_mem_cons]
  refine ⟨?_, ?_, by simp⟩
  · exact (foldedWord_takes (by decide)).bind fun _ => Shrinks.pure _
  · exact (foldedWord_takes (by decide)).bind fun _ => Shrinks.pure _

theorem comma_takes : Takes (symbol ",") :=
  symbol_takes (by decide)

/-! ## Properties -/

section Properties

variable {size : Nat} {one other : Parser (List Property)}

theorem bracketed_agree (agree : AgreeWithin size size one other) :
    AgreeWithin (size + 1) size (bracketed one) (bracketed other) := by
  have opening : Takes (symbol "[") := symbol_takes (by decide)
  have closing : Shrinks (symbol "]") := (symbol_takes (by decide)).shrinks
  exact (opening size).bind fun _ => agree.optional.bind fun _ => (closing size).bind fun _ => .pure _

theorem object_agree (agree : AgreeWithin size size one other) :
    AgreeWithin (size + 1) size (object one) (object other) :=
  AgreeWithin.firstOf_cons ((iri_takes size).map _) <|
    AgreeWithin.firstOf_cons ((blankLabel_takes size).map _) <|
    AgreeWithin.firstOf_cons ((bracketed_agree agree).map _) <|
    AgreeWithin.firstOf_cons (quotedLiteral_takes size) <|
    AgreeWithin.firstOf_cons (number_takes size) <|
    AgreeWithin.firstOf_cons (boolean_takes size) AgreeWithin.firstOf_nil

theorem propertyGroup_agree (agree : AgreeWithin size size one other) :
    AgreeWithin (size + 1) (size + 1) (propertyGroup one) (propertyGroup other) := by
  have objects := (object_agree agree).weaken (Nat.le_succ size)
  exact (predicate_takes.shrinks (size + 1)).bind fun _ =>
    ((comma_takes.shrinks (size + 1)).separated1 objects).bind fun _ => .pure _

def laterGroup (properties : Parser (List Property)) : Parser (Option (List Property)) := do
  symbol ";"
  Parser.optional (propertyGroup properties)

theorem laterGroup_agree (agree : AgreeWithin size size one other) :
    AgreeWithin (size + 1) (size + 1) (laterGroup one) (laterGroup other) := by
  have separator : Shrinks (symbol ";") := (symbol_takes (by decide)).shrinks
  exact (separator (size + 1)).bind fun _ => (propertyGroup_agree agree).optional

theorem propertyRule_narrows : AgreeWithin.Narrows propertyRule :=
  fun _ _ _ agree => (propertyGroup_agree agree).bind fun _ =>
    (laterGroup_agree agree).many.bind fun _ => .pure _

theorem properties_eq : properties = propertyRule properties :=
  Parser.nested_eq propertyRule_narrows

theorem properties_shrinks : Shrinks properties :=
  Shrinks.nested propertyRule_narrows

end Properties

section Inside

variable {inner : Parser (List Property)}

theorem bracketed_takes (shrinks : Shrinks inner) : Takes (bracketed inner) :=
  fun size => bracketed_agree (shrinks size)

theorem object_takes (shrinks : Shrinks inner) : Takes (object inner) :=
  fun size => object_agree (shrinks size)

theorem propertyGroup_takes (shrinks : Shrinks inner) : Takes (propertyGroup inner) :=
  predicate_takes.bind fun _ =>
    (Takes.separated1 comma_takes.shrinks (object_takes shrinks)).shrinks.bind fun _ =>
      Shrinks.pure _

theorem laterGroup_takes (shrinks : Shrinks inner) : Takes (laterGroup inner) :=
  (symbol_takes (by decide)).bind fun _ => (propertyGroup_takes shrinks).shrinks.optional

end Inside

/-! ## Statements -/

theorem subject_takes : Takes subject := by
  refine Takes.firstOf ?_
  simp only [List.forall_mem_cons]
  exact ⟨iri_takes.map _, blankLabel_takes.map _, (bracketed_takes properties_shrinks).map _,
    by simp⟩

theorem triples_takes : Takes triples :=
  subject_takes.bind fun _ => properties_shrinks.optional.bind fun _ =>
    (symbol_takes (by decide)).shrinks.bind fun _ => Shrinks.pure _

theorem declaration_takes : Takes declaration := by
  refine Takes.firstOf ?_
  simp only [List.forall_mem_cons]
  refine ⟨?_, ?_, by simp⟩
  · exact (symbol_takes (by decide)).bind fun _ => prefixLabel_takes.shrinks.bind fun _ =>
      iriRef_takes.shrinks.bind fun _ => (symbol_takes (by decide)).shrinks.bind fun _ =>
        Shrinks.pure _
  · exact (foldedWord_takes (by decide)).bind fun _ => prefixLabel_takes.shrinks.bind fun _ =>
      iriRef_takes.shrinks.bind fun _ => Shrinks.pure _

theorem baseDirective_takes : Takes baseDirective := by
  refine Takes.firstOf ?_
  simp only [List.forall_mem_cons]
  refine ⟨?_, ?_, by simp⟩
  · exact (symbol_takes (by decide)).bind fun _ => iriRef_takes.shrinks.bind fun _ =>
      (symbol_takes (by decide)).shrinks.bind fun _ => Shrinks.pure _
  · exact (foldedWord_takes (by decide)).bind fun _ => iriRef_takes.shrinks.bind fun _ =>
      Shrinks.pure _

theorem statement_takes : Takes statement := by
  refine Takes.firstOf ?_
  simp only [List.forall_mem_cons]
  exact ⟨declaration_takes, baseDirective_takes, triples_takes, by simp⟩

end FactQuery.Turtle
