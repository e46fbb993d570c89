import FactQuery.Proofs.Layout.Terms
import FactQuery.Proofs.Turtle.Levels

/-!
# Documents respect layout

Whatever the next words of a document are, each rule of Turtle does the same with any layout between
them.
-/

set_option autoImplicit false

namespace FactQuery.Turtle

open FactQuery.Text FactQuery.Grammar FactQuery.Token

/-- At places that are alike the parser does the same and leaves places that are alike. -/
def Keeps {α : Type} (parser : Parser α) : Prop :=
  Respects (fun _ => True) parser fun _ => True

theorem isLasting_always : IsLasting fun _ => True :=
  fun _ _ _ _ _ _ _ => trivial

theorem isSteady_always : IsSteady fun _ _ => True :=
  isLasting_always.isSteady

theorem symbol_keeps {text : String} (known : isSymbol text = true) : Keeps (symbol text) :=
  isLasting_always.symbol known

theorem iri_keeps : Keeps iri :=
  isSteady_always.iri

theorem iriRef_keeps : Keeps iriRef :=
  isSteady_always.iriRef

/-! ## Terms -/

theorem blankLabel_keeps : Keeps blankLabel := by
  have scans : ScansTokens scanBlankLabel := scanBlankLabel_staysInside.scansTokens rfl fun _ => rfl
  exact (isLasting_always.lexeme scans).bind fun _ => .pure _

theorem number_keeps : Keeps number := by
  have each : ∀ scan ∈ [scanDouble, scanDecimal, scanInteger], Keeps (numberText scan) :=
    fun _ known => isSteady_always.numberText known
  simp only [List.forall_mem_cons] at each
  refine .firstOf ?_
  simp only [List.forall_mem_cons]
  exact ⟨each.1.bind fun _ => .pure _, each.2.1.bind fun _ => .pure _,
    each.2.2.1.bind fun _ => .pure _, by simp⟩

theorem keyword_keeps {word : String} (isKeyword : IsKeyword id word) : Keeps (keyword word) :=
  isSteady_always.keyword isKeyword

theorem caselessKeyword_keeps {word : String} (isKeyword : IsKeyword capital word) :
    Keeps (caselessKeyword word) :=
  isSteady_always.caselessKeyword isKeyword

theorem boolean_keeps : Keeps boolean := by
  refine .firstOf ?_
  simp only [List.forall_mem_cons]
  exact ⟨(keyword_keeps (by decide)).bind fun _ => .pure _,
    (keyword_keeps (by decide)).bind fun _ => .pure _, by simp⟩

theorem quotedLiteral_keeps : Keeps quotedLiteral := by
  have suffix : Keeps literalSuffix := isSteady_always.literalSuffix
  refine isSteady_always.quotedText.bind fun value =>
    (suffix.optional fun _ => id).bind fun suffix => ?_
  rcases suffix with _ | (tag | name) <;> exact .pure _

theorem predicate_keeps : Keeps predicate := by
  refine .firstOf ?_
  simp only [List.forall_mem_cons]
  exact ⟨iri_keeps, (keyword_keeps (by decide)).bind fun _ => .pure _, by simp⟩

/-! ## Properties -/

section Inside

variable {inner : Parser (List Property)}

theorem bracketed_keeps (keeps : Keeps inner) : Keeps (bracketed inner) :=
  (symbol_keeps (by decide)).bind fun _ => (keeps.optional fun _ => id).bind fun _ =>
    (symbol_keeps (by decide)).bind fun _ => .pure _

theorem object_keeps (keeps : Keeps inner) : Keeps (object inner) := by
  refine .firstOf ?_
  simp only [List.forall_mem_cons]
  exact ⟨iri_keeps.map _, blankLabel_keeps.map _, (bracketed_keeps keeps).map _,
    quotedLiteral_keeps, number_keeps, boolean_keeps, by simp⟩

theorem propertyGroup_keeps (shrinks : Shrinks inner) (keeps : Keeps inner) :
    Keeps (propertyGroup inner) :=
  predicate_keeps.bind fun _ =>
    (Respects.separated1 (symbol_advances (by decide)) (object_takes shrinks).shrinks
      (symbol_keeps (by decide)) (object_keeps keeps)).bind fun _ => .pure _

theorem laterGroup_keeps (shrinks : Shrinks inner) (keeps : Keeps inner) :
    Keeps (laterGroup inner) :=
  (symbol_keeps (by decide)).bind fun _ => (propertyGroup_keeps shrinks keeps).optional fun _ => id

theorem propertyRule_keeps (shrinks : Shrinks inner) (keeps : Keeps inner) :
    Keeps (propertyRule inner) := by
  have later : Keeps (Parser.many (laterGroup inner)) :=
    .many ⟨laterGroup_takes shrinks, (symbol_missesEnd (by decide)).bind _⟩
      (laterGroup_keeps shrinks keeps)
  exact (propertyGroup_keeps shrinks keeps).bind fun _ => later.bind fun _ => .pure _

end Inside

theorem properties_keeps : Keeps properties :=
  Respects.nested (ι := Unit) propertyRule_narrows Shrinks.missed
    (fun _ shrinks => propertyRule_narrows.shrinks shrinks)
    (fun _ shrinks keeps _ => propertyRule_keeps shrinks (keeps ())) ()

/-! ## Statements -/

theorem subject_keeps : Keeps subject := by
  refine .firstOf ?_
  simp only [List.forall_mem_cons]
  exact ⟨iri_keeps.map _, blankLabel_keeps.map _, (bracketed_keeps properties_keeps).map _, by simp⟩

theorem triples_keeps : Keeps triples :=
  subject_keeps.bind fun _ => (properties_keeps.optional fun _ => id).bind fun _ =>
    (symbol_keeps (by decide)).bind fun _ => .pure _

theorem prefixLabel_keeps : Keeps prefixLabel :=
  isLasting_always.prefixLabel

theorem declaration_keeps : Keeps declaration := by
  refine .firstOf ?_
  simp only [List.forall_mem_cons]
  refine ⟨?_, ?_, by simp⟩
  · exact (symbol_keeps (by decide)).bind fun _ => prefixLabel_keeps.bind fun _ =>
      iriRef_keeps.bind fun _ => (symbol_keeps (by decide)).bind fun _ => .pure _
  · exact (caselessKeyword_keeps (by decide)).bind fun _ => prefixLabel_keeps.bind fun _ =>
      iriRef_keeps.bind fun _ => .pure _

theorem baseDirective_keeps : Keeps baseDirective := by
  refine .firstOf ?_
  simp only [List.forall_mem_cons]
  refine ⟨?_, ?_, by simp⟩
  · exact (symbol_keeps (by decide)).bind fun _ => iriRef_keeps.bind fun _ =>
      (symbol_keeps (by decide)).bind fun _ => .pure _
  · exact (caselessKeyword_keeps (by decide)).bind fun _ => iriRef_keeps.bind fun _ => .pure _

theorem statement_keeps : Keeps statement := by
  refine .firstOf ?_
  simp only [List.forall_mem_cons]
  exact ⟨declaration_keeps, baseDirective_keeps, triples_keeps, by simp⟩

theorem blankLabel_missesEnd : MissesEnd blankLabel :=
  (lexeme_missesEnd rfl).bind _

theorem bracketed_missesEnd (inner : Parser (List Property)) : MissesEnd (bracketed inner) :=
  (symbol_missesEnd (by decide)).bind _

theorem subject_missesEnd : MissesEnd subject := by
  refine .firstOf ?_
  simp only [List.forall_mem_cons]
  exact ⟨iri_missesEnd.map _, blankLabel_missesEnd.map _, (bracketed_missesEnd _).map _, by simp⟩

theorem triples_missesEnd : MissesEnd triples :=
  subject_missesEnd.bind _

theorem declaration_missesEnd : MissesEnd declaration := by
  refine .firstOf ?_
  simp only [List.forall_mem_cons]
  exact ⟨(symbol_missesEnd (by decide)).bind _, (foldedWord_missesEnd (by decide)).bind _, by simp⟩

theorem baseDirective_missesEnd : MissesEnd baseDirective := by
  refine .firstOf ?_
  simp only [List.forall_mem_cons]
  exact ⟨(symbol_missesEnd (by decide)).bind _, (foldedWord_missesEnd (by decide)).bind _, by simp⟩

theorem statement_missesEnd : MissesEnd statement := by
  refine .firstOf ?_
  simp only [List.forall_mem_cons]
  exact ⟨declaration_missesEnd, baseDirective_missesEnd, triples_missesEnd, by simp⟩

theorem statements_keeps : Keeps statements :=
  .many ⟨statement_takes, statement_missesEnd⟩ statement_keeps

end FactQuery.Turtle
