import FactQuery.Proofs.Sparql.Operand
import FactQuery.Proofs.Token.Progress

/-!
# Expressions and groups stand for themselves

An expression in brackets and the arguments of a call are read as any other expression, and a group
inside of a group is read as any other group, however deep they stand.
-/

set_option autoImplicit false

namespace FactQuery.Sparql

open FactQuery.Text FactQuery.Grammar FactQuery.Token

/-! ## Terms and triple patterns -/

theorem variableName_takes : Takes variableName := by
  refine Shortens.takes (fun text token rest scanned => ?_) |>.bind fun _ => Shrinks.pure _
  cases text with
  | nil => cases scanned
  | cons mark behind =>
      rw [scanVariable] at scanned
      split at scanned
      · obtain ⟨⟨name, last⟩, found, same⟩ := Option.map_eq_some_iff.1 scanned
        obtain ⟨-, rfl⟩ := Prod.mk.inj same
        exact Nat.lt_succ_of_lt (scanWord_shortens _ _ _ _ _ found)
      · cases scanned

theorem blankNode_takes : Takes blankNode := by
  refine Shortens.takes (fun text token rest scanned => ?_) |>.bind fun _ => Shrinks.pure _
  unfold scanBlankNode at scanned
  split at scanned
  · obtain ⟨⟨label, last⟩, found, same⟩ := Option.map_eq_some_iff.1 scanned
    obtain ⟨-, rfl⟩ := Prod.mk.inj same
    have fewer := scanRun_shortens _ _ _ _ found
    simp only [List.length_cons]
    omega
  · cases scanned

theorem quotedLiteral_takes : Takes quotedLiteral := by
  refine quotedText_takes.bind fun value => literalSuffix_takes.shrinks.optional.bind fun suffix => ?_
  rcases suffix with _ | (tag | name) <;> exact Shrinks.pure _

theorem number_takes : Takes number :=
  numberChoice_takes fun value datatype => Term.literal value none (some datatype)

theorem boolean_takes : Takes boolean := by
  refine Takes.firstOf ?_
  simp only [List.forall_mem_cons]
  refine ⟨?_, ?_, by simp⟩
  · exact (foldedWord_takes (by decide)).bind fun _ => Shrinks.pure _
  · exact (foldedWord_takes (by decide)).bind fun _ => Shrinks.pure _

theorem graphTerm_takes : Takes graphTerm := by
  refine Takes.firstOf ?_
  simp only [List.forall_mem_cons]
  exact ⟨variableName_takes.map _, iri_takes.map _, quotedLiteral_takes, number_takes, boolean_takes,
    blankNode_takes, by simp⟩

theorem verb_takes : Takes verb := by
  refine Takes.firstOf ?_
  simp only [List.forall_mem_cons]
  exact ⟨variableName_takes.map _, iri_takes.map _,
    (foldedWord_takes (by decide)).bind fun _ => Shrinks.pure _, by simp⟩

theorem comma_takes : Takes (symbol ",") :=
  symbol_takes (by decide)

theorem predicateObjects_takes : Takes predicateObjects :=
  verb_takes.bind fun _ =>
    (Takes.separated1 comma_takes.shrinks graphTerm_takes).shrinks.bind fun _ => Shrinks.pure _

def laterPredicateObjects : Parser (Option (List (Term × Term))) := do
  symbol ";"
  Parser.optional predicateObjects

theorem laterPredicateObjects_takes : Takes laterPredicateObjects :=
  (symbol_takes (by decide)).bind fun _ => predicateObjects_takes.shrinks.optional

theorem triplesSameSubject_takes : Takes triplesSameSubject :=
  graphTerm_takes.bind fun _ => predicateObjects_takes.shrinks.bind fun _ =>
    laterPredicateObjects_takes.shrinks.many.bind fun _ => Shrinks.pure _

/-! ## Expressions -/

section Expressions

variable {size : Nat} {one other : Parser Node}

theorem functionCall_agree (agree : AgreeWithin size size one other) :
    AgreeWithin (size + 1) (size + 1) (functionCall one) (functionCall other) := by
  have name : Takes (lexeme (scanWord Char.isAlpha isNameChar)) := (scanWord_shortens _ _).takes
  have bracket : Shrinks (symbol "(") := (symbol_takes (by decide)).shrinks
  have closing : Shrinks (symbol ")") := (symbol_takes (by decide)).shrinks
  exact ((name size).bind fun _ => (bracket size).bind fun _ =>
    ((comma_takes.shrinks size).separated1 agree).optional.bind fun _ =>
      (closing size).bind fun _ => AgreeWithin.pure _).weaken (Nat.le_succ size)

theorem parenthesised_agree (agree : AgreeWithin size size one other) :
    AgreeWithin (size + 1) (size + 1) (parenthesised one) (parenthesised other) := by
  have bracket : Takes (symbol "(") := symbol_takes (by decide)
  have closing : Shrinks (symbol ")") := (symbol_takes (by decide)).shrinks
  exact ((bracket size).bind fun _ => agree.bind fun _ => (closing size).bind fun _ =>
    AgreeWithin.pure _).weaken (Nat.le_succ size)

theorem operand_agree (agree : AgreeWithin size size one other) :
    AgreeWithin (size + 1) (size + 1) (operand one) (operand other) := by
  have leaf : ∀ {parser : Parser Node}, Takes parser →
      AgreeWithin (size + 1) (size + 1) parser parser := fun takes => takes.shrinks (size + 1)
  exact AgreeWithin.firstOf_cons (functionCall_agree agree) <|
    AgreeWithin.firstOf_cons (leaf (variableName_takes.map _)) <|
    AgreeWithin.firstOf_cons (leaf (quotedLiteral_takes.map _)) <|
    AgreeWithin.firstOf_cons (leaf (number_takes.map _)) <|
    AgreeWithin.firstOf_cons (leaf (boolean_takes.map _)) <|
    AgreeWithin.firstOf_cons (leaf (iri_takes.map _)) <|
    AgreeWithin.firstOf_cons (parenthesised_agree agree) AgreeWithin.firstOf_nil

theorem product_agree (agree : AgreeWithin size size one other) :
    AgreeWithin (size + 1) (size + 1) (product one) (product other) :=
  ((oneOf_takes (by decide)).shrinks (size + 1)).leftChain (operand_agree agree)

theorem sum_agree (agree : AgreeWithin size size one other) :
    AgreeWithin (size + 1) (size + 1) (sum one) (sum other) :=
  ((oneOf_takes (by decide)).shrinks (size + 1)).leftChain (product_agree agree)

theorem comparison_agree (agree : AgreeWithin size size one other) :
    AgreeWithin (size + 1) (size + 1) (comparison one) (comparison other) := by
  have operator : Shrinks comparisonOperator := (oneOf_takes (by decide)).shrinks
  refine (sum_agree agree).bind fun left => ?_
  refine ((operator _).bind fun _ => (sum_agree agree).bind fun _ => .pure _).optional.bind ?_
  rintro (_ | ⟨sign, right⟩)
  · exact .pure _
  · exact .pure _

theorem negation_agree (agree : AgreeWithin size size one other) :
    AgreeWithin (size + 1) (size + 1) (negation one) (negation other) := by
  have sign : Shrinks (symbol "!") := (symbol_takes (by decide)).shrinks
  exact (sign.optional _).bind fun _ => (comparison_agree agree).bind fun _ => .pure _

theorem connected_agree {connective : Connective} {one other : Parser Node}
    (agree : AgreeWithin size size one other) :
    AgreeWithin size size (connected connective one) (connected connective other) := by
  have separator : Shrinks (symbol connective.symbol) :=
    (symbol_takes (by cases connective <;> decide)).shrinks
  refine ((separator size).separated1 agree).bind fun operands => ?_
  rcases operands with _ | ⟨first, _ | ⟨second, others⟩⟩ <;> exact .pure _

theorem expressionRule_narrows : AgreeWithin.Narrows expressionRule :=
  fun _ _ _ agree => connected_agree (connected_agree (negation_agree agree))

theorem expression_eq : expression = expressionRule expression :=
  Parser.nested_eq expressionRule_narrows

theorem expression_shrinks : Shrinks expression :=
  Shrinks.nested expressionRule_narrows

end Expressions

/-! ## Groups -/

theorem optionalStop_shrinks : Shrinks optionalStop :=
  (symbol_takes (by decide)).shrinks.optional.bind fun _ => Shrinks.pure _

theorem functionCall_shrinks : Shrinks (functionCall expression) :=
  .of_succ fun size => functionCall_agree (expression_shrinks size)

theorem parenthesised_shrinks : Shrinks (parenthesised expression) :=
  .of_succ fun size => parenthesised_agree (expression_shrinks size)

theorem filterClause_takes : Takes filterClause := by
  refine (foldedWord_takes (by decide)).bind fun _ => Shrinks.bind (fun size => ?_) fun _ =>
    optionalStop_shrinks.bind fun _ => Shrinks.pure _
  exact AgreeWithin.firstOf_cons (parenthesised_shrinks size) <|
    AgreeWithin.firstOf_cons (functionCall_shrinks size) AgreeWithin.firstOf_nil

theorem triplesBlock_takes : Takes triplesBlock :=
  triplesSameSubject_takes.bind fun _ => optionalStop_shrinks.bind fun _ => Shrinks.pure _

theorem entry_agree {size : Nat} {one other : Parser Group}
    (agree : AgreeWithin size size one other) :
    AgreeWithin size size (entry one) (entry other) := by
  have optional : Shrinks (caselessKeyword "OPTIONAL") := (foldedWord_takes (by decide)).shrinks
  have union : Shrinks (caselessKeyword "UNION") := (foldedWord_takes (by decide)).shrinks
  have stopped : ∀ {value : Node},
      AgreeWithin size size (optionalStop >>= fun _ => pure value) (optionalStop >>= fun _ =>
        pure value) := fun {value} => (optionalStop_shrinks size).bind fun _ => .pure _
  refine AgreeWithin.firstOf_cons (filterClause_takes.shrinks size) <|
    AgreeWithin.firstOf_cons ((optional size).bind fun _ => agree.bind fun _ => stopped) <|
    AgreeWithin.firstOf_cons (((union size).separated1 agree).bind fun alternatives =>
      (optionalStop_shrinks size).bind fun _ => ?_) <|
    AgreeWithin.firstOf_cons (triplesBlock_takes.shrinks size) AgreeWithin.firstOf_nil
  rcases alternatives with _ | ⟨first, _ | ⟨second, others⟩⟩ <;> exact .pure _

theorem groupRule_narrows : AgreeWithin.Narrows groupRule := by
  intro size one other agree
  have opening : Takes (symbol "\x7b") := symbol_takes (by decide)
  have closing : Shrinks (symbol "\x7d") := (symbol_takes (by decide)).shrinks
  exact ((opening size).bind fun _ => (entry_agree agree).many.bind fun _ =>
    (closing size).bind fun _ => .pure _).weaken (Nat.le_succ size)

theorem group_eq : group = groupRule group :=
  Parser.nested_eq groupRule_narrows

theorem group_shrinks : Shrinks group :=
  Shrinks.nested groupRule_narrows

theorem groupRule_takes {inner : Parser Group} (shrinks : Shrinks inner) :
    Takes (groupRule inner) := by
  have opening : Takes (symbol "\x7b") := symbol_takes (by decide)
  have closing : Shrinks (symbol "\x7d") := (symbol_takes (by decide)).shrinks
  have entries : Shrinks (entry inner) := fun size => entry_agree (shrinks size)
  exact opening.bind fun _ => entries.many.bind fun _ => closing.bind fun _ => Shrinks.pure _

theorem group_takes : Takes group :=
  group_eq ▸ groupRule_takes group_shrinks

theorem entry_takes {inner : Parser Group} (takes : Takes inner) : Takes (entry inner) := by
  have union : Shrinks (caselessKeyword "UNION") := (foldedWord_takes (by decide)).shrinks
  refine Takes.firstOf ?_
  simp only [List.forall_mem_cons]
  refine ⟨filterClause_takes, ?_, ?_, triplesBlock_takes, by simp⟩
  · exact (foldedWord_takes (by decide)).bind fun _ => takes.shrinks.bind fun _ =>
      optionalStop_shrinks.bind fun _ => Shrinks.pure _
  · refine (Takes.separated1 union takes).bind fun alternatives =>
      optionalStop_shrinks.bind fun _ => ?_
    rcases alternatives with _ | ⟨first, _ | ⟨second, others⟩⟩ <;> exact Shrinks.pure _

/-! ## Query forms -/

theorem prefixDeclaration_takes : Takes prefixDeclaration :=
  (foldedWord_takes (by decide)).bind fun _ => prefixLabel_takes.shrinks.bind fun _ =>
    iriRef_takes.shrinks.bind fun _ => Shrinks.pure _

theorem orderCondition_takes : Takes orderCondition := by
  have opening : Shrinks (symbol "(") := (symbol_takes (by decide)).shrinks
  have closing : Shrinks (symbol ")") := (symbol_takes (by decide)).shrinks
  refine Takes.firstOf ?_
  simp only [List.forall_mem_cons]
  refine ⟨?_, ?_, variableName_takes.map _, by simp⟩
  · exact (foldedWord_takes (by decide)).bind fun _ => opening.bind fun _ =>
      variableName_takes.shrinks.bind fun _ => closing.bind fun _ => Shrinks.pure _
  · exact (foldedWord_takes (by decide)).bind fun _ => opening.bind fun _ =>
      variableName_takes.shrinks.bind fun _ => closing.bind fun _ => Shrinks.pure _

end FactQuery.Sparql
