import FactQuery.Proofs.Grammar.Amid
import FactQuery.Proofs.Turtle.Levels
import FactQuery.Proofs.Turtle.Statement

/-!
# The places of a literal in a document

A literal stands as an object, of a subject or of an anonymous node in brackets at any depth.  From
there the way to the whole document leads through lists of objects, groups of properties and
brackets.  Each step of the way is a rule of the grammar, with the texts beside it given by what the
grammar reads there; the literal may be any that is read up to the same place.
-/

set_option autoImplicit false

namespace FactQuery.Turtle

open FactQuery.Text FactQuery.Grammar FactQuery.Token

/-! ## The rules on the way -/

/-- The rules of the grammar that can have a quoted literal somewhere in what they read. -/
inductive Rule where
  | object
  | group
  | properties
  | statement
  | document

namespace Rule

def Value : Rule → Type
  | .object => Object
  | .group => List Property
  | .properties => List Property
  | .statement => Statement
  | .document => List Statement

def parser : (rule : Rule) → Parser rule.Value
  | .object => Turtle.object Turtle.properties
  | .group => propertyGroup Turtle.properties
  | .properties => Turtle.properties
  | .statement => Turtle.statement
  | .document => statements

end Rule

/-- From `here` a literal is to be read up to `behind`.  The rule, started at a place, comes to it,
and goes on behind it to its end; its value is given for every literal. -/
inductive Place (here behind : Cursor) :
    (rule : Rule) → Cursor → (Object → rule.Value) → Cursor → Prop where
  | literal : Place here behind .object here id behind
  | bracket {start inner next last : Cursor} {fill : Object → List Property}
      (opened : symbol "[" start = .matched () inner)
      (inside : Place here behind .properties inner fill next)
      (closed : symbol "]" next = .matched () last) :
      Place here behind .object start (fun literal => .anonymous (fill literal)) last
  | group {start middle inner next last : Cursor} {name : Iri} {before after : List Object}
      {fill : Object → Object} (predicated : predicate start = .matched name middle)
      (amid : AmidSeparated (symbol ",") (object properties) middle before inner next after last)
      (inside : Place here behind .object inner fill next) :
      Place here behind .group start
        (fun literal => (before ++ fill literal :: after).map fun value => (name, value)) last
  | firstGroup {start next last : Cursor} {others : List (Option (List Property))}
      {fill : Object → List Property} (inside : Place here behind .group start fill next)
      (later : RunsOut (laterGroup properties) next others last) :
      Place here behind .properties start
        (fun literal => fill literal ++ others.flatMap fun group => group.getD []) last
  | laterGroup {start middle gap inner past last : Cursor} {first : List Property}
      {before after : List (Option (List Property))} {fill : Object → List Property}
      (opening : propertyGroup properties start = .matched first middle)
      (earlier : Runs (laterGroup properties) middle before gap)
      (separated : symbol ";" gap = .matched () inner)
      (inside : Place here behind .group inner fill past)
      (later : RunsOut (laterGroup properties) past after last) :
      Place here behind .properties start (fun literal =>
        first ++ (before ++ some (fill literal) :: after).flatMap fun group => group.getD []) last
  | stated {start middle next last : Cursor} {about : Subject} {fill : Object → List Property}
      (noDirective : ∀ directive ∈ [declaration, baseDirective], directive start = .missed)
      (named : subject start = .matched about middle)
      (inside : Place here behind .properties middle fill next)
      (ended : symbol "." next = .matched () last) :
      Place here behind .statement start (fun literal => .triples about (fill literal)) last
  | within {start inner next past gap last : Cursor} {more : Option (List Property)}
      {fill : Object → List Property} (opened : symbol "[" start = .matched () inner)
      (inside : Place here behind .properties inner fill next)
      (closed : symbol "]" next = .matched () past)
      (stated : Parser.optional properties past = .matched more gap)
      (ended : symbol "." gap = .matched () last) :
      Place here behind .statement start
        (fun literal => .triples (.anonymous (fill literal)) (more.getD [])) last
  | document {start inner next last : Cursor} {before after : List Statement}
      {fill : Object → Statement} (amid : AmidMany statement start before inner next after last)
      (inside : Place here behind .statement inner fill next)
      (ended : last.skipLayout.rest = []) :
      Place here behind .document start (fun literal => before ++ fill literal :: after) last

/-! ## Alternatives that refuse -/

section Refusals

variable {place next : Cursor}

theorem blankLabel_passes : PassesLayout blankLabel :=
  (lexeme_passes _).bind

theorem bracketed_passes (inner : Parser (List Property)) : PassesLayout (bracketed inner) :=
  (lexeme_passes _).bind.bind

theorem misses_at_literal {literal : Object} (read : quotedLiteral place = .matched literal next) :
    iri place = .missed ∧ blankLabel place = .missed ∧ bracketed properties place = .missed := by
  obtain ⟨value, middle, run, -⟩ := andThen_eq_matched read
  obtain ⟨c, more, ahead, quote⟩ := exists_quote run
  have outside : isLayoutStart c = false ∧ isNameFront c = false ∧
      (c == '_' || c == '[') = false := by
    simp only [isQuote, Bool.or_eq_true, beq_iff_eq] at quote
    rcases quote with rfl | rfl <;> decide
  have starts : Stops isLayoutStart (c :: more) := Stops.cons_iff.2 outside.1
  have noNode := nodes_miss properties IsGap.nil starts (Stops.cons_iff.2 outside.2.2)
  refine ⟨iri_passes.missed ?_, blankLabel_passes.missed ?_, (bracketed_passes _).missed ?_⟩
  · rw [ahead]
    exact iri_misses IsGap.nil starts (Stops.cons_iff.2 outside.2.1)
  · rw [ahead]
    exact noNode.1
  · rw [ahead]
    exact noNode.2

theorem misses_at_bracket (opened : symbol "[" place = .matched () next) :
    iri place = .missed ∧ blankLabel place = .missed := by
  have ahead : place.skipLayout.rest = '[' :: next.rest := symbol_eq_matched opened
  have noName : Misses iri ('[' :: next.rest) := @iri_misses [] _ IsGap.nil rfl rfl
  have noLabel : Misses (lexeme scanBlankLabel) ('[' :: next.rest) :=
    @lexeme_misses scanBlankLabel [] _ IsGap.nil rfl rfl
  exact ⟨iri_passes.missed (ahead ▸ noName), blankLabel_passes.missed (ahead ▸ noLabel.bind)⟩

theorem directives_miss_bracket (opened : symbol "[" place = .matched () next) :
    declaration place = .missed ∧ baseDirective place = .missed := by
  have ahead : place.skipLayout.rest = '[' :: next.rest := symbol_eq_matched opened
  have refused : Misses declaration ('[' :: next.rest) ∧ Misses baseDirective ('[' :: next.rest) :=
    directives_miss IsGap.nil rfl rfl (Nat.zero_lt_succ 3)
  have passes : PassesLayout declaration ∧ PassesLayout baseDirective := by
    refine ⟨PassesLayout.firstOf ?_, PassesLayout.firstOf ?_⟩
    · simp only [List.forall_mem_cons]
      exact ⟨(lexeme_passes _).bind.bind, (foldedWord_passes _ _).bind, by simp⟩
    · simp only [List.forall_mem_cons]
      exact ⟨(lexeme_passes _).bind.bind, (foldedWord_passes _ _).bind, by simp⟩
  exact ⟨passes.1.missed (ahead ▸ refused.1), passes.2.missed (ahead ▸ refused.2)⟩

end Refusals

/-! ## Runs of the rules -/

section Runs

variable {start middle inner next past gap last : Cursor}

theorem object_at_literal {literal : Object} (read : quotedLiteral start = .matched literal last) :
    object properties start = .matched literal last := by
  obtain ⟨noName, noLabel, noBracket⟩ := misses_at_literal read
  exact (firstOf_missed (map_missed noName)).trans <| (firstOf_missed (map_missed noLabel)).trans <|
    (firstOf_missed (map_missed noBracket)).trans (firstOf_matched read)

theorem bracketed_at {inside : List Property} (opened : symbol "[" start = .matched () inner)
    (read : properties inner = .matched inside next)
    (closed : symbol "]" next = .matched () last) :
    bracketed properties start = .matched inside last := by
  simp only [bracketed, Parser.bind_apply, opened, optional_matched read, closed, Outcome.andThen]
  rfl

theorem object_at_bracket {inside : List Property} (opened : symbol "[" start = .matched () inner)
    (read : properties inner = .matched inside next)
    (closed : symbol "]" next = .matched () last) :
    object properties start = .matched (.anonymous inside) last := by
  obtain ⟨noName, noLabel⟩ := misses_at_bracket opened
  exact (firstOf_missed (map_missed noName)).trans <| (firstOf_missed (map_missed noLabel)).trans <|
    firstOf_matched (map_matched (bracketed_at opened read closed))

theorem propertyGroup_at {name : Iri} {value : Object} {before after : List Object}
    (predicated : predicate start = .matched name middle)
    (amid : AmidSeparated (symbol ",") (object properties) middle before inner next after last)
    (read : object properties inner = .matched value next) :
    propertyGroup properties start =
      .matched ((before ++ value :: after).map fun value => (name, value)) last := by
  have listed := amid.run comma_takes (object_takes properties_shrinks).shrinks read
  simp only [propertyGroup, Parser.bind_apply, predicated, listed, Outcome.andThen]
  rfl

theorem properties_at {first : List Property} {others : List (Option (List Property))}
    (opening : propertyGroup properties start = .matched first middle)
    (later : RunsOut (laterGroup properties) middle others last) :
    properties start = .matched (first ++ others.flatMap fun group => group.getD []) last := by
  have groups := later.many (laterGroup_takes properties_shrinks)
  rw [laterGroup] at groups
  rw [properties_eq]
  simp only [propertyRule, Parser.bind_apply, opening, groups, Outcome.andThen]
  rfl

theorem laterGroup_at {pairs : List Property} (separated : symbol ";" start = .matched () inner)
    (read : propertyGroup properties inner = .matched pairs last) :
    laterGroup properties start = .matched (some pairs) last := by
  rw [laterGroup, Parser.bind_apply, separated]
  exact optional_matched read

theorem statement_at_triples {about : Subject} {more : Option (List Property)}
    (noDirective : declaration start = .missed ∧ baseDirective start = .missed)
    (named : subject start = .matched about middle)
    (stated : Parser.optional properties middle = .matched more next)
    (ended : symbol "." next = .matched () last) :
    statement start = .matched (.triples about (more.getD [])) last := by
  refine (firstOf_missed noDirective.1).trans <| (firstOf_missed noDirective.2).trans <|
    firstOf_matched ?_
  simp only [triples, Parser.bind_apply, named, stated, ended, Outcome.andThen]
  rfl

theorem subject_at_bracket {inside : List Property} (opened : symbol "[" start = .matched () inner)
    (read : properties inner = .matched inside next)
    (closed : symbol "]" next = .matched () last) :
    subject start = .matched (.anonymous inside) last := by
  obtain ⟨noName, noLabel⟩ := misses_at_bracket opened
  exact (firstOf_missed (map_missed noName)).trans <| (firstOf_missed (map_missed noLabel)).trans <|
    firstOf_matched (map_matched (bracketed_at opened read closed))

end Runs

/-! ## A literal is read in its place -/

/-- The literal is read, and with it the whole of what stands around it. -/
theorem Place.run {here behind start last : Cursor} {literal : Object} {rule : Rule}
    {fill : Object → rule.Value} (place : Place here behind rule start fill last)
    (read : quotedLiteral here = .matched literal behind) :
    rule.parser start = .matched (fill literal) last := by
  induction place with
  | literal => exact object_at_literal read
  | bracket opened inside closed inductionHypothesis =>
      exact object_at_bracket opened inductionHypothesis closed
  | group predicated amid inside inductionHypothesis =>
      exact propertyGroup_at predicated amid inductionHypothesis
  | firstGroup inside later inductionHypothesis => exact properties_at inductionHypothesis later
  | laterGroup opening earlier separated inside later inductionHypothesis =>
      exact properties_at opening
        (earlier.more (laterGroup_at separated inductionHypothesis) later)
  | stated noDirective named inside ended inductionHypothesis =>
      refine statement_at_triples ?_ named (optional_matched inductionHypothesis) ended
      exact ⟨noDirective _ (by simp), noDirective _ (by simp)⟩
  | within opened inside closed stated ended inductionHypothesis =>
      exact statement_at_triples (directives_miss_bracket opened)
        (subject_at_bracket opened inductionHypothesis closed) stated ended
  | document amid inside ended inductionHypothesis =>
      exact amid.run statement_takes inductionHypothesis

end FactQuery.Turtle
