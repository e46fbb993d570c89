import FactQuery.Proofs.Turtle.Levels

/-!
# Where a run stops

A run never leaves the text ahead of it.  Of the place behind a match this is said elsewhere; here
it is said of the place at which a run aborts too, which is what a bad escape is told by.
-/

set_option autoImplicit false

namespace FactQuery.Grammar

open FactQuery.Text FactQuery.Token

variable {α β : Type}

/-! ## Places of a run -/

/-- The place that is left, or where the run aborts, has at most this many characters ahead. -/
def Outcome.Within (bound : Nat) : Outcome α → Prop
  | .matched _ next => next.rest.length ≤ bound
  | .missed => True
  | .aborted _ stop => stop.rest.length ≤ bound

theorem Outcome.Within.mono {outcome : Outcome α} {bound more : Nat}
    (within : outcome.Within bound) (le : bound ≤ more) : outcome.Within more := by
  cases outcome with
  | matched value next => exact Nat.le_trans within le
  | missed => trivial
  | aborted error stop => exact Nat.le_trans within le

theorem Outcome.Within.andThen {outcome : Outcome α} {next : α → Cursor → Outcome β} {bound : Nat}
    (within : outcome.Within bound)
    (later : ∀ value place, (next value place).Within place.rest.length) :
    (outcome.andThen next).Within bound := by
  cases outcome with
  | matched value place => exact (later value place).mono within
  | missed => trivial
  | aborted error stop => exact within

/-- Every run stays in the text ahead, one that aborts included. -/
def StaysAhead (parser : Parser α) : Prop :=
  ∀ place, (parser place).Within place.rest.length

namespace StaysAhead

theorem pure (value : α) : StaysAhead (Pure.pure value : Parser α) :=
  fun place => Nat.le_refl place.rest.length

theorem bind {parser : Parser α} {next : α → Parser β} (first : StaysAhead parser)
    (second : ∀ value, StaysAhead (next value)) : StaysAhead (parser >>= next) :=
  fun place => (first place).andThen second

theorem map {parser : Parser α} (stays : StaysAhead parser) (change : α → β) :
    StaysAhead (change <$> parser) :=
  stays.bind fun value => pure (change value)

theorem firstOf {parsers : List (Parser α)} (each : ∀ parser ∈ parsers, StaysAhead parser) :
    StaysAhead (Parser.firstOf parsers) := by
  induction parsers with
  | nil => exact fun _ => trivial
  | cons parser others inductionHypothesis =>
      rw [List.forall_mem_cons] at each
      intro place
      have here := each.1 place
      simp only [Parser.firstOf]
      generalize parser place = outcome at here ⊢
      cases outcome with
      | missed => exact inductionHypothesis each.2 place
      | _ => exact here

theorem optional {parser : Parser α} (stays : StaysAhead parser) :
    StaysAhead (Parser.optional parser) := by
  intro place
  have here := stays place
  simp only [Parser.optional]
  generalize parser place = outcome at here ⊢
  cases outcome with
  | missed => exact Nat.le_refl _
  | _ => exact here

theorem many {parser : Parser α} (stays : StaysAhead parser) :
    StaysAhead (Parser.many parser) := by
  have within : ∀ bound, StaysAhead (Parser.manyWithin parser bound) := by
    intro bound
    induction bound with
    | zero => exact pure []
    | succ bound inductionHypothesis =>
        intro place
        have here := stays place
        simp only [Parser.manyWithin]
        generalize parser place = outcome at here ⊢
        cases outcome with
        | matched value next => exact ((inductionHypothesis.map (value :: ·)) next).mono here
        | missed => exact Nat.le_refl _
        | aborted error stop => exact here
  exact fun place => within _ place

theorem separated1 {separator : Parser Unit} {parser : Parser α} (separators : StaysAhead separator)
    (stays : StaysAhead parser) : StaysAhead (Parser.separated1 separator parser) :=
  stays.bind fun _ => (separators.bind fun _ => stays).many.bind fun _ => pure _

theorem nested {rule : Parser α → Parser α}
    (level : ∀ inner, StaysAhead inner → StaysAhead (rule inner)) :
    StaysAhead (Parser.nested rule) := by
  have within : ∀ levels, StaysAhead (Parser.nestedWithin rule levels) := by
    intro levels
    induction levels with
    | zero => exact fun _ => trivial
    | succ levels inductionHypothesis => exact level _ inductionHypothesis
  exact fun place => within _ place

/-! ## Tokens -/

theorem of_takes {parser : Parser α} (takes : Takes parser)
    (aborts : ∀ place error stop, parser place = .aborted error stop →
      stop.rest.length ≤ place.rest.length) : StaysAhead parser := by
  intro place
  cases run : parser place with
  | matched value next =>
      have here : Below (place.rest.length + 1) place := Nat.lt_succ_self _
      exact Nat.le_of_lt ((takes _).leaves place here value next run)
  | missed => trivial
  | aborted error stop => exact aborts place error stop run

theorem lexeme {scan : Scanner} (shortens : Shortens scan) : StaysAhead (Grammar.lexeme scan) := by
  refine of_takes shortens.takes fun place error stop run => ?_
  simp only [Grammar.lexeme] at run
  split at run <;> cases run

theorem symbol {token : String} (nonempty : token.toList ≠ []) : StaysAhead (symbol token) := by
  refine of_takes (symbol_takes nonempty) fun place error stop run => ?_
  simp only [Grammar.symbol, Parser.bind_apply, Grammar.lexeme] at run
  split at run <;> cases run

theorem foldedWord {fold : Char → Char} {word : String} (nonempty : word.toList ≠ []) :
    StaysAhead (foldedWord fold word) := by
  refine of_takes (foldedWord_takes nonempty) fun place error stop run => ?_
  simp only [Grammar.foldedWord] at run
  split at run
  · split at run <;> cases run
  · cases run

end StaysAhead

end FactQuery.Grammar

namespace FactQuery.Token

open FactQuery.Grammar

theorem iriRef_staysAhead : StaysAhead iriRef :=
  (StaysAhead.lexeme scanIriRef_shortens).bind fun _ => .pure _

theorem iri_staysAhead : StaysAhead iri := by
  refine .firstOf ?_
  simp only [List.forall_mem_cons]
  exact ⟨iriRef_staysAhead.bind fun _ => .pure _,
    (StaysAhead.lexeme scanPrefixedName_shortens).bind fun _ => .pure _, by simp⟩

/-- A bad escape is told at the quote that opens its string. -/
theorem quotedText_staysAhead : StaysAhead quotedText := by
  refine .firstOf fun parser inside => ?_
  obtain ⟨style, -, rfl⟩ := List.mem_map.1 inside
  refine .of_takes (quotedIn_takes style) fun place error stop run => ?_
  simp only [quotedIn] at run
  split at run
  · cases run
  · split at run
    · cases run
    · cases run
      exact length_skipLayoutFrom_le false place.before place.rest

theorem literalSuffix_staysAhead : StaysAhead literalSuffix := by
  have tag : StaysAhead languageTag :=
    (StaysAhead.lexeme scanLanguageTag_shortens).bind fun _ => .pure _
  have mark : StaysAhead (symbol "^^") := .symbol (by decide)
  refine .firstOf ?_
  simp only [List.forall_mem_cons]
  exact ⟨tag.map _, (mark.bind fun _ => iri_staysAhead).map _, by simp⟩

end FactQuery.Token

namespace FactQuery.Turtle

open FactQuery.Text FactQuery.Grammar FactQuery.Token

theorem blankLabel_staysAhead : StaysAhead blankLabel :=
  (StaysAhead.lexeme scanBlankLabel_shortens).bind fun _ => .pure _

theorem number_staysAhead : StaysAhead number := by
  have typed : ∀ {scan : Scanner} (datatype : String),
      scan ∈ [scanDouble, scanDecimal, scanInteger] → StaysAhead (do
        let value ← numberText scan
        return Object.literal value none (some (.full datatype))) :=
    fun _ known => ((StaysAhead.lexeme (number_shortens known)).bind fun _ => .pure _).bind
      fun _ => .pure _
  refine .firstOf ?_
  simp only [List.forall_mem_cons]
  exact ⟨typed _ (by simp), typed _ (by simp), typed _ (by simp), by simp⟩

theorem boolean_staysAhead : StaysAhead boolean := by
  refine .firstOf ?_
  simp only [List.forall_mem_cons]
  exact ⟨(StaysAhead.foldedWord (by decide)).bind fun _ => .pure _,
    (StaysAhead.foldedWord (by decide)).bind fun _ => .pure _, by simp⟩

theorem quotedLiteral_staysAhead : StaysAhead quotedLiteral := by
  refine quotedText_staysAhead.bind fun value =>
    literalSuffix_staysAhead.optional.bind fun suffix => ?_
  rcases suffix with _ | (tag | name) <;> exact .pure _

section Inside

variable {inner : Parser (List Property)}

theorem bracketed_staysAhead (stays : StaysAhead inner) : StaysAhead (bracketed inner) :=
  (StaysAhead.symbol (by decide)).bind fun _ => stays.optional.bind fun _ =>
    (StaysAhead.symbol (by decide)).bind fun _ => .pure _

theorem propertyGroup_staysAhead (stays : StaysAhead inner) : StaysAhead (propertyGroup inner) := by
  have named : StaysAhead predicate := by
    refine .firstOf ?_
    simp only [List.forall_mem_cons]
    exact ⟨iri_staysAhead, (StaysAhead.foldedWord (by decide)).bind fun _ => .pure _, by simp⟩
  have valued : StaysAhead (object inner) := by
    refine .firstOf ?_
    simp only [List.forall_mem_cons]
    exact ⟨iri_staysAhead.map _, blankLabel_staysAhead.map _, (bracketed_staysAhead stays).map _,
      quotedLiteral_staysAhead, number_staysAhead, boolean_staysAhead, by simp⟩
  exact named.bind fun _ =>
    (StaysAhead.separated1 (.symbol (by decide)) valued).bind fun _ => .pure _

end Inside

theorem properties_staysAhead : StaysAhead properties := by
  refine .nested fun inner stays => (propertyGroup_staysAhead stays).bind fun _ => ?_
  have later : StaysAhead (laterGroup inner) :=
    (StaysAhead.symbol (by decide)).bind fun _ => (propertyGroup_staysAhead stays).optional
  exact later.many.bind fun _ => .pure _

theorem statement_staysAhead : StaysAhead statement := by
  have stop : StaysAhead (symbol ".") := .symbol (by decide)
  have labelled : StaysAhead prefixLabel :=
    (StaysAhead.lexeme scanPrefixLabel_shortens).bind fun _ => .pure _
  have declared : StaysAhead declaration := by
    refine .firstOf ?_
    simp only [List.forall_mem_cons]
    refine ⟨?_, ?_, by simp⟩
    · exact (StaysAhead.symbol (by decide)).bind fun _ => labelled.bind fun _ =>
        iriRef_staysAhead.bind fun _ => stop.bind fun _ => .pure _
    · exact (StaysAhead.foldedWord (by decide)).bind fun _ => labelled.bind fun _ =>
        iriRef_staysAhead.bind fun _ => .pure _
  have based : StaysAhead baseDirective := by
    refine .firstOf ?_
    simp only [List.forall_mem_cons]
    refine ⟨?_, ?_, by simp⟩
    · exact (StaysAhead.symbol (by decide)).bind fun _ => iriRef_staysAhead.bind fun _ =>
        stop.bind fun _ => .pure _
    · exact (StaysAhead.foldedWord (by decide)).bind fun _ =>
        iriRef_staysAhead.bind fun _ => .pure _
  have about : StaysAhead subject := by
    refine .firstOf ?_
    simp only [List.forall_mem_cons]
    exact ⟨iri_staysAhead.map _, blankLabel_staysAhead.map _,
      (bracketed_staysAhead properties_staysAhead).map _, by simp⟩
  have stated : StaysAhead triples :=
    about.bind fun _ => properties_staysAhead.optional.bind fun _ => stop.bind fun _ => .pure _
  refine .firstOf ?_
  simp only [List.forall_mem_cons]
  exact ⟨declared, based, stated, by simp⟩

end FactQuery.Turtle
