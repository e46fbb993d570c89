import FactQuery.Proofs.Token.LiteralSuffix
import FactQuery.Turtle.Document

/-!
# Statements and documents are read

How the parts of a statement make up a statement of one triple, where no directive and no statement
begins, and how statements in a row make up a document.  What the parts are is left open.
-/

set_option autoImplicit false

namespace FactQuery.Turtle

open FactQuery.Text FactQuery.Grammar FactQuery.Token

/-! ## Statements of one triple -/

def ending (rest : List Char) : List Char :=
  ' ' :: '.' :: rest

theorem nodes_miss (inner : Parser (List Property)) {gap text : List Char} (blank : IsGap gap)
    (starts : Stops isLayoutStart text) (noNode : Stops (fun c => c == '_' || c == '[') text) :
    Misses blankLabel (gap ++ text) ∧ Misses (bracketed inner) (gap ++ text) := by
  have refused : scanBlankLabel text = none ∧ exactly "[".toList text = none := by
    cases text with
    | nil => exact ⟨rfl, rfl⟩
    | cons c rest =>
        rw [Stops.cons_iff, Bool.or_eq_false_iff, beq_eq_false_iff_ne, beq_eq_false_iff_ne]
          at noNode
        exact ⟨by simp [scanBlankLabel, noNode.1], exactly_eq_none [] rest (Ne.symm noNode.2)⟩
  exact ⟨(lexeme_misses blank starts refused.1).bind,
    (symbol_misses blank starts refused.2).bind⟩

/-- A literal is read where neither a name nor a node begins. -/
theorem object_reads_literal {inner : Parser (List Property)} {value : Object}
    {gap text rest : List Char} (noName : Misses iri (gap ++ (text ++ rest)))
    (noNode : Misses blankLabel (gap ++ (text ++ rest)) ∧
      Misses (bracketed inner) (gap ++ (text ++ rest)))
    (reads : Reads (Parser.firstOf [quotedLiteral, number, boolean]) (gap ++ text) value rest) :
    Reads (object inner) (gap ++ text) value rest := by
  rw [← List.append_assoc] at noName noNode
  exact ((reads.firstOf_later noNode.2.map).firstOf_later noNode.1.map).firstOf_later noName.map

theorem properties_reads_single {name : Iri} {value : Object} {verbText text rest : List Char}
    (verbReads : Reads predicate verbText name (text ++ ending rest))
    (objectReads : ∀ inner, Reads (object inner) text value (ending rest)) :
    Reads properties (verbText ++ text) [(name, value)] (ending rest) := by
  apply Reads.nested
  intro levels
  generalize Parser.nestedWithin propertyRule levels = inner
  have starts : Stops isLayoutStart ('.' :: rest) := rfl
  have noComma : Misses (symbol ",") (ending rest) := symbol_misses IsGap.space starts rfl
  have noSemicolon : Misses (symbol ";") (ending rest) := symbol_misses IsGap.space starts rfl
  have objects := (objectReads inner).separated1_single noComma
  have group : Reads (propertyGroup inner) (verbText ++ text) [(name, value)] (ending rest) :=
    verbReads.bind objects.bind_pure
  have others : Reads (Parser.many do
      symbol ";"
      Parser.optional (propertyGroup inner)) [] [] (ending rest) :=
    Misses.many_nil noSemicolon.bind
  exact group.bind_end others.bind_pure

theorem triples_reads_stated {about : Subject} {stated : List Property}
    {subjectText text rest : List Char}
    (subjectReads : Reads subject subjectText about (text ++ ending rest))
    (statedReads : Reads properties text stated (ending rest)) :
    Reads triples (subjectText ++ (text ++ [' ', '.'])) (.triples about stated) rest := by
  have stop : Reads (symbol ".") [' ', '.'] () rest := symbol_reads IsGap.space rfl
  have behind : Reads (do
      let stated ← Parser.optional properties
      symbol "."
      return Statement.triples about (stated.getD [])) (text ++ [' ', '.'])
      (.triples about stated) rest :=
    statedReads.optional_some.bind stop.bind_pure
  refine Reads.bind ?_ behind
  rw [List.append_assoc]
  exact subjectReads

/-! ## Where no statement begins -/

/-- A directive begins with a mark or with its word. -/
theorem directives_miss_of {gap text : List Char} (blank : IsGap gap)
    (starts : Stops isLayoutStart text) (noMark : Stops (· == '@') text)
    (noDeclaration : Misses (do
      caselessKeyword "PREFIX"
      let label ← prefixLabel
      let name ← iriRef
      return Statement.declare label name) (gap ++ text))
    (noBase : Misses (do
      caselessKeyword "BASE"
      let name ← iriRef
      return Statement.rebase name) (gap ++ text)) :
    Misses declaration (gap ++ text) ∧ Misses baseDirective (gap ++ text) := by
  have noSymbol : ∀ token : String, token.toList.head? = some '@' →
      Misses (symbol token) (gap ++ text) := by
    intro token marked
    refine symbol_misses blank starts ?_
    cases letters : token.toList with
    | nil => simp [letters] at marked
    | cons c others =>
        have same : c = '@' := by simpa [letters] using marked
        subst same
        cases text with
        | nil => rfl
        | cons d rest =>
            rw [Stops.cons_iff, beq_eq_false_iff_ne] at noMark
            exact exactly_eq_none others rest (Ne.symm noMark)
  constructor
  · refine Misses.firstOf ?_
    simp only [List.forall_mem_cons]
    exact ⟨(noSymbol "@prefix" rfl).bind, noDeclaration, by simp⟩
  · refine Misses.firstOf ?_
    simp only [List.forall_mem_cons]
    exact ⟨(noSymbol "@base" rfl).bind, noBase, by simp⟩

/-- The word of a directive has four letters or more. -/
theorem directives_miss {gap text : List Char} (blank : IsGap gap)
    (starts : Stops isLayoutStart text) (noMark : Stops (· == '@') text)
    (short : (text.takeWhile (foldsToIdentifier capital)).length < 4) :
    Misses declaration (gap ++ text) ∧ Misses baseDirective (gap ++ text) := by
  have noWord : ∀ word : String, IsKeyword capital word → 4 ≤ word.toList.length →
      Misses (caselessKeyword word) (gap ++ text) := by
    intro word isKeyword long
    refine foldedWord_misses isKeyword blank starts fun same => ?_
    have size := congrArg List.length same
    rw [List.length_map] at size
    omega
  exact directives_miss_of blank starts noMark (noWord "PREFIX" (by decide) (by decide)).bind
    (noWord "BASE" (by decide) (by decide)).bind

theorem statement_misses_end {gap : List Char} (blank : IsGap gap) : Misses statement gap := by
  have starts : Stops isLayoutStart [] := rfl
  have noDirective := directives_miss blank starts rfl (Nat.zero_lt_succ 3)
  have noName : Misses iri (gap ++ []) := iri_misses blank starts rfl
  obtain ⟨noLabel, noBracket⟩ := nodes_miss properties blank starts rfl
  rw [List.append_nil] at noDirective noName noLabel noBracket
  have noSubject : Misses subject gap := by
    refine Misses.firstOf ?_
    simp only [List.forall_mem_cons]
    exact ⟨noName.map, noLabel.map, noBracket.map, by simp⟩
  refine Misses.firstOf ?_
  simp only [List.forall_mem_cons]
  exact ⟨noDirective.1, noDirective.2, noSubject.bind, by simp⟩

/-! ## Documents -/

theorem parseStatements_of_readsEach {first others gap : List Char} {value : Statement}
    {values : List Statement} (noTab : '\t' ∉ first ++ others ++ gap) (nonempty : first ≠ [])
    (begins : ReadsFrom none statement first value (others ++ gap))
    (later : ReadsEach statement others values gap) (blank : IsGap gap) :
    parseStatements (String.ofList (first ++ others ++ gap)) = .ok (value :: values) := by
  have expanded : expandTabs (first ++ others ++ gap) = first ++ others ++ gap :=
    expandTabsFrom_eq_self noTab 0
  obtain ⟨last, run⟩ := ReadsEach.many_after nonempty begins later
  have whole : statements ⟨none, first ++ others ++ gap⟩ = .matched (value :: values) ⟨last, gap⟩ :=
    run
  rw [parseStatements, String.toList_ofList, expanded]
  simp only [Cursor.start, whole, skipLayout_rest blank]
  rfl

end FactQuery.Turtle
