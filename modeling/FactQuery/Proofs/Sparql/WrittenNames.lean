import FactQuery.Proofs.Sparql.Nesting
import FactQuery.Proofs.Sparql.Terms

/-!
# Names in the order of the text

A query text is a row of pieces, and some of them are the names of what is matched and compared.
Reading the text makes a syntax tree in which a name comes more than once if a semicolon or a comma
stands for the subject or the verb before it.  Both orders agree on which name of a kind comes
first: each production of the grammar moves on in the text by the names that its tree holds.
-/

set_option autoImplicit false

namespace FactQuery.Sparql

open FactQuery.Text FactQuery.Grammar FactQuery.Token

/-! ## Pieces of a text -/

def marks : List String :=
  ["\x7b", "\x7d", "(", ")", ".", ";", ",", "!", "&&", "||"] ++ comparisonSpellings ++
    arithmeticOperators

def keywords : List String :=
  ["SELECT", "ASK", "WHERE", "FILTER", "DISTINCT", "OPTIONAL", "UNION", "LIMIT", "OFFSET", "ORDER",
    "BY", "ASC", "DESC", "TRUE", "FALSE"]

/-- The pieces of a query that name nothing.  The name of a datatype is a part of its literal, and a
declaration only says what a label stands for. -/
inductive IsPlain : {α : Type} → Parser α → Prop where
  | mark {token : String} (known : token ∈ marks) : IsPlain (symbol token)
  | keyword {word : String} (known : word ∈ keywords) : IsPlain (caselessKeyword word)
  | variable : IsPlain variableName
  | blankNode : IsPlain (lexeme scanBlankNode)
  | quotedText : IsPlain quotedText
  | literalSuffix : IsPlain literalSuffix
  | number {scan : Scanner} (known : scan ∈ [scanDouble, scanDecimal, scanInteger]) :
      IsPlain (numberText scan)
  | count : IsPlain (lexeme (scanRun Char.isDigit))
  | declaration : IsPlain prefixDeclaration
  | ending : IsPlain endOfText

/-- The pieces from one place to another hold these names, in this order.  A word with an opening
bracket behind it calls a function, and the keyword `a` is short for a name. -/
inductive Spells (start : Cursor) : List Iri → Cursor → Prop where
  | nothing : Spells start [] start
  | plain {α : Type} {parser : Parser α} {names : List Iri} {place next : Cursor} {value : α}
      (before : Spells start names place) (isPlain : IsPlain parser)
      (found : parser place = .matched value next) : Spells start names next
  | call {names : List Iri} {place middle next : Cursor} {word : List Char}
      (before : Spells start names place)
      (found : lexeme (scanWord Char.isAlpha isNameChar) place = .matched word middle)
      (opened : symbol "(" middle = .matched () next) : Spells start names next
  | name {names : List Iri} {place next : Cursor} {name : Iri} (before : Spells start names place)
      (found : iri place = .matched name next) : Spells start (names ++ [name]) next
  | kind {names : List Iri} {place next : Cursor} (before : Spells start names place)
      (found : Grammar.keyword "a" place = .matched () next) :
      Spells start (names ++ [.full Vocabulary.rdfType]) next

/-! ## The first name of a kind -/

/-- Of every kind of names, both lists have the same one first. -/
def SameFirsts (one two : List Iri) : Prop :=
  ∀ test : Iri → Bool, one.find? test = two.find? test

theorem SameFirsts.refl (names : List Iri) : SameFirsts names names :=
  fun _ => rfl

theorem SameFirsts.trans {one two three : List Iri} (first : SameFirsts one two)
    (second : SameFirsts two three) : SameFirsts one three :=
  fun test => (first test).trans (second test)

theorem SameFirsts.append {one two more others : List Iri} (first : SameFirsts one two)
    (second : SameFirsts more others) : SameFirsts (one ++ more) (two ++ others) := by
  intro test
  rw [List.find?_append, List.find?_append, first test, second test]

theorem SameFirsts.mem_iff {one two : List Iri} (same : SameFirsts one two) (name : Iri) :
    name ∈ one ↔ name ∈ two := by
  have found : (one.find? (· == name)).isSome = true ↔ (two.find? (· == name)).isSome = true := by
    rw [same (· == name)]
  simpa using found

/-- Names in front of several parts may be told once, or with every part. -/
theorem sameFirsts_shared {α : Type} (front : List Iri) (names : α → List Iri) {parts : List α}
    (nonempty : parts ≠ []) :
    SameFirsts (front ++ parts.flatMap names) (parts.flatMap fun part => front ++ names part) := by
  intro test
  cases inFront : front.find? test with
  | some name =>
      obtain ⟨part, others, rfl⟩ := List.exists_cons_of_ne_nil nonempty
      rw [List.find?_append, inFront, Option.some_or, List.flatMap_cons, List.find?_append,
        List.find?_append, inFront]
      rfl
  | none =>
      rw [List.find?_append, inFront, Option.none_or]
      clear nonempty
      induction parts with
      | nil => rfl
      | cons part others inductionHypothesis =>
          rw [List.flatMap_cons, List.flatMap_cons, List.find?_append, List.find?_append,
            List.find?_append, inFront, Option.none_or, inductionHypothesis]

/-! ## Moving on by names -/

def Told (start : Cursor) (names : List Iri) (place : Cursor) : Prop :=
  ∃ written, Spells start written place ∧ SameFirsts written names

/-- Every match of the parser moves on in the text by the names of its value. -/
def Writes {α : Type} (parser : Parser α) (names : α → List Iri) : Prop :=
  ∀ start earlier,
    Ensures (Told start earlier) parser fun value next => Told start (earlier ++ names value) next

def Skips {α : Type} (parser : Parser α) : Prop :=
  ∀ start earlier, Ensures (Told start earlier) parser fun _ next => Told start earlier next

theorem Told.change {start : Cursor} {earlier names : List Iri} {place : Cursor}
    (told : Told start earlier place) (same : SameFirsts earlier names) : Told start names place := by
  obtain ⟨written, spells, firsts⟩ := told
  exact ⟨written, spells, firsts.trans same⟩

section Combinators

variable {α β : Type}

theorem IsPlain.skips {parser : Parser α} (isPlain : IsPlain parser) : Skips parser := by
  rintro start earlier place ⟨written, spells, firsts⟩ value next run
  exact ⟨written, spells.plain isPlain run, firsts⟩

theorem mark_skips {token : String} (known : token ∈ marks) : Skips (symbol token) :=
  (IsPlain.mark known).skips

theorem keyword_skips {word : String} (known : word ∈ keywords) : Skips (caselessKeyword word) :=
  (IsPlain.keyword known).skips

theorem Skips.pure (value : α) : Skips (Pure.pure value : Parser α) :=
  fun _ _ => Ensures.pure fun _ told => told

theorem Skips.bind {parser : Parser α} {next : α → Parser β} (first : Skips parser)
    (second : ∀ value, Skips (next value)) : Skips (parser >>= next) :=
  fun start earlier => (first start earlier).bind fun value => second value start earlier

theorem Skips.firstOf {parsers : List (Parser α)} (each : ∀ parser ∈ parsers, Skips parser) :
    Skips (Parser.firstOf parsers) :=
  fun start earlier => Ensures.firstOf fun parser inside => each parser inside start earlier

theorem Skips.optional {parser : Parser α} (skips : Skips parser) : Skips (Parser.optional parser) :=
  fun start earlier => (skips start earlier).optional fun _ told => told

theorem Skips.writes {parser : Parser α} {names : α → List Iri} (skips : Skips parser)
    (nameless : ∀ value, names value = []) : Writes parser names := by
  intro start earlier place told value next run
  rw [nameless, List.append_nil]
  exact skips start earlier place told value next run

theorem Writes.pure {value : α} {names : α → List Iri} (nameless : names value = []) :
    Writes (Pure.pure value : Parser α) names := by
  refine fun start earlier => Ensures.pure fun place told => ?_
  rw [nameless, List.append_nil]
  exact told

theorem Writes.after {parser : Parser α} {next : α → Parser β} {names : β → List Iri}
    (skips : Skips parser) (writes : ∀ value, Writes (next value) names) :
    Writes (parser >>= next) names :=
  fun start earlier => (skips start earlier).bind fun value => writes value start earlier

theorem Writes.ended {γ : Type} {parser : Parser α} {other : Parser β} {change : α → γ}
    {names : α → List Iri} {changed : γ → List Iri} (writes : Writes parser names)
    (skips : Skips other) (same : ∀ value, changed (change value) = names value) :
    Writes (do
      let value ← parser
      let _ ← other
      return change value) changed := by
  refine fun start earlier => (writes start earlier).bind fun value => ?_
  refine (skips start _).bind fun _ => Ensures.pure fun place told => ?_
  rw [same]
  exact told

theorem Writes.map {parser : Parser α} {change : α → β} {names : α → List Iri}
    {changed : β → List Iri} (writes : Writes parser names)
    (same : ∀ value, changed (change value) = names value) :
    Writes (change <$> parser) changed := by
  refine fun start earlier => (writes start earlier).bind fun value => Ensures.pure ?_
  intro place told
  rw [same]
  exact told

theorem Writes.firstOf {parsers : List (Parser α)} {names : α → List Iri}
    (each : ∀ parser ∈ parsers, Writes parser names) : Writes (Parser.firstOf parsers) names :=
  fun start earlier => Ensures.firstOf fun parser inside => each parser inside start earlier

theorem Writes.optional {parser : Parser α} {names : α → List Iri} (writes : Writes parser names) :
    Writes (Parser.optional parser) fun found => (found.map names).getD [] := by
  intro start earlier place told found next run
  unfold Parser.optional at run
  split at run
  · rename_i value behind firstRun
    cases run
    exact writes start earlier place told value next firstRun
  · cases run
    simpa using told
  · cases run

theorem Writes.many {parser : Parser α} {names : α → List Iri} (writes : Writes parser names) :
    Writes (Parser.many parser) (List.flatMap names) := by
  have within : ∀ bound, Writes (Parser.manyWithin parser bound)
      (List.flatMap names) := by
    intro bound
    induction bound with
    | zero =>
        intro start earlier place told values next run
        cases run
        rw [List.flatMap_nil, List.append_nil]
        exact told
    | succ bound inductionHypothesis =>
        intro start earlier place told values next run
        simp only [Parser.manyWithin] at run
        split at run
        · rename_i first behind firstRun
          obtain ⟨others, last, laterRun, done⟩ := andThen_eq_matched run
          cases done
          rw [List.flatMap_cons, ← List.append_assoc]
          exact inductionHypothesis start _ behind (writes start earlier place told first behind
            firstRun) others next laterRun
        · cases run
          rw [List.flatMap_nil, List.append_nil]
          exact told
        · cases run
  intro start earlier place
  exact within _ start earlier place

theorem Skips.many {parser : Parser α} (skips : Skips parser) : Skips (Parser.many parser) := by
  intro start earlier place told values next run
  have writes : Writes parser fun _ => [] := skips.writes fun _ => rfl
  have nothing : values.flatMap (fun _ => ([] : List Iri)) = [] :=
    List.flatMap_eq_nil_iff.2 fun _ _ => rfl
  have result : Told start (earlier ++ values.flatMap fun _ => []) next :=
    writes.many start earlier place told values next run
  rw [nothing, List.append_nil] at result
  exact result

theorem Skips.many1 {parser : Parser α} (skips : Skips parser) : Skips (Parser.many1 parser) :=
  skips.bind fun _ => skips.many.bind fun _ => Skips.pure _

theorem Writes.separated1 {separator : Parser Unit} {parser : Parser α} {names : α → List Iri}
    (skips : Skips separator) (writes : Writes parser names) :
    Writes (Parser.separated1 separator parser) (List.flatMap names) := by
  have item : Writes (do separator; parser) names := Writes.after skips fun _ => writes
  intro start earlier
  refine (writes start earlier).bind fun first => (item.many start _).bind fun others => ?_
  refine Ensures.pure fun place told => ?_
  rw [List.flatMap_cons, ← List.append_assoc]
  exact told

theorem Writes.leftChain {operator : Parser β} {combine : β → α → α → α} {operand : Parser α}
    {names : α → List Iri} (skips : Skips operator) (writes : Writes operand names)
    (joins : ∀ sign left right, names (combine sign left right) = names left ++ names right) :
    Writes (Parser.leftChain operator combine operand) names := by
  have item : Writes (do
      let sign ← operator
      let next ← operand
      return (sign, next)) fun step => names step.2 :=
    Writes.after skips fun sign => writes.map fun _ => rfl
  have folded : ∀ (steps : List (β × α)) (first : α),
      names (steps.foldl (fun left step => combine step.1 left step.2) first) =
        names first ++ steps.flatMap fun step => names step.2 := by
    intro steps
    induction steps with
    | nil => simp
    | cons step others inductionHypothesis =>
        intro first
        rw [List.foldl_cons, inductionHypothesis, joins, List.flatMap_cons, List.append_assoc]
  intro start earlier
  refine (writes start earlier).bind fun first => (item.many start _).bind fun others => ?_
  refine Ensures.pure fun place told => ?_
  rw [folded, ← List.append_assoc]
  exact told

theorem Writes.nested {rule : Parser α → Parser α} {names : α → List Iri}
    (keeps : ∀ inner, Writes inner names → Writes (rule inner) names) :
    Writes (Parser.nested rule) names := by
  have within : ∀ levels, Writes (Parser.nestedWithin rule levels) names := by
    intro levels
    induction levels with
    | zero =>
        intro start earlier place told value next run
        cases run
    | succ levels inductionHypothesis => exact keeps _ inductionHypothesis
  intro start earlier place
  exact within _ start earlier place

end Combinators

/-! ## Terms and triple patterns -/

namespace Node

theorem irisOf_eq_flatMap (nodes : List Node) : irisOf nodes = nodes.flatMap iris := by
  induction nodes with
  | nil => rfl
  | cons node others inductionHypothesis => rw [irisOf, inductionHypothesis, List.flatMap_cons]

theorem irisOfTriples_eq_flatMap (patterns : List TriplePattern) :
    irisOfTriples patterns = patterns.flatMap irisOfTriple := by
  induction patterns with
  | nil => rfl
  | cons pattern others inductionHypothesis =>
      rw [irisOfTriples, inductionHypothesis, List.flatMap_cons]

theorem irisOfGroups_eq_flatMap (groups : List (List Node)) :
    irisOfGroups groups = groups.flatMap irisOf := by
  induction groups with
  | nil => rfl
  | cons group others inductionHypothesis =>
      rw [irisOfGroups, inductionHypothesis, List.flatMap_cons]

end Node

theorem iri_writes : Writes iri fun name => [name] := by
  rintro start earlier place ⟨written, spells, firsts⟩ name next run
  exact ⟨written ++ [name], spells.name run, firsts.append (SameFirsts.refl _)⟩

theorem variable_writes : Writes (.variable <$> variableName) Term.names :=
  (IsPlain.variable.skips.writes fun _ => rfl).map fun _ => rfl

theorem quotedLiteral_writes : Writes quotedLiteral Term.names := by
  refine Writes.after IsPlain.quotedText.skips fun value => ?_
  refine Writes.after IsPlain.literalSuffix.skips.optional fun suffix => ?_
  split
  · exact Writes.pure rfl
  · exact Writes.pure rfl
  · exact Writes.pure rfl

theorem number_writes : Writes number Term.names := by
  have typed : ∀ scan ∈ [scanDouble, scanDecimal, scanInteger], ∀ datatype, Writes (do
      let value ← numberText scan
      return Term.literal value none (some datatype)) Term.names :=
    fun scan known datatype => Writes.after (IsPlain.number known).skips fun _ => Writes.pure rfl
  refine Writes.firstOf ?_
  simp only [List.forall_mem_cons]
  exact ⟨typed _ (by simp) _, typed _ (by simp) _, typed _ (by simp) _, by simp⟩

theorem boolean_writes : Writes boolean Term.names := by
  have spelled : ∀ word ∈ keywords, ∀ value, Writes (do
      caselessKeyword word
      return Term.literal value none (some Vocabulary.xsdBoolean)) Term.names :=
    fun word known value => Writes.after (keyword_skips known) fun _ => Writes.pure rfl
  refine Writes.firstOf ?_
  simp only [List.forall_mem_cons]
  exact ⟨spelled _ (by decide) _, spelled _ (by decide) _, by simp⟩

theorem iriTerm_writes : Writes (.iri <$> iri) Term.names :=
  iri_writes.map fun _ => rfl

theorem graphTerm_writes : Writes graphTerm Term.names := by
  refine Writes.firstOf ?_
  simp only [List.forall_mem_cons]
  refine ⟨variable_writes, iriTerm_writes, quotedLiteral_writes, number_writes, boolean_writes, ?_,
    by simp⟩
  exact Writes.after IsPlain.blankNode.skips fun _ => Writes.pure rfl

theorem verb_writes : Writes verb Term.names := by
  refine Writes.firstOf ?_
  simp only [List.forall_mem_cons]
  refine ⟨variable_writes, iriTerm_writes, ?_, by simp⟩
  rintro start earlier place ⟨written, spells, firsts⟩ term next run
  obtain ⟨_, middle, found, done⟩ := andThen_eq_matched run
  cases done
  exact ⟨written ++ [.full Vocabulary.rdfType], spells.kind found,
    firsts.append (SameFirsts.refl _)⟩

def pairNames (pair : Term × Term) : List Iri :=
  pair.1.names ++ pair.2.names

/-- A comma repeats the verb, which has been told with the first object. -/
theorem predicateObjects_writes : Writes predicateObjects (List.flatMap pairNames) := by
  have objects : Writes (Parser.separated1 (symbol ",") graphTerm) (List.flatMap Term.names) :=
    graphTerm_writes.separated1 (mark_skips (by decide))
  intro start earlier
  refine (verb_writes start earlier).bind fun predicate => ?_
  intro place told pairs next run
  obtain ⟨terms, behind, objectsRun, done⟩ := andThen_eq_matched run
  cases done
  have nonempty : terms ≠ [] := (graphTerm_yields.separated1 _ _ _ objectsRun).1
  refine (objects start _ place told terms next objectsRun).change ?_
  rw [List.append_assoc, List.flatMap_map]
  exact (SameFirsts.refl earlier).append (sameFirsts_shared predicate.names Term.names nonempty)

/-- A semicolon repeats the subject, which has been told with the first pair. -/
theorem triplesSameSubject_writes : Writes triplesSameSubject Node.irisOfTriples := by
  have item : Writes (do symbol ";"; Parser.optional predicateObjects)
      fun found => (found.map (List.flatMap pairNames)).getD [] :=
    Writes.after (mark_skips (by decide)) fun _ => predicateObjects_writes.optional
  intro start earlier
  refine (graphTerm_writes start earlier).bind fun subject => ?_
  intro place told patterns next run
  obtain ⟨first, middle, firstRun, laterRun⟩ := andThen_eq_matched run
  obtain ⟨others, behind, othersRun, done⟩ := andThen_eq_matched laterRun
  cases done
  have nonempty : first ++ others.flatMap (fun group => group.getD []) ≠ [] := by
    simp [(predicateObjects_yields _ _ _ firstRun).1]
  have gathered : others.flatMap (fun found => (found.map (List.flatMap pairNames)).getD []) =
      (others.flatMap fun group => group.getD []).flatMap pairNames := by
    rw [List.flatMap_assoc]
    congr 1
    funext group
    cases group <;> rfl
  have toldFirst := predicateObjects_writes start _ place told first middle firstRun
  refine (item.many start _ middle toldFirst others next othersRun).change ?_
  rw [gathered, List.append_assoc, List.append_assoc, ← List.flatMap_append,
    Node.irisOfTriples_eq_flatMap, List.flatMap_map]
  refine (SameFirsts.refl earlier).append ?_
  have same : ∀ pair : Term × Term,
      Node.irisOfTriple ((Triple.mk subject pair.1 pair.2).map Node.term) =
        subject.names ++ pairNames pair :=
    fun pair => List.append_assoc _ _ _
  simp only [same]
  exact sameFirsts_shared subject.names pairNames nonempty

/-! ## Filter expressions -/

theorem oneOf_skips {tokens : List String} (known : ∀ token ∈ tokens, token ∈ marks) :
    Skips (oneOf tokens) := by
  refine Skips.firstOf fun parser inside => ?_
  obtain ⟨token, isToken, rfl⟩ := List.mem_map.1 inside
  exact (mark_skips (known token isToken)).bind fun _ => Skips.pure token

section Levels

variable {inner : Parser Node} (deeper : Writes inner Node.iris)

include deeper

theorem functionCall_writes : Writes (functionCall inner) Node.iris := by
  have given : Writes (Parser.optional (Parser.separated1 (symbol ",") inner))
      fun found => (found.map (List.flatMap Node.iris)).getD [] :=
    (deeper.separated1 (mark_skips (by decide))).optional
  have behindBracket : ∀ name, Writes (do
      let found ← Parser.optional (Parser.separated1 (symbol ",") inner)
      symbol ")"
      return Node.call name (found.getD [])) Node.iris := by
    refine fun name => given.ended (mark_skips (by decide)) fun found => ?_
    rw [Node.iris, Node.irisOf_eq_flatMap]
    cases found <;> rfl
  rintro start earlier place ⟨written, spells, firsts⟩ node last run
  obtain ⟨word, middle, found, openedRun⟩ := andThen_eq_matched run
  obtain ⟨_, behind, opened, givenRun⟩ := andThen_eq_matched openedRun
  have told : Told start earlier behind := ⟨written, spells.call found opened, firsts⟩
  exact behindBracket _ start earlier behind told node last givenRun

theorem parenthesised_writes : Writes (parenthesised inner) Node.iris :=
  Writes.after (mark_skips (by decide)) fun _ =>
    deeper.ended (mark_skips (by decide)) fun _ => rfl

theorem operand_writes : Writes (operand inner) Node.iris := by
  have term : ∀ {parser : Parser Term}, Writes parser Term.names →
      Writes (Node.term <$> parser) Node.iris :=
    fun writes => writes.map fun _ => rfl
  refine Writes.firstOf ?_
  simp only [List.forall_mem_cons]
  refine ⟨functionCall_writes deeper, ?_, term quotedLiteral_writes, term number_writes,
    term boolean_writes, ?_, parenthesised_writes deeper, by simp⟩
  · exact (IsPlain.variable.skips.writes fun _ => rfl).map fun _ => rfl
  · exact iri_writes.map fun _ => rfl

theorem product_writes : Writes (product inner) Node.iris :=
  (operand_writes deeper).leftChain (oneOf_skips (by decide)) fun _ _ _ => rfl

theorem sum_writes : Writes (sum inner) Node.iris :=
  (product_writes deeper).leftChain (oneOf_skips (by decide)) fun _ _ _ => rfl

theorem comparison_writes : Writes (comparison inner) Node.iris := by
  have right : Writes (do
      let operator ← comparisonOperator
      let right ← sum inner
      return (operator, right)) fun behind => behind.2.iris :=
    Writes.after (oneOf_skips (by decide)) fun _ => (sum_writes deeper).map fun _ => rfl
  intro start earlier
  refine (sum_writes deeper start earlier).bind fun left => ?_
  refine (right.optional start _).bind fun behind => ?_
  cases behind with
  | none => exact Ensures.pure fun place told => by simpa using told
  | some pair =>
      refine Ensures.pure fun place told => ?_
      rw [Node.iris, ← List.append_assoc]
      exact told

theorem negation_writes : Writes (negation inner) Node.iris := by
  refine Writes.after (mark_skips (by decide)).optional fun sign => ?_
  refine (comparison_writes deeper).map fun node => ?_
  split
  · rw [Node.iris, Node.irisOf, Node.irisOf, List.append_nil]
  · rfl

end Levels

theorem connected_writes {connective : Connective} (known : connective.symbol ∈ marks)
    {parser : Parser Node} (writes : Writes parser Node.iris) :
    Writes (connected connective parser) Node.iris := by
  intro start earlier
  refine (writes.separated1 (mark_skips known) start earlier).bind fun operands => ?_
  split
  · exact Ensures.pure fun place told => by simpa using told
  · refine Ensures.pure fun place told => ?_
    rw [Node.iris, Node.irisOf_eq_flatMap]
    exact told

theorem expression_writes : Writes expression Node.iris :=
  Writes.nested fun _ deeper =>
    connected_writes (by decide) (connected_writes (by decide) (negation_writes deeper))

/-! ## Groups -/

theorem optionalStop_skips : Skips optionalStop :=
  (mark_skips (by decide)).optional.bind fun _ => Skips.pure ()

theorem filterClause_writes : Writes filterClause Node.iris := by
  have condition : Writes (Parser.firstOf [parenthesised expression, functionCall expression])
      Node.iris := by
    refine Writes.firstOf ?_
    simp only [List.forall_mem_cons]
    exact ⟨parenthesised_writes expression_writes, functionCall_writes expression_writes, by simp⟩
  exact Writes.after (keyword_skips (by decide)) fun _ =>
    condition.ended optionalStop_skips fun _ => rfl

theorem triplesBlock_writes : Writes triplesBlock Node.iris :=
  triplesSameSubject_writes.ended optionalStop_skips fun _ => rfl

section Groups

variable {inner : Parser Group} (deeper : Writes inner Node.irisOf)

include deeper

theorem optionalPattern_writes : Writes (optionalPattern inner) Node.iris :=
  Writes.after (keyword_skips (by decide)) fun _ => deeper.ended optionalStop_skips fun _ => rfl

theorem groupOrUnion_writes : Writes (groupOrUnion inner) Node.iris := by
  intro start earlier
  refine (deeper.separated1 (keyword_skips (by decide)) start earlier).bind fun alternatives => ?_
  refine (optionalStop_skips start _).bind fun _ => ?_
  split
  · exact Ensures.pure fun place told => by simpa [Node.iris] using told
  · refine Ensures.pure fun place told => ?_
    rw [Node.iris, Node.irisOfGroups_eq_flatMap]
    exact told

theorem entry_writes : Writes (entry inner) Node.iris := by
  refine Writes.firstOf ?_
  simp only [List.forall_mem_cons]
  exact ⟨filterClause_writes, optionalPattern_writes deeper, groupOrUnion_writes deeper,
    triplesBlock_writes, by simp⟩

end Groups

theorem irisOf_mergeRuns (entries : List Node) :
    Node.irisOf (mergeRuns entries) = Node.irisOf entries := by
  rw [Node.irisOf_eq_terms, termsOf_mergeRuns, ← Node.irisOf_eq_terms]

theorem group_writes : Writes group Node.irisOf := by
  refine Writes.nested fun inner deeper => Writes.after (mark_skips (by decide)) fun _ => ?_
  refine (entry_writes deeper).many.ended (mark_skips (by decide)) fun entries => ?_
  rw [irisOf_mergeRuns, Node.irisOf_eq_flatMap]

/-! ## Queries -/

def Query.names (query : Query) : List Iri :=
  Node.irisOf query.group

theorem whereGroup_writes : Writes whereGroup Node.irisOf :=
  Writes.after (keyword_skips (by decide)).optional fun _ => group_writes

theorem requestedVariables_skips : Skips requestedVariables := by
  refine Skips.firstOf ?_
  simp only [List.forall_mem_cons]
  exact ⟨(mark_skips (by decide)).bind fun _ => Skips.pure [], IsPlain.variable.skips.many1, by simp⟩

theorem orderClause_skips : Skips orderClause := by
  have directed : ∀ word ∈ keywords, ∀ descending, Skips (do
      caselessKeyword word
      symbol "("
      let name ← variableName
      symbol ")"
      return OrderCondition.mk name descending) :=
    fun word known descending => (keyword_skips known).bind fun _ =>
      (mark_skips (by decide)).bind fun _ => IsPlain.variable.skips.bind fun _ =>
        (mark_skips (by decide)).bind fun _ => Skips.pure _
  have condition : Skips orderCondition := by
    refine Skips.firstOf ?_
    simp only [List.forall_mem_cons]
    exact ⟨directed _ (by decide) _, directed _ (by decide) _,
      IsPlain.variable.skips.bind fun _ => Skips.pure _, by simp⟩
  exact (keyword_skips (by decide)).bind fun _ => (keyword_skips (by decide)).bind fun _ =>
    condition.many1

theorem limitOffset_skips : Skips limitOffset := by
  have count : ∀ word ∈ keywords, Skips (countClause word) :=
    fun word known => (keyword_skips known).bind fun _ => IsPlain.count.skips.bind fun _ =>
      Skips.pure _
  have limit : Skips (countClause "LIMIT") := count _ (by decide)
  have offset : Skips (countClause "OFFSET") := count _ (by decide)
  refine Skips.firstOf ?_
  simp only [List.forall_mem_cons]
  exact ⟨limit.bind fun _ => offset.optional.bind fun _ => Skips.pure _,
    offset.bind fun _ => limit.optional.bind fun _ => Skips.pure _, by simp⟩

/-- Reading a query moves on by the names of its group, from the first piece of the text to the
last. -/
theorem query_writes : Writes query Query.names := by
  have form : Writes (Parser.firstOf [selectForm, askForm])
      fun form => Query.names ⟨.empty, form⟩ := by
    have select : Writes selectForm fun form => Query.names ⟨.empty, form⟩ := by
      refine Writes.after (keyword_skips (by decide)) fun _ => ?_
      refine Writes.after (keyword_skips (by decide)).optional fun _ => ?_
      refine Writes.after requestedVariables_skips fun _ => ?_
      refine fun start earlier => (whereGroup_writes start earlier).bind fun body => ?_
      refine (orderClause_skips.optional start _).bind fun _ => ?_
      exact (limitOffset_skips.optional start _).bind fun _ => Ensures.pure fun _ told => told
    refine Writes.firstOf ?_
    simp only [List.forall_mem_cons]
    exact ⟨select, Writes.after (keyword_skips (by decide)) fun _ =>
      whereGroup_writes.map fun _ => rfl, by simp⟩
  exact Writes.after IsPlain.declaration.skips.many fun _ =>
    form.ended IsPlain.ending.skips fun _ => rfl

end FactQuery.Sparql
