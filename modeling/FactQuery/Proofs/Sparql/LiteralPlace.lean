import FactQuery.Proofs.Grammar.Amid
import FactQuery.Proofs.Sparql.ExpressionRoundTrip
import FactQuery.Proofs.Sparql.Levels
import FactQuery.Proofs.Sparql.WrittenNames

/-!
# The places of a literal in a query

A literal stands as a subject or an object of a triple pattern, or as an operand of an expression.
From there the way to the whole query leads through lists, operators, brackets, calls, filters and
groups of every kind.  Each step of the way is a rule of the grammar, with the texts beside it given
by what the grammar reads there; the literal may be any that is read up to the same place.
-/

set_option autoImplicit false

namespace FactQuery.Sparql

open FactQuery.Text FactQuery.Grammar FactQuery.Token

/-! ## The rules on the way -/

/-- The rules of the grammar that can have a literal somewhere in what they read. -/
inductive Rule where
  | predications
  | triples
  | level (place : Level)
  | call
  | entry
  | group
  | form
  | query

namespace Rule

def Value : Rule → Type
  | .predications => List (Term × Term)
  | .triples => List TriplePattern
  | .level _ => Node
  | .call => Node
  | .entry => Node
  | .group => Group
  | .form => Form
  | .query => Query

def parser : (rule : Rule) → Parser rule.Value
  | .predications => predicateObjects
  | .triples => triplesSameSubject
  | .level place => parserAt expression place
  | .call => functionCall expression
  | .entry => Sparql.entry Sparql.group
  | .group => Sparql.group
  | .form => Parser.firstOf [selectForm, askForm]
  | .query => Sparql.query

end Rule

def blockPatterns (subject : Term) (first : List (Term × Term))
    (others : List (Option (List (Term × Term)))) : List TriplePattern :=
  (first ++ others.flatMap fun group => group.getD []).map fun pair =>
    (Triple.mk subject pair.1 pair.2).map Node.term

/-- What operands under a connective make; a single one stands for itself. -/
def joined (connective : Connective) : List Node → Node
  | [single] => single
  | several => .logical connective several

/-- What alternatives make; a single one is a group. -/
def unionOf : List Group → Node
  | [single] => .group single
  | several => .union several

/-- From `here` a literal is to be read up to `behind`.  The rule, started at a place, comes to it,
and goes on behind it to its end; its value is given for every literal. -/
inductive Place (here behind : Cursor) :
    (rule : Rule) → Cursor → (Term → rule.Value) → Cursor → Prop where
  | object {start middle last : Cursor} {predicate : Term} {before after : List Term}
      (predicated : verb start = .matched predicate middle)
      (amid : AmidSeparated (symbol ",") graphTerm middle before here behind after last) :
      Place here behind .predications start
        (fun literal => (before ++ literal :: after).map fun object => (predicate, object)) last
  | subject {middle last : Cursor} {first : List (Term × Term)}
      {others : List (Option (List (Term × Term)))}
      (predicated : predicateObjects behind = .matched first middle)
      (later : RunsOut laterPredicateObjects middle others last) :
      Place here behind .triples here (fun literal => blockPatterns literal first others) last
  | firstGroup {start middle next last : Cursor} {subject : Term}
      {others : List (Option (List (Term × Term)))} {fill : Term → List (Term × Term)}
      (named : graphTerm start = .matched subject middle)
      (inside : Place here behind .predications middle fill next)
      (later : RunsOut laterPredicateObjects next others last) :
      Place here behind .triples start (fun literal => blockPatterns subject (fill literal) others)
        last
  | laterGroup {start middle next gap inner past last : Cursor} {subject : Term}
      {first : List (Term × Term)} {before after : List (Option (List (Term × Term)))}
      {fill : Term → List (Term × Term)} (named : graphTerm start = .matched subject middle)
      (predicated : predicateObjects middle = .matched first next)
      (earlier : Runs laterPredicateObjects next before gap)
      (separated : symbol ";" gap = .matched () inner)
      (inside : Place here behind .predications inner fill past)
      (later : RunsOut laterPredicateObjects past after last) :
      Place here behind .triples start
        (fun literal => blockPatterns subject first (before ++ some (fill literal) :: after)) last
  | operand : Place here behind (.level .operand) here Node.term behind
  | bracket {start inner next last : Cursor} {fill : Term → Node}
      (opened : symbol "(" start = .matched () inner)
      (inside : Place here behind (.level .disjunction) inner fill next)
      (closed : symbol ")" next = .matched () last) :
      Place here behind (.level .operand) start fill last
  | call {start last : Cursor} {fill : Term → Node}
      (inside : Place here behind .call start fill last) :
      Place here behind (.level .operand) start fill last
  | argument {start middle first inner next past last : Cursor} {name : List Char}
      {before after : List Node} {fill : Term → Node}
      (named : lexeme (scanWord Char.isAlpha isNameChar) start = .matched name middle)
      (opened : symbol "(" middle = .matched () first)
      (amid : AmidSeparated (symbol ",") expression first before inner next after past)
      (inside : Place here behind (.level .disjunction) inner fill next)
      (closed : symbol ")" past = .matched () last) :
      Place here behind .call start (fun literal =>
        .call (String.ofList (name.map Char.toUpper)) (before ++ fill literal :: after)) last
  | chain {level : Level} {start inner next last : Cursor} {join : Node → Node}
      {fill : Term → Node} (groups : level.groups)
      (amid : AmidChain (oneOf level.operators) .binary (parserAt expression level.tighter) start
        inner next join last)
      (inside : Place here behind (.level level.tighter) inner fill next) :
      Place here behind (.level level) start (fun literal => join (fill literal)) last
  | uncompared {start last : Cursor} {fill : Term → Node}
      (inside : Place here behind (.level .sum) start fill last)
      (single : (do
        let operator ← comparisonOperator
        let right ← sum expression
        return (operator, right)) last = .missed) :
      Place here behind (.level .comparison) start fill last
  | left {start middle next last : Cursor} {operator : String} {right : Node} {fill : Term → Node}
      (inside : Place here behind (.level .sum) start fill middle)
      (compared : comparisonOperator middle = .matched operator next)
      (other : sum expression next = .matched right last) :
      Place here behind (.level .comparison) start
        (fun literal => .binary operator (fill literal) right) last
  | right {start middle inner last : Cursor} {operator : String} {left : Node} {fill : Term → Node}
      (other : sum expression start = .matched left middle)
      (compared : comparisonOperator middle = .matched operator inner)
      (inside : Place here behind (.level .sum) inner fill last) :
      Place here behind (.level .comparison) start
        (fun literal => .binary operator left (fill literal)) last
  | unsigned {start last : Cursor} {fill : Term → Node} (plain : symbol "!" start = .missed)
      (inside : Place here behind (.level .comparison) start fill last) :
      Place here behind (.level .negation) start fill last
  | negated {start inner last : Cursor} {fill : Term → Node}
      (signed : symbol "!" start = .matched () inner)
      (inside : Place here behind (.level .comparison) inner fill last) :
      Place here behind (.level .negation) start (fun literal => .logical .not [fill literal]) last
  | connected {connective : Connective} {start inner next last : Cursor} {before after : List Node}
      {fill : Term → Node} (joins : connective ≠ .not)
      (amid : AmidSeparated (symbol connective.symbol)
        (parserAt expression (Level.ofConnective connective).tighter) start before inner next after
        last)
      (inside : Place here behind (.level (Level.ofConnective connective).tighter) inner fill next) :
      Place here behind (.level (Level.ofConnective connective)) start
        (fun literal => joined connective (before ++ fill literal :: after)) last
  | filter {start middle inner next past last : Cursor} {fill : Term → Node}
      (named : caselessKeyword "FILTER" start = .matched () middle)
      (opened : symbol "(" middle = .matched () inner)
      (inside : Place here behind (.level .disjunction) inner fill next)
      (closed : symbol ")" next = .matched () past)
      (stopped : optionalStop past = .matched () last) :
      Place here behind .entry start (fun literal => .filter (fill literal)) last
  | filterCall {start middle next last : Cursor} {fill : Term → Node}
      (named : caselessKeyword "FILTER" start = .matched () middle)
      (inside : Place here behind .call middle fill next)
      (stopped : optionalStop next = .matched () last) :
      Place here behind .entry start (fun literal => .filter (fill literal)) last
  | patterns {start next last : Cursor} {fill : Term → List TriplePattern}
      (noClause : ∀ clause ∈ [filterClause, optionalPattern group, groupOrUnion group],
        clause start = .missed)
      (inside : Place here behind .triples start fill next)
      (stopped : optionalStop next = .matched () last) :
      Place here behind .entry start (fun literal => .triples (fill literal)) last
  | optional {start inner next last : Cursor} {fill : Term → Group}
      (named : caselessKeyword "OPTIONAL" start = .matched () inner)
      (inside : Place here behind .group inner fill next)
      (stopped : optionalStop next = .matched () last) :
      Place here behind .entry start (fun literal => .optional (fill literal)) last
  | union {start inner next past last : Cursor} {before after : List Group} {fill : Term → Group}
      (amid : AmidSeparated (caselessKeyword "UNION") group start before inner next after past)
      (inside : Place here behind .group inner fill next)
      (stopped : optionalStop past = .matched () last) :
      Place here behind .entry start (fun literal => unionOf (before ++ fill literal :: after)) last
  | group {start first inner next past last : Cursor} {before after : List Node}
      {fill : Term → Node} (opened : symbol "\x7b" start = .matched () first)
      (amid : AmidMany (entry group) first before inner next after past)
      (inside : Place here behind .entry inner fill next)
      (closed : symbol "\x7d" past = .matched () last) :
      Place here behind .group start (fun literal => mergeRuns (before ++ fill literal :: after)) last
  | select {start first second third inner next past last : Cursor} {distinct given : Option Unit}
      {requested : List String} {order : Option (List OrderCondition)}
      {cut : Option (Option Int × Option Int)} {fill : Term → Group}
      (named : caselessKeyword "SELECT" start = .matched () first)
      (thinned : Parser.optional (caselessKeyword "DISTINCT") first = .matched distinct second)
      (shown : requestedVariables second = .matched requested third)
      (introduced : Parser.optional (caselessKeyword "WHERE") third = .matched given inner)
      (inside : Place here behind .group inner fill next)
      (ordered : Parser.optional orderClause next = .matched order past)
      (limited : Parser.optional limitOffset past = .matched cut last) :
      Place here behind .form start (fun literal => .select {
        variableNames := requested
        group := fill literal
        distinct := distinct.isSome
        limit := cut.bind Prod.fst
        offset := cut.bind Prod.snd
        order := order.getD [] }) last
  | ask {start first inner last : Cursor} {given : Option Unit} {fill : Term → Group}
      (named : caselessKeyword "ASK" start = .matched () first)
      (introduced : Parser.optional (caselessKeyword "WHERE") first = .matched given inner)
      (inside : Place here behind .group inner fill last) :
      Place here behind .form start (fun literal => .ask (fill literal)) last
  | query {start inner next last : Cursor} {declared : List (String × String)} {fill : Term → Form}
      (prefixes : RunsOut prefixDeclaration start declared inner)
      (inside : Place here behind .form inner fill next)
      (ended : endOfText next = .matched () last) :
      Place here behind .query start (fun literal => ⟨.ofList declared, fill literal⟩) last

/-! ## Alternatives that refuse -/

section Refusals

variable {place next : Cursor} {c : Char} {more : List Char}

theorem variableName_passes : PassesLayout variableName :=
  (lexeme_passes _).bind

theorem functionCall_passes (inner : Parser Node) : PassesLayout (functionCall inner) :=
  (lexeme_passes _).bind

theorem number_passes : PassesLayout number := by
  refine PassesLayout.firstOf ?_
  simp only [List.forall_mem_cons]
  exact ⟨(lexeme_passes _).bind.bind, (lexeme_passes _).bind.bind, (lexeme_passes _).bind.bind,
    by simp⟩

theorem boolean_passes : PassesLayout boolean := by
  refine PassesLayout.firstOf ?_
  simp only [List.forall_mem_cons]
  exact ⟨(foldedWord_passes _ _).bind, (foldedWord_passes _ _).bind, by simp⟩

theorem outside_of_isQuote (quote : isQuote c = true) :
    isLayoutStart c = false ∧ isVariableMark c = false ∧ isNameFront c = false ∧
      isNameChar c = false ∧ c ≠ '(' := by
  simp only [isQuote, Bool.or_eq_true, beq_iff_eq] at quote
  rcases quote with rfl | rfl <;> decide

theorem misses_at_literal {literal : Term} (read : quotedLiteral place = .matched literal next) :
    variableName place = .missed ∧ iri place = .missed ∧
      ∀ inner, functionCall inner place = .missed := by
  obtain ⟨value, middle, run, -⟩ := andThen_eq_matched read
  obtain ⟨c, more, ahead, quote⟩ := exists_quote run
  obtain ⟨noLayout, noMark, noName, noWord, noBracket⟩ := outside_of_isQuote quote
  have starts : Stops isLayoutStart (c :: more) := Stops.cons_iff.2 noLayout
  refine ⟨variableName_passes.missed ?_, iri_passes.missed ?_, fun inner =>
    (functionCall_passes inner).missed ?_⟩
  · rw [ahead]
    exact variableName_misses IsGap.nil starts (Stops.cons_iff.2 noMark)
  · rw [ahead]
    exact iri_misses IsGap.nil starts (Stops.cons_iff.2 noName)
  · rw [ahead]
    exact functionCall_misses_of_stops IsGap.nil starts (Stops.cons_iff.2 noWord)
      (exactly_eq_none [] more (Ne.symm noBracket))

theorem misses_at_bracket {inner : Parser Node} (opened : symbol "(" place = .matched () next) :
    ∀ parser ∈ [functionCall inner, (.term ∘ .variable) <$> variableName, .term <$> quotedLiteral,
      .term <$> number, .term <$> boolean, (.term ∘ .iri) <$> iri], parser place = .missed := by
  have ahead : place.skipLayout.rest = '(' :: next.rest := symbol_eq_matched opened
  have refused := @term_misses_bracket inner '(' [] IsGap.nil (by simp) next.rest
  simp only [List.forall_mem_cons] at refused ⊢
  obtain ⟨call, marked, literal, numeral, truth, name, -⟩ := refused
  refine ⟨(functionCall_passes inner).missed (ahead ▸ call),
    (variableName_passes.map _).missed (ahead ▸ marked),
    (PassesLayout.map (quotedText_passes.bind) _).missed (ahead ▸ literal),
    (number_passes.map _).missed (ahead ▸ numeral), (boolean_passes.map _).missed (ahead ▸ truth),
    (iri_passes.map _).missed (ahead ▸ name), by simp⟩

theorem keyword_misses_at_group {word : String} (isKeyword : IsKeyword capital word)
    (opened : symbol "\x7b" place = .matched () next) : caselessKeyword word place = .missed := by
  have ahead : place.skipLayout.rest = '\x7b' :: next.rest := symbol_eq_matched opened
  refine (foldedWord_passes capital word).missed ?_
  rw [ahead]
  exact foldedWord_misses_of_stops isKeyword IsGap.nil rfl rfl

theorem keyword_misses_at_keyword {word other : String} (isKeyword : IsKeyword capital word)
    (isOther : IsKeyword capital other) (different : word ≠ other)
    (found : caselessKeyword word place = .matched () next) :
    caselessKeyword other place = .missed := by
  rw [caselessKeyword, foldedWord_apply isKeyword.2.1] at found
  rw [caselessKeyword, foldedWord_apply isOther.2.1]
  split at found
  · rename_i here
    refine if_neg fun both => different (String.toList_inj.1 ?_)
    rw [← here.2, both.2]
  · cases found

theorem bracket_misses_at_word {name : List Char}
    (named : lexeme (scanWord Char.isAlpha isNameChar) place = .matched name next) :
    symbol "(" place = .missed := by
  have scanned := (lexeme_eq_matched named).1
  refine (lexeme_passes _).bind.missed ?_
  cases ahead : place.skipLayout.rest with
  | nil =>
      rw [ahead] at scanned
      cases scanned
  | cons c more =>
      have starts : Stops isLayoutStart (c :: more) := ahead ▸ stops_skipLayout place
      have different : '(' ≠ c := by
        rintro rfl
        rw [ahead] at scanned
        cases scanned
      exact @symbol_misses "(" [] _ IsGap.nil starts (exactly_eq_none [] more different)

end Refusals

/-! ## Runs of the rules -/

section Runs

variable {start first middle inner next past last : Cursor}

theorem graphTerm_at_literal {literal : Term} (read : quotedLiteral start = .matched literal last) :
    graphTerm start = .matched literal last := by
  obtain ⟨noVariable, noName, -⟩ := misses_at_literal read
  exact (firstOf_missed (map_missed noVariable)).trans <|
    (firstOf_missed (map_missed noName)).trans (firstOf_matched read)

theorem predicateObjects_at {predicate object : Term} {before after : List Term}
    (predicated : verb start = .matched predicate middle)
    (amid : AmidSeparated (symbol ",") graphTerm middle before inner next after last)
    (read : graphTerm inner = .matched object next) :
    predicateObjects start =
      .matched ((before ++ object :: after).map fun object => (predicate, object)) last := by
  have listed := amid.run comma_takes graphTerm_takes.shrinks read
  simp only [predicateObjects, Parser.bind_apply, predicated, listed, Outcome.andThen]
  rfl

theorem triplesSameSubject_at {subject : Term} {pairs : List (Term × Term)}
    {others : List (Option (List (Term × Term)))}
    (named : graphTerm start = .matched subject middle)
    (predicated : predicateObjects middle = .matched pairs next)
    (later : RunsOut laterPredicateObjects next others last) :
    triplesSameSubject start = .matched (blockPatterns subject pairs others) last := by
  have groups := later.many laterPredicateObjects_takes
  rw [laterPredicateObjects] at groups
  simp only [triplesSameSubject, Parser.bind_apply, named, predicated, groups, Outcome.andThen]
  rfl

theorem laterPredicateObjects_at {pairs : List (Term × Term)}
    (separated : symbol ";" start = .matched () inner)
    (predicated : predicateObjects inner = .matched pairs last) :
    laterPredicateObjects start = .matched (some pairs) last := by
  rw [laterPredicateObjects, Parser.bind_apply, separated]
  exact optional_matched predicated

/-! ### Expressions -/

theorem operand_at_literal {literal : Term} (read : quotedLiteral start = .matched literal last) :
    operand expression start = .matched (.term literal) last := by
  obtain ⟨noVariable, -, noCall⟩ := misses_at_literal read
  exact (firstOf_missed (noCall _)).trans <|
    (firstOf_missed (map_missed noVariable)).trans (firstOf_matched (map_matched read))

theorem parenthesised_at {node : Node} (opened : symbol "(" start = .matched () inner)
    (inside : expression inner = .matched node next)
    (closed : symbol ")" next = .matched () last) :
    parenthesised expression start = .matched node last := by
  simp only [parenthesised, Parser.bind_apply, opened, inside, closed, Outcome.andThen]
  rfl

theorem operand_at_bracket {node : Node} (opened : symbol "(" start = .matched () inner)
    (inside : expression inner = .matched node next)
    (closed : symbol ")" next = .matched () last) :
    operand expression start = .matched node last := by
  have refused := @misses_at_bracket _ _ expression opened
  simp only [List.forall_mem_cons] at refused
  obtain ⟨call, marked, literal, numeral, truth, name, -⟩ := refused
  exact (firstOf_missed call).trans <| (firstOf_missed marked).trans <|
    (firstOf_missed literal).trans <| (firstOf_missed numeral).trans <|
    (firstOf_missed truth).trans <| (firstOf_missed name).trans <|
    firstOf_matched (parenthesised_at opened inside closed)

theorem functionCall_at {name : List Char} {argument : Node} {before after : List Node}
    (named : lexeme (scanWord Char.isAlpha isNameChar) start = .matched name middle)
    (opened : symbol "(" middle = .matched () first)
    (amid : AmidSeparated (symbol ",") expression first before inner next after past)
    (read : expression inner = .matched argument next)
    (closed : symbol ")" past = .matched () last) :
    functionCall expression start =
      .matched (.call (String.ofList (name.map Char.toUpper)) (before ++ argument :: after)) last := by
  have listed := optional_matched (amid.run comma_takes expression_shrinks read)
  simp only [functionCall, Parser.bind_apply, named, opened, listed, closed, Outcome.andThen]
  rfl

theorem parserAt_shrinks (place : Level) : Shrinks (parserAt expression place) := by
  refine .of_succ fun size => ?_
  have agree := expression_shrinks size
  cases place with
  | disjunction => exact connected_agree (connected_agree (negation_agree agree))
  | conjunction => exact connected_agree (negation_agree agree)
  | negation => exact negation_agree agree
  | comparison => exact comparison_agree agree
  | sum => exact sum_agree agree
  | product => exact product_agree agree
  | operand => exact operand_agree agree

theorem parserAt_chain {level : Level} {join : Node → Node} {node : Node} (groups : level.groups)
    (amid : AmidChain (oneOf level.operators) .binary (parserAt expression level.tighter) start
      inner next join last)
    (read : parserAt expression level.tighter inner = .matched node next) :
    parserAt expression level start = .matched (join node) last := by
  rcases groups with rfl | rfl
  · exact amid.run (oneOf_takes (by decide)) (parserAt_shrinks .product) read
  · exact amid.run (oneOf_takes (by decide)) (parserAt_shrinks .operand) read

theorem comparison_alone {node : Node} (read : sum expression start = .matched node last)
    (single : (do
      let operator ← comparisonOperator
      let right ← sum expression
      return (operator, right)) last = .missed) :
    comparison expression start = .matched node last := by
  simp only [comparison, Parser.bind_apply, read, Outcome.andThen]
  rw [Parser.optional, single]
  rfl

theorem comparison_at {operator : String} {left right : Node}
    (leftRead : sum expression start = .matched left middle)
    (compared : comparisonOperator middle = .matched operator inner)
    (rightRead : sum expression inner = .matched right last) :
    comparison expression start = .matched (.binary operator left right) last := by
  have tail : Parser.optional (do
      let operator ← comparisonOperator
      let right ← sum expression
      return (operator, right)) middle = .matched (some (operator, right)) last := by
    refine optional_matched ?_
    simp only [Parser.bind_apply, compared, rightRead, Outcome.andThen]
    rfl
  simp only [comparison, Parser.bind_apply, leftRead, tail, Outcome.andThen]
  rfl

theorem negation_unsigned {node : Node} (plain : symbol "!" start = .missed)
    (read : comparison expression start = .matched node last) :
    negation expression start = .matched node last := by
  simp only [negation, Parser.bind_apply, optional_missed plain, read, Outcome.andThen]
  rfl

theorem negation_signed {node : Node} (signed : symbol "!" start = .matched () inner)
    (read : comparison expression inner = .matched node last) :
    negation expression start = .matched (.logical .not [node]) last := by
  simp only [negation, Parser.bind_apply, optional_matched signed, read, Outcome.andThen]
  rfl

theorem connected_at {connective : Connective} {parser : Parser Node} {node : Node}
    {before after : List Node} (shrinks : Shrinks parser)
    (amid : AmidSeparated (symbol connective.symbol) parser start before inner next after last)
    (read : parser inner = .matched node next) :
    connected connective parser start =
      .matched (joined connective (before ++ node :: after)) last := by
  have separator : Takes (symbol connective.symbol) :=
    symbol_takes (by cases connective <;> decide)
  simp only [connected, Parser.bind_apply, amid.run separator shrinks read, Outcome.andThen]
  rcases before ++ node :: after with _ | ⟨one, _ | ⟨two, others⟩⟩ <;> rfl

theorem parserAt_connected {connective : Connective} {node : Node} {before after : List Node}
    (joins : connective ≠ .not)
    (amid : AmidSeparated (symbol connective.symbol)
      (parserAt expression (Level.ofConnective connective).tighter) start before inner next after
      last)
    (read : parserAt expression (Level.ofConnective connective).tighter inner =
      .matched node next) :
    parserAt expression (Level.ofConnective connective) start =
      .matched (joined connective (before ++ node :: after)) last := by
  cases connective with
  | not => exact absurd rfl joins
  | and => exact connected_at (parserAt_shrinks .negation) amid read
  | or => exact connected_at (parserAt_shrinks .conjunction) amid read

/-! ### Groups -/

theorem filterClause_at {node : Node}
    (named : caselessKeyword "FILTER" start = .matched () middle)
    (read : Parser.firstOf [parenthesised expression, functionCall expression] middle =
      .matched node next)
    (stopped : optionalStop next = .matched () last) :
    filterClause start = .matched (.filter node) last := by
  simp only [filterClause, Parser.bind_apply, named, read, stopped, Outcome.andThen]
  rfl

theorem entry_at_patterns {patterns : List TriplePattern}
    (noClause : ∀ clause ∈ [filterClause, optionalPattern group, groupOrUnion group],
      clause start = .missed)
    (read : triplesSameSubject start = .matched patterns next)
    (stopped : optionalStop next = .matched () last) :
    entry group start = .matched (.triples patterns) last := by
  simp only [List.forall_mem_cons] at noClause
  obtain ⟨noFilter, noOptional, noGroup, -⟩ := noClause
  refine (firstOf_missed noFilter).trans <| (firstOf_missed noOptional).trans <|
    (firstOf_missed noGroup).trans <| firstOf_matched ?_
  simp only [triplesBlock, Parser.bind_apply, read, stopped, Outcome.andThen]
  rfl

theorem entry_at_optional {body : Group}
    (named : caselessKeyword "OPTIONAL" start = .matched () inner)
    (read : group inner = .matched body next)
    (stopped : optionalStop next = .matched () last) :
    entry group start = .matched (.optional body) last := by
  have noFilter : filterClause start = .missed :=
    bind_missed (keyword_misses_at_keyword (by decide) (by decide) (by decide) named)
  refine (firstOf_missed noFilter).trans (firstOf_matched ?_)
  simp only [optionalPattern, Parser.bind_apply, named, read, stopped, Outcome.andThen]
  rfl

theorem exists_opening {body : Group} (read : group start = .matched body last) :
    ∃ next, symbol "\x7b" start = .matched () next := by
  rw [group_eq] at read
  obtain ⟨opened, next, run, -⟩ := andThen_eq_matched read
  exact ⟨next, run⟩

theorem entry_at_group {body : Group} {before after : List Group}
    (amid : AmidSeparated (caselessKeyword "UNION") group start before inner next after past)
    (read : group inner = .matched body next)
    (stopped : optionalStop past = .matched () last) :
    entry group start = .matched (unionOf (before ++ body :: after)) last := by
  have opens : ∃ next, symbol "\x7b" start = .matched () next := by
    cases amid with
    | first later => exact exists_opening read
    | later first earlier separated later => exact exists_opening first
  obtain ⟨behind, opened⟩ := opens
  have noFilter : filterClause start = .missed :=
    bind_missed (keyword_misses_at_group (by decide) opened)
  have noOptional : optionalPattern group start = .missed :=
    bind_missed (keyword_misses_at_group (by decide) opened)
  refine (firstOf_missed noFilter).trans <| (firstOf_missed noOptional).trans <|
    firstOf_matched ?_
  have union : Takes (caselessKeyword "UNION") := foldedWord_takes (by decide)
  have listed := amid.run union group_shrinks read
  simp only [groupOrUnion, Parser.bind_apply, listed, stopped, Outcome.andThen]
  rcases before ++ body :: after with _ | ⟨one, _ | ⟨two, others⟩⟩ <;> rfl

theorem group_at {node : Node} {before after : List Node}
    (opened : symbol "\x7b" start = .matched () first)
    (amid : AmidMany (entry group) first before inner next after past)
    (read : entry group inner = .matched node next)
    (closed : symbol "\x7d" past = .matched () last) :
    group start = .matched (mergeRuns (before ++ node :: after)) last := by
  rw [group_eq]
  simp only [groupRule, Parser.bind_apply, opened, amid.run (entry_takes group_takes) read, closed,
    Outcome.andThen]
  rfl

/-! ### Queries -/

theorem whereGroup_at {given : Option Unit} {body : Group}
    (introduced : Parser.optional (caselessKeyword "WHERE") start = .matched given inner)
    (read : group inner = .matched body last) : whereGroup start = .matched body last := by
  simp only [whereGroup, Parser.bind_apply, introduced, read, Outcome.andThen]

theorem form_at_select {distinct : Option Unit} {requested : List String} {body : Group}
    {order : Option (List OrderCondition)} {cut : Option (Option Int × Option Int)}
    (named : caselessKeyword "SELECT" start = .matched () first)
    (thinned : Parser.optional (caselessKeyword "DISTINCT") first = .matched distinct middle)
    (shown : requestedVariables middle = .matched requested inner)
    (read : whereGroup inner = .matched body next)
    (ordered : Parser.optional orderClause next = .matched order past)
    (limited : Parser.optional limitOffset past = .matched cut last) :
    Parser.firstOf [selectForm, askForm] start = .matched (.select {
      variableNames := requested
      group := body
      distinct := distinct.isSome
      limit := cut.bind Prod.fst
      offset := cut.bind Prod.snd
      order := order.getD [] }) last := by
  refine firstOf_matched ?_
  simp only [selectForm, Parser.bind_apply, named, thinned, shown, read, ordered, limited,
    Outcome.andThen]
  rfl

theorem form_at_ask {body : Group} (named : caselessKeyword "ASK" start = .matched () inner)
    (read : whereGroup inner = .matched body last) :
    Parser.firstOf [selectForm, askForm] start = .matched (.ask body) last := by
  have noSelect : selectForm start = .missed :=
    bind_missed (keyword_misses_at_keyword (by decide) (by decide) (by decide) named)
  refine (firstOf_missed noSelect).trans (firstOf_matched ?_)
  simp only [askForm, Parser.bind_apply, named, read, Outcome.andThen]
  rfl

theorem query_at {declared : List (String × String)} {form : Form}
    (prefixes : RunsOut prefixDeclaration start declared inner)
    (read : Parser.firstOf [selectForm, askForm] inner = .matched form next)
    (ended : endOfText next = .matched () last) :
    query start = .matched ⟨.ofList declared, form⟩ last := by
  simp only [query, Parser.bind_apply, prefixes.many prefixDeclaration_takes, read, ended,
    Outcome.andThen]
  rfl

end Runs

/-! ## A literal is read in its place -/

theorem Place.noBracket {here behind start last : Cursor} {fill : Term → Node}
    (place : Place here behind .call start fill last) : symbol "(" start = .missed := by
  cases place with
  | argument named opened amid inside closed => exact bracket_misses_at_word named

/-- The literal is read, and with it the whole of what stands around it. -/
theorem Place.run {here behind start last : Cursor} {literal : Term} {rule : Rule}
    {fill : Term → rule.Value} (place : Place here behind rule start fill last)
    (read : quotedLiteral here = .matched literal behind) :
    rule.parser start = .matched (fill literal) last := by
  induction place with
  | object predicated amid => exact predicateObjects_at predicated amid (graphTerm_at_literal read)
  | subject predicated later =>
      exact triplesSameSubject_at (graphTerm_at_literal read) predicated later
  | firstGroup named inside later inductionHypothesis =>
      exact triplesSameSubject_at named inductionHypothesis later
  | laterGroup named predicated earlier separated inside later inductionHypothesis =>
      exact triplesSameSubject_at named predicated
        (earlier.more (laterPredicateObjects_at separated inductionHypothesis) later)
  | operand => exact operand_at_literal read
  | bracket opened inside closed inductionHypothesis =>
      refine operand_at_bracket opened ?_ closed
      rw [expression_eq]
      exact inductionHypothesis
  | call inside inductionHypothesis => exact firstOf_matched inductionHypothesis
  | argument named opened amid inside closed inductionHypothesis =>
      refine functionCall_at named opened amid ?_ closed
      rw [expression_eq]
      exact inductionHypothesis
  | chain groups amid inside inductionHypothesis =>
      exact parserAt_chain groups amid inductionHypothesis
  | uncompared inside single inductionHypothesis =>
      exact comparison_alone inductionHypothesis single
  | left inside compared other inductionHypothesis =>
      exact comparison_at inductionHypothesis compared other
  | right other compared inside inductionHypothesis =>
      exact comparison_at other compared inductionHypothesis
  | unsigned plain inside inductionHypothesis => exact negation_unsigned plain inductionHypothesis
  | negated signed inside inductionHypothesis => exact negation_signed signed inductionHypothesis
  | connected joins amid inside inductionHypothesis =>
      exact parserAt_connected joins amid inductionHypothesis
  | filter named opened inside closed stopped inductionHypothesis =>
      refine firstOf_matched (filterClause_at named (firstOf_matched ?_) stopped)
      refine parenthesised_at opened ?_ closed
      rw [expression_eq]
      exact inductionHypothesis
  | filterCall named inside stopped inductionHypothesis =>
      refine firstOf_matched (filterClause_at named ?_ stopped)
      exact (firstOf_missed (bind_missed inside.noBracket)).trans
        (firstOf_matched inductionHypothesis)
  | patterns noClause inside stopped inductionHypothesis =>
      exact entry_at_patterns noClause inductionHypothesis stopped
  | optional named inside stopped inductionHypothesis =>
      exact entry_at_optional named inductionHypothesis stopped
  | union amid inside stopped inductionHypothesis =>
      exact entry_at_group amid inductionHypothesis stopped
  | group opened amid inside closed inductionHypothesis =>
      exact group_at opened amid inductionHypothesis closed
  | select named thinned shown introduced inside ordered limited inductionHypothesis =>
      exact form_at_select named thinned shown (whereGroup_at introduced inductionHypothesis)
        ordered limited
  | ask named introduced inside inductionHypothesis =>
      exact form_at_ask named (whereGroup_at introduced inductionHypothesis)
  | query prefixes inside ended inductionHypothesis =>
      exact query_at prefixes inductionHypothesis ended

end FactQuery.Sparql
