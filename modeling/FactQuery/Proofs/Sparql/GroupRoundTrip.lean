import FactQuery.Proofs.Sparql.FilterRoundTrip
import FactQuery.Proofs.Sparql.WellFormed

/-!
# Written groups are read back

Each triple pattern and each filter of a group stands on a line of its own and is read as an entry
of its own.  Merging the neighbouring patterns gives the runs back, since no two runs of a group are
next to each other.
-/

set_option autoImplicit false

namespace FactQuery.Sparql

open FactQuery.Text FactQuery.Grammar FactQuery.Token

def lineGap : List Char :=
  ['\n', ' ', ' ']

theorem isGap_lineGap : IsGap lineGap := by
  simp [IsGap, lineGap, isLayoutBlank]

/-! ## Filters -/

variable {operator : String} {left right : Term}

theorem text_filter (condition : Node) :
    (Node.filter condition).text.toList =
      "FILTER".toList ++ ("(".toList ++ (condition.text.toList ++ ")".toList)) := by
  simp [Node.text]

theorem text_comparison (operator : String) (left right : Term) :
    (Node.binary operator (.term left) (.term right)).text.toList =
      [] ++ left.text.toList ++ ([' '] ++ operator.toList ++ ([' '] ++ right.text.toList)) := by
  simp [Node.text]

theorem filter_reads (inner : Parser Group) (good : IsComparison operator left right)
    {rest : List Char} (noStop : Misses (symbol ".") rest) :
    Reads (entry inner)
      (lineGap ++ (Node.filter (.binary operator (.term left) (.term right))).text.toList)
      (.filter (.binary operator (.term left) (.term right))) rest := by
  have opens : ∀ behind, Reads (symbol "(") "(".toList () behind :=
    fun behind => symbol_reads IsGap.nil rfl
  have closes : ∀ behind, Reads (symbol ")") ")".toList () behind :=
    fun behind => symbol_reads IsGap.nil rfl
  have inside : Reads (parenthesised expression) ("(".toList ++ (([] ++ left.text.toList ++
      ([' '] ++ operator.toList ++ ([' '] ++ right.text.toList))) ++ ")".toList))
      (.binary operator (.term left) (.term right)) rest :=
    (opens _).bind ((expression_reads good rest).bind (closes rest).bind_pure)
  have keyword : Reads (caselessKeyword "FILTER") (lineGap ++ "FILTER".toList) ()
      ("(".toList ++ (([] ++ left.text.toList ++ ([' '] ++ operator.toList ++
        ([' '] ++ right.text.toList))) ++ ")".toList) ++ rest) :=
    fun before => foldedWord_readsFrom (by decide) isGap_lineGap rfl rfl
  have stop : Reads optionalStop [] () rest := noStop.optional_none.bind_pure
  rw [text_filter, text_comparison, ← List.append_assoc]
  exact Reads.firstOf_here (keyword.bind (inside.firstOf_here.bind_end stop.bind_pure))

/-! ## Keywords that a subject could be taken for -/

/-- The characters behind the longest word that a term begins with. -/
def termTails : List Char :=
  ['?', '<', '\x22', ':', '-']

theorem outside_of_mem_termTails {c : Char} (known : c ∈ termTails) :
    isLayoutStart c = false ∧ isNameChar c = false := by
  have each : (termTails.all fun d => !isLayoutStart d && !isNameChar d) = true := by decide
  have outside := List.all_eq_true.1 each c known
  simpa using outside

theorem dropWhile_term {term : Term} (wellFormed : term.IsWellFormed)
    (plain : term.isPlain = true) (rest : List Char) :
    ∃ c others, (term.text.toList ++ rest).dropWhile (foldsToIdentifier capital) = c :: others ∧
      c ∈ termTails := by
  cases term with
  | «variable» name =>
      rw [text_variable]
      exact ⟨'?', name.toList ++ rest, rfl, by simp [termTails]⟩
  | iri name =>
      cases name with
      | full value =>
          rw [text_iri_full]
          exact ⟨'<', value.toList ++ ['>'] ++ rest, rfl, by simp [termTails]⟩
      | «prefixed» label localPart =>
          rw [text_iri_prefixed, colonJoined, List.append_assoc, List.cons_append]
          have colon : foldsToIdentifier capital ':' = false := by decide
          obtain ⟨c, others, behind, inside, outside⟩ :=
            dropWhile_label wellFormed.1 colon (localPart.toList ++ rest)
          refine ⟨c, others, behind, ?_⟩
          rcases inside with labelled | rfl
          · simp only [isLabelChar, Bool.or_eq_true, beq_iff_eq] at labelled
            rcases labelled with (alphanumeric | rfl) | rfl
            · rw [isIdentifierChar_capital alphanumeric] at outside
              contradiction
            · exact absurd outside (by decide)
            · simp [termTails]
          · simp [termTails]
  | colonless name => exact wellFormed.elim
  | literal value language datatype =>
      rw [(text_literal wellFormed plain).1]
      exact ⟨'\x22', _, rfl, by simp [termTails]⟩
  | blank label =>
      rw [text_blank]
      exact ⟨':', label.toList ++ rest, rfl, by simp [termTails]⟩

/-- A clause behind a keyword is refused where a term stands, even if the term begins with the
keyword: what follows the keyword there opens no bracket and calls nothing. -/
theorem keyword_bind_misses_term {α : Type} {word : String} {next : Unit → Parser α}
    {term : Term} {gap : List Char} (isKeyword : IsKeyword capital word) (blank : IsGap gap)
    (wellFormed : term.IsWellFormed) (plain : term.isPlain = true)
    (refused : ∀ c others, c ∈ termTails → Misses (next ()) (c :: others))
    (rest : List Char) :
    Misses (caselessKeyword word >>= next) (gap ++ (term.text.toList ++ rest)) := by
  refine foldedWord_bind_misses isKeyword blank (stops_term wellFormed plain rest) ?_
  obtain ⟨c, others, behind, known⟩ := dropWhile_term wellFormed plain rest
  rw [behind]
  exact refused c others known

theorem symbol_misses_behind {token : String} {mark : Char} {tail : List Char}
    (marked : token.toList = mark :: tail) (outside : mark ∉ termTails) {c : Char}
    (known : c ∈ termTails) (others : List Char) : Misses (symbol token) (c :: others) := by
  have starts : Stops isLayoutStart (c :: others) :=
    Stops.cons_iff.2 (outside_of_mem_termTails known).1
  have different : mark ≠ c := fun same => outside (same ▸ known)
  have refused : exactly token.toList (c :: others) = none := by
    rw [marked]
    exact exactly_eq_none tail others different
  exact symbol_misses IsGap.nil starts refused

theorem filterClause_misses_term {term : Term} {gap : List Char} (blank : IsGap gap)
    (wellFormed : term.IsWellFormed) (plain : term.isPlain = true) (rest : List Char) :
    Misses filterClause (gap ++ (term.text.toList ++ rest)) := by
  refine keyword_bind_misses_term (by decide) blank wellFormed plain ?_ rest
  intro c others known
  have noBracket : Misses (symbol "(") (c :: others) :=
    symbol_misses_behind rfl (by decide) known others
  obtain ⟨noLayout, noName⟩ := outside_of_mem_termTails known
  have starts : Stops isLayoutStart (c :: others) := Stops.cons_iff.2 noLayout
  have stops : Stops isNameChar (c :: others) := Stops.cons_iff.2 noName
  have noCall : Misses (functionCall expression) ([] ++ c :: others) := by
    refine functionCall_misses IsGap.nil starts ?_
    rw [stops.dropWhile_eq_self]
    exact noBracket
  have noCondition : Misses (Parser.firstOf [parenthesised expression, functionCall expression])
      (c :: others) := by
    refine Misses.firstOf ?_
    simp only [List.forall_mem_cons]
    exact ⟨noBracket.bind, noCall, by simp⟩
  exact noCondition.bind

theorem group_misses (levels : Nat) {text : List Char} (noBrace : Misses (symbol "\x7b") text) :
    Misses (Parser.nestedWithin groupRule levels) text :=
  Misses.nestedWithin (fun _ => noBrace.bind) levels

/-- No other entry begins with a term, even if the term begins with a keyword: what follows the
keyword there does not fit. -/
theorem clauses_miss_term (levels : Nat) {term : Term} {gap : List Char} (blank : IsGap gap)
    (wellFormed : term.IsWellFormed) (plain : term.isPlain = true) (rest : List Char) :
    Misses filterClause (gap ++ (term.text.toList ++ rest)) ∧
      Misses (optionalPattern (Parser.nestedWithin groupRule levels))
        (gap ++ (term.text.toList ++ rest)) ∧
      Misses (groupOrUnion (Parser.nestedWithin groupRule levels))
        (gap ++ (term.text.toList ++ rest)) := by
  refine ⟨filterClause_misses_term blank wellFormed plain rest, ?_, ?_⟩
  · refine keyword_bind_misses_term (by decide) blank wellFormed plain ?_ rest
    intro c others known
    exact (group_misses levels (symbol_misses_behind rfl (by decide) known others)).bind
  · have noBrace : Misses (symbol "\x7b") (gap ++ (term.text.toList ++ rest)) :=
      symbol_misses_term blank wellFormed plain rfl (by decide) rest
    exact (group_misses levels noBrace).bind.bind

/-! ## Triple patterns -/

theorem predicateObjects_reads_single {predicate object : Term} {verbText text rest : List Char}
    (verbReads : Reads verb verbText predicate (text ++ rest))
    (objectReads : Reads graphTerm text object rest) (noComma : Misses (symbol ",") rest) :
    Reads predicateObjects (verbText ++ text) [(predicate, object)] rest :=
  verbReads.bind (objectReads.separated1_single noComma).bind_pure

theorem triplesSameSubject_reads_single {subject predicate object : Term}
    {subjectText text rest : List Char}
    (subjectReads : Reads graphTerm subjectText subject (text ++ rest))
    (pairReads : Reads predicateObjects text [(predicate, object)] rest)
    (noSemicolon : Misses (symbol ";") rest) :
    Reads triplesSameSubject (subjectText ++ text)
      [(Triple.mk subject predicate object).map Node.term] rest := by
  have others : Reads (Parser.many do
      symbol ";"
      Parser.optional predicateObjects) [] [] rest :=
    Misses.many_nil noSemicolon.bind
  exact subjectReads.bind (pairReads.bind_end others.bind_pure)

structure IsPlainPattern (pattern : Triple Term) : Prop where
  terms : IsPattern pattern
  subject : pattern.subject.isPlain = true
  predicate : pattern.predicate.isPlain = true
  object : pattern.object.isPlain = true

theorem text_pattern (pattern : Triple Term) :
    (pattern.map Node.term).text.toList = pattern.subject.text.toList ++
      ([' '] ++ pattern.predicate.text.toList ++ ([' '] ++ pattern.object.text.toList) ++
        [' ', '.']) := by
  simp [Triple.text, Triple.map, Node.tripleText, Node.text]

theorem predicateObjects_reads {predicate object : Term} (isVerb : predicate.IsVerb)
    (isObject : object.IsWellFormed) (plainObject : object.isPlain = true) (rest : List Char) :
    Reads predicateObjects ([' '] ++ predicate.text.toList ++ ([' '] ++ object.text.toList))
      [(predicate, object)] (' ' :: '.' :: rest) := by
  have starts : Stops isLayoutStart ('.' :: rest) := rfl
  have noComma : Misses (symbol ",") (' ' :: '.' :: rest) := symbol_misses IsGap.space starts rfl
  have objectReads : Reads graphTerm ([' '] ++ object.text.toList) object (' ' :: '.' :: rest) :=
    graphTerm_reads IsGap.space isObject plainObject (EndsTerm.space starts rfl)
  have verbReads : Reads verb ([' '] ++ predicate.text.toList) predicate
      ([' '] ++ object.text.toList ++ ' ' :: '.' :: rest) :=
    verb_reads IsGap.space isVerb (endsTerm_term isObject plainObject _)
  exact predicateObjects_reads_single verbReads objectReads noComma

theorem triplesBlock_reads {pattern : Triple Term} {gap : List Char} (blank : IsGap gap)
    (good : IsPlainPattern pattern) (rest : List Char) :
    Reads triplesBlock (gap ++ (pattern.map Node.term).text.toList)
      (.triples [pattern.map Node.term]) rest := by
  obtain ⟨subject, predicate, object⟩ := pattern
  obtain ⟨⟨isSubject, isVerb, isObject⟩, plainSubject, plainPredicate, plainObject⟩ := good
  simp only at isSubject isVerb isObject plainSubject plainPredicate plainObject
  have starts : Stops isLayoutStart ('.' :: rest) := rfl
  have noSemicolon : Misses (symbol ";") (' ' :: '.' :: rest) :=
    symbol_misses IsGap.space starts rfl
  have pairs := predicateObjects_reads isVerb isObject plainObject rest
  have subjectReads : Reads graphTerm (gap ++ subject.text.toList) subject
      ([' '] ++ predicate.text.toList ++ ([' '] ++ object.text.toList) ++ ' ' :: '.' :: rest) := by
    refine graphTerm_reads blank isSubject plainSubject ?_
    rw [List.append_assoc]
    exact endsTerm_term isVerb.1 plainPredicate _
  have patterns := triplesSameSubject_reads_single subjectReads pairs noSemicolon
  have stop : Reads (symbol ".") [' ', '.'] () rest := symbol_reads IsGap.space rfl
  have whole : Reads triplesBlock (gap ++ subject.text.toList ++
      ([' '] ++ predicate.text.toList ++ ([' '] ++ object.text.toList)) ++ [' ', '.'])
      (.triples [(Triple.mk subject predicate object).map Node.term]) rest :=
    patterns.bind (stop.optional_some.bind_pure.bind_pure)
  rw [text_pattern]
  simp only [List.append_assoc] at whole ⊢
  exact whole

theorem pattern_reads (levels : Nat) {pattern : Triple Term} (good : IsPlainPattern pattern)
    (rest : List Char) :
    Reads (entry (Parser.nestedWithin groupRule levels))
      (lineGap ++ (pattern.map Node.term).text.toList) (.triples [pattern.map Node.term]) rest := by
  have read := triplesBlock_reads isGap_lineGap good rest
  have wellFormed := good.terms.1
  have ahead : lineGap ++ (pattern.map Node.term).text.toList ++ rest =
      lineGap ++ (pattern.subject.text.toList ++ ([' '] ++ pattern.predicate.text.toList ++
        ([' '] ++ pattern.object.text.toList) ++ [' ', '.'] ++ rest)) := by
    rw [text_pattern]
    simp only [List.append_assoc]
  obtain ⟨noFilter, noOptional, noGroup⟩ := clauses_miss_term levels isGap_lineGap wellFormed
    good.subject ([' '] ++ pattern.predicate.text.toList ++ ([' '] ++ pattern.object.text.toList) ++
      [' ', '.'] ++ rest)
  rw [← ahead] at noFilter noOptional noGroup
  exact ((read.firstOf_here.firstOf_later noGroup).firstOf_later noOptional).firstOf_later noFilter

/-! ## Entries -/

/-- A run of patterns or a comparison, made of terms that can be written as they are. -/
inductive IsPlainEntry : Node → Prop where
  | triples {patterns : List (Triple Term)} (nonempty : patterns ≠ [])
      (plain : ∀ pattern ∈ patterns, IsPlainPattern pattern) :
      IsPlainEntry (.triples (patterns.map fun pattern => pattern.map Node.term))
  | filter {operator : String} {left right : Term} (good : IsComparison operator left right) :
      IsPlainEntry (.filter (.binary operator (.term left) (.term right)))

def entryLines : Node → List Char
  | .triples patterns => patterns.flatMap fun pattern => lineGap ++ pattern.text.toList
  | entry => lineGap ++ entry.text.toList

def singles : Node → List Node
  | .triples patterns => patterns.map fun pattern => .triples [pattern]
  | entry => [entry]

theorem entryLines_filter (condition : Node) :
    entryLines (.filter condition) = lineGap ++ (Node.filter condition).text.toList := rfl

theorem singles_filter (condition : Node) : singles (.filter condition) = [.filter condition] := rfl

/-- What stands behind an entry is another entry or the end of the group. -/
theorem stop_misses {entries : List Node} (plain : ∀ entry ∈ entries, IsPlainEntry entry)
    (rest : List Char) :
    Misses (symbol ".") (entries.flatMap entryLines ++ '\n' :: '\x7d' :: rest) := by
  cases entries with
  | nil =>
      have starts : Stops isLayoutStart ('\x7d' :: rest) := rfl
      have missed : Misses (symbol ".") (['\n'] ++ '\x7d' :: rest) :=
        symbol_misses IsGap.lineEnd starts rfl
      exact missed
  | cons first others =>
      rw [List.forall_mem_cons] at plain
      obtain ⟨isPlain, _⟩ := plain
      rw [List.flatMap_cons, List.append_assoc]
      cases isPlain with
      | triples nonempty plainPatterns =>
          rename_i patterns
          cases patterns with
          | nil => exact absurd rfl nonempty
          | cons pattern patterns =>
              rw [List.forall_mem_cons] at plainPatterns
              obtain ⟨good, _⟩ := plainPatterns
              simp only [entryLines, List.map_cons, List.flatMap_cons, text_pattern,
                List.append_assoc]
              exact symbol_misses_term isGap_lineGap good.terms.1 good.subject rfl (by decide) _
      | filter good =>
          rw [entryLines_filter, text_filter, List.append_assoc, List.append_assoc]
          exact symbol_misses isGap_lineGap rfl rfl

theorem patterns_readsEach (levels : Nat) {patterns : List (Triple Term)} {text : List Char}
    {later : List Node} {rest : List Char}
    (plain : ∀ pattern ∈ patterns, IsPlainPattern pattern)
    (reads : ReadsEach (entry (Parser.nestedWithin groupRule levels)) text later rest) :
    ReadsEach (entry (Parser.nestedWithin groupRule levels))
      (entryLines (.triples (patterns.map fun pattern => pattern.map Node.term)) ++ text)
      (singles (.triples (patterns.map fun pattern => pattern.map Node.term)) ++ later) rest := by
  induction patterns with
  | nil => exact reads
  | cons pattern patterns inductionHypothesis =>
      rw [List.forall_mem_cons] at plain
      have others := inductionHypothesis plain.2
      have first := pattern_reads levels plain.1
        (entryLines (.triples (patterns.map fun pattern => pattern.map Node.term)) ++ text ++ rest)
      have whole := ReadsEach.more (by simp [lineGap]) first others
      simp only [entryLines, singles, List.map_cons, List.flatMap_cons, List.append_assoc,
        List.cons_append] at whole ⊢
      exact whole

theorem entry_misses_end (levels : Nat) {gap : List Char} (blank : IsGap gap) (rest : List Char) :
    Misses (entry (Parser.nestedWithin groupRule levels)) (gap ++ '\x7d' :: rest) := by
  have starts : Stops isLayoutStart ('\x7d' :: rest) := rfl
  have noWord : ∀ word, IsKeyword capital word →
      Misses (caselessKeyword word) (gap ++ '\x7d' :: rest) :=
    fun word isKeyword => foldedWord_misses_of_stops isKeyword blank starts rfl
  have noBrace : Misses (symbol "\x7b") (gap ++ '\x7d' :: rest) :=
    symbol_misses blank starts rfl
  have noTerm : Misses graphTerm (gap ++ '\x7d' :: rest) := by
    have run : ('\x7d' :: rest).takeWhile (foldsToIdentifier capital) = [] := rfl
    have noVariable : Misses variableName (gap ++ '\x7d' :: rest) :=
      variableName_misses blank starts rfl
    have noName : Misses iri (gap ++ '\x7d' :: rest) := iri_misses blank starts rfl
    have noString : Misses quotedText (gap ++ '\x7d' :: rest) := quotedText_misses blank starts rfl
    have noNumber : Misses number (gap ++ '\x7d' :: rest) := number_misses blank starts rfl
    have noTruth : Misses boolean (gap ++ '\x7d' :: rest) := by
      refine boolean_misses blank starts ?_ ?_
      · rw [run]
        decide
      · rw [run]
        decide
    have noNode : Misses (lexeme scanBlankNode) (gap ++ '\x7d' :: rest) :=
      lexeme_misses blank starts rfl
    refine Misses.firstOf ?_
    simp only [List.forall_mem_cons]
    exact ⟨noVariable.map, noName.map, noString.bind, noNumber, noTruth, noNode.bind, by simp⟩
  refine Misses.firstOf ?_
  simp only [List.forall_mem_cons]
  refine ⟨?_, ?_, ?_, ?_, by simp⟩
  · exact (noWord "FILTER" (by decide)).bind
  · exact (noWord "OPTIONAL" (by decide)).bind
  · exact (group_misses levels noBrace).bind.bind
  · exact noTerm.bind.bind

theorem entries_readsEach (levels : Nat) {entries : List Node}
    (plain : ∀ entry ∈ entries, IsPlainEntry entry) (rest : List Char) :
    ReadsEach (entry (Parser.nestedWithin groupRule levels)) (entries.flatMap entryLines)
      (entries.flatMap singles) ('\n' :: '\x7d' :: rest) := by
  induction entries with
  | nil => exact ReadsEach.stop (entry_misses_end levels IsGap.lineEnd rest)
  | cons first others inductionHypothesis =>
      rw [List.forall_mem_cons] at plain
      obtain ⟨isPlain, plainOthers⟩ := plain
      have later := inductionHypothesis plainOthers
      rw [List.flatMap_cons, List.flatMap_cons]
      cases isPlain with
      | triples nonempty plainPatterns => exact patterns_readsEach levels plainPatterns later
      | filter good =>
          have read := filter_reads (Parser.nestedWithin groupRule levels) good
            (stop_misses plainOthers rest)
          have nonempty : ∀ condition, entryLines (.filter condition) ≠ [] := by
            intro condition
            simp [entryLines_filter, lineGap]
          exact ReadsEach.more (nonempty _) read later

/-! ## Runs -/

theorem mergeRuns_patterns {patterns : List TriplePattern} {others : List Node}
    (nonempty : patterns ≠ []) (apart : ((mergeRuns others).head?.any Node.isRun) = false) :
    mergeRuns ((patterns.map fun pattern => .triples [pattern]) ++ others) =
      .triples patterns :: mergeRuns others := by
  induction patterns with
  | nil => exact absurd rfl nonempty
  | cons pattern patterns inductionHypothesis =>
      rw [List.map_cons, List.cons_append, mergeRuns]
      cases patterns with
      | nil =>
          rw [List.map_nil, List.nil_append]
          cases merged : mergeRuns others with
          | nil => rfl
          | cons next behind =>
              rw [merged] at apart
              cases next with
              | triples more => simp [Node.isRun] at apart
              | _ => rfl
      | cons second patterns =>
          rw [inductionHypothesis (by simp)]
          rfl

/-- The entries that are read line by line merge into the entries that were written. -/
theorem mergeRuns_singles {entries : List Node} (plain : ∀ entry ∈ entries, IsPlainEntry entry)
    (merged : IsMerged entries) : mergeRuns (entries.flatMap singles) = entries := by
  induction entries with
  | nil => rfl
  | cons first others inductionHypothesis =>
      rw [List.forall_mem_cons] at plain
      obtain ⟨isPlain, plainOthers⟩ := plain
      obtain ⟨apart, mergedOthers⟩ := merged
      have later := inductionHypothesis plainOthers mergedOthers
      rw [List.flatMap_cons]
      cases isPlain with
      | triples nonempty plainPatterns =>
          rw [singles, mergeRuns_patterns (by simpa using nonempty)
            (by rw [later]; exact apart rfl), later]
      | filter good =>
          rw [singles_filter, List.singleton_append, mergeRuns_cons rfl, later]

theorem group_reads {entries : Group} (plain : ∀ entry ∈ entries, IsPlainEntry entry)
    (merged : IsMerged entries) (rest : List Char) :
    Reads group ([' ', '\x7b'] ++ (entries.flatMap entryLines ++ ['\n', '\x7d'])) entries rest := by
  refine Reads.nested fun levels => ?_
  have opens : ∀ behind, Reads (symbol "\x7b") [' ', '\x7b'] () behind :=
    fun behind => symbol_reads IsGap.space rfl
  have closes : Reads (symbol "\x7d") ['\n', '\x7d'] () rest :=
    symbol_reads IsGap.lineEnd rfl
  have read := (entries_readsEach levels plain rest).many
  have whole : Reads (groupRule (Parser.nestedWithin groupRule levels))
      ([' ', '\x7b'] ++ (entries.flatMap entryLines ++ ['\n', '\x7d']))
      (mergeRuns (entries.flatMap singles)) rest :=
    (opens _).bind (read.bind closes.bind_pure)
  rw [mergeRuns_singles plain merged] at whole
  exact whole

theorem group_reads_line {text rest : List Char} {entries : List Node}
    (each : ∀ levels, ReadsEach (entry (Parser.nestedWithin groupRule levels)) text entries
      (' ' :: '\x7d' :: rest)) :
    Reads group ([' ', '\x7b'] ++ (text ++ [' ', '\x7d'])) (mergeRuns entries) rest := by
  refine Reads.nested fun levels => ?_
  have opens : Reads (symbol "\x7b") [' ', '\x7b'] () (text ++ [' ', '\x7d'] ++ rest) :=
    symbol_reads IsGap.space rfl
  have closes : Reads (symbol "\x7d") [' ', '\x7d'] () rest := symbol_reads IsGap.space rfl
  exact opens.bind ((each levels).many.bind closes.bind_pure)

end FactQuery.Sparql
