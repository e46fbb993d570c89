import FactQuery.Proofs.Abbreviation.Block
import FactQuery.Proofs.Sparql.GroupRoundTrip
import FactQuery.Proofs.Sparql.QueryText
import FactQuery.Proofs.TripleText.Query

/-!
# Blocks in a query

A group of blocks is one run of triple patterns, a pattern for each predicate and object in the
order in which they are written.  The group in which each block is written out is the same run, and
so both texts are the same query.
-/

set_option autoImplicit false

namespace FactQuery.Abbreviation

open FactQuery.Text FactQuery.Grammar FactQuery.Token FactQuery.Sparql

/-! ## Patterns of a block -/

/-- A phrase that is read as a term and begins no other entry of a group. -/
structure IsPatternSubject (phrase : Phrase Term) : Prop where
  readBy : phrase.IsReadBy graphTerm
  noClause : ∀ levels rest, Misses filterClause (phrase.write ++ ' ' :: rest) ∧
    Misses (optionalPattern (Parser.nestedWithin groupRule levels)) (phrase.write ++ ' ' :: rest) ∧
    Misses (groupOrUnion (Parser.nestedWithin groupRule levels)) (phrase.write ++ ' ' :: rest)

structure PatternBlock where
  subject : Phrase Term
  said : Block Term Term

namespace PatternBlock

structure IsGood (block : PatternBlock) : Prop where
  subject : IsPatternSubject block.subject
  said : block.said.IsReadBy verb graphTerm

def pattern (subject : Term) (pair : Term × Term) : TriplePattern :=
  (Triple.mk subject pair.1 pair.2).map Node.term

def patterns (block : PatternBlock) : List TriplePattern :=
  block.said.pairs.map (pattern block.subject.value)

def write (block : PatternBlock) : List Char :=
  block.subject.write ++ block.said.write

/-- The block written out, one statement for each predicate and object. -/
def singles (block : PatternBlock) : List PatternBlock :=
  block.said.singles.map (PatternBlock.mk block.subject)

theorem IsGood.singles {block : PatternBlock} (good : block.IsGood) :
    ∀ one ∈ block.singles, one.IsGood := by
  intro one inside
  obtain ⟨said, found, rfl⟩ := List.mem_map.1 inside
  exact ⟨good.subject, good.said.singles said found⟩

theorem patterns_ne_nil (block : PatternBlock) : block.patterns ≠ [] := by
  simp [patterns, Block.pairs, Block.predications, Predication.pairs, Predication.objects]

theorem patterns_singles (block : PatternBlock) :
    block.singles.flatMap patterns = block.patterns := by
  have pairs := congrArg (List.flatMap (List.map (pattern block.subject.value)))
    block.said.map_pairs_singles
  rw [List.flatMap_map, List.flatMap_map] at pairs
  rw [singles, List.flatMap_map]
  exact pairs.trans List.map_eq_flatMap.symm

end PatternBlock

/-! ## Reading a block -/

theorem verb_misses {text : List Char} (closes : Closes text) : Misses Sparql.verb text := by
  obtain ⟨mark, rest, rfl, starts, known⟩ := closes.cases
  have outside : (closers.all fun c =>
      !isNameFront c && !foldsToIdentifier id c && !isVariableMark c) = true := by
    decide
  have here := List.all_eq_true.1 outside mark known
  rw [Bool.and_eq_true, Bool.and_eq_true, Bool.not_eq_true', Bool.not_eq_true',
    Bool.not_eq_true'] at here
  obtain ⟨⟨noFront, noIdentifier⟩, noMark⟩ := here
  have noVariable : Misses variableName ([' '] ++ mark :: rest) :=
    variableName_misses IsGap.space starts (Stops.cons_iff.2 noMark)
  have noName : Misses iri ([' '] ++ mark :: rest) :=
    iri_misses IsGap.space starts (Stops.cons_iff.2 noFront)
  have noWord : Misses (keyword "a") ([' '] ++ mark :: rest) :=
    foldedWord_misses_of_stops (by decide) IsGap.space starts (Stops.cons_iff.2 noIdentifier)
  refine Misses.firstOf ?_
  simp only [List.forall_mem_cons]
  exact ⟨noVariable.map, noName.map, noWord.bind, by simp⟩

theorem triplesSameSubject_eq : triplesSameSubject = (do
    let subject ← graphTerm
    let first ← group Sparql.verb graphTerm
    let others ← Parser.many (laterGroup Sparql.verb graphTerm)
    let pairs := first ++ others.flatMap fun group => group.getD []
    return pairs.map (PatternBlock.pattern subject)) := rfl

theorem triplesSameSubject_reads {block : PatternBlock} (good : block.IsGood) {rest : List Char}
    (closes : Closes rest) (noSemicolon : Misses (symbol ";") rest) :
    Reads triplesSameSubject block.write block.patterns rest := by
  obtain ⟨groups, first, later, same⟩ := good.said.reads (fun _ => verb_misses) closes noSemicolon
  have isVerb := (good.said block.said.first List.mem_cons_self).verb
  have about : Reads graphTerm block.subject.write block.subject.value
      (block.said.first.write ++ block.said.writeLater ++ rest) := by
    have apart := isVerb.apart (block.said.first.first.write ++
      (block.said.first.others.flatMap fun object => [' ', ','] ++ object.write) ++
      block.said.writeLater ++ rest)
    rw [Predication.write]
    simp only [List.append_assoc] at apart ⊢
    exact good.subject.readBy.reads _ apart
  rw [triplesSameSubject_eq, PatternBlock.write, Block.write, PatternBlock.patterns, ← same]
  exact about.bind (first.bind later.bind_pure)

def stopText (stopped : Bool) : List Char :=
  if stopped then [' ', '.'] else []

theorem triplesBlock_reads {block : PatternBlock} (good : block.IsGood) (stopped : Bool)
    {rest : List Char} (closes : stopped = false → ∃ behind, rest = ' ' :: '\x7d' :: behind) :
    Reads triplesBlock (block.write ++ stopText stopped) (.triples block.patterns) rest := by
  cases stopped with
  | true =>
      have starts : Stops isLayoutStart ('.' :: rest) := rfl
      have patterns := triplesSameSubject_reads good (.intro (by decide) rest)
        (symbol_misses IsGap.space starts rfl)
      have stop : Reads (symbol ".") [' ', '.'] () rest := symbol_reads IsGap.space rfl
      exact patterns.bind (stop.optional_some.bind_pure.bind_pure)
  | false =>
      obtain ⟨behind, rfl⟩ := closes rfl
      have starts : Stops isLayoutStart ('\x7d' :: behind) := rfl
      have patterns := triplesSameSubject_reads good (.intro (by decide) behind)
        (symbol_misses IsGap.space starts rfl)
      have noStop : Misses (symbol ".") (' ' :: '\x7d' :: behind) :=
        @symbol_misses "." [' '] _ IsGap.space starts rfl
      have stop : Reads optionalStop [] () (' ' :: '\x7d' :: behind) :=
        noStop.optional_none.bind_pure
      exact patterns.bind stop.bind_pure

theorem entry_reads {block : PatternBlock} (good : block.IsGood) (levels : Nat) (stopped : Bool)
    {rest : List Char} (closes : stopped = false → ∃ behind, rest = ' ' :: '\x7d' :: behind) :
    Reads (entry (Parser.nestedWithin groupRule levels)) (block.write ++ stopText stopped)
      (.triples block.patterns) rest := by
  have read := triplesBlock_reads good stopped closes
  obtain ⟨behind, written⟩ : ∃ behind, block.said.write = ' ' :: behind := ⟨_, rfl⟩
  obtain ⟨noFilter, noOptional, noGroup⟩ :=
    good.subject.noClause levels (behind ++ stopText stopped ++ rest)
  have ahead : block.write ++ stopText stopped ++ rest =
      block.subject.write ++ ' ' :: (behind ++ stopText stopped ++ rest) := by
    rw [PatternBlock.write, written]
    simp
  rw [← ahead] at noFilter noOptional noGroup
  exact ((read.firstOf_here.firstOf_later noGroup).firstOf_later noOptional).firstOf_later noFilter

/-! ## Groups and queries -/

def bodyText (stopped : Bool) : List PatternBlock → List Char
  | [] => []
  | [last] => last.write ++ stopText stopped
  | block :: next :: others => block.write ++ stopText true ++ bodyText stopped (next :: others)

theorem body_readsEach {stopped : Bool} {blocks : List PatternBlock}
    (good : ∀ block ∈ blocks, block.IsGood) (levels : Nat) (rest : List Char) :
    ReadsEach (entry (Parser.nestedWithin groupRule levels)) (bodyText stopped blocks)
      (blocks.map fun block => .triples block.patterns) (' ' :: '\x7d' :: rest) := by
  have ended : Misses (entry (Parser.nestedWithin groupRule levels)) (' ' :: '\x7d' :: rest) :=
    entry_misses_end levels IsGap.space rest
  have nonempty : ∀ (block : PatternBlock) stopped, block.write ++ stopText stopped ≠ [] := by
    intro block stopped
    simp [PatternBlock.write, Phrase.write]
  induction blocks with
  | nil => exact .stop ended
  | cons block others inductionHypothesis =>
      rw [List.forall_mem_cons] at good
      rw [List.map_cons]
      cases others with
      | nil =>
          exact .single (nonempty block stopped)
            (entry_reads good.1 levels stopped fun _ => ⟨rest, rfl⟩) ended
      | cons next others =>
          exact ReadsEach.more (nonempty block true)
            (entry_reads good.1 levels true (by simp)) (inductionHypothesis good.2)

theorem mergeRuns_triples {runs : List (List TriplePattern)} (nonempty : runs ≠ []) :
    mergeRuns (runs.map .triples) = [.triples runs.flatten] := by
  induction runs with
  | nil => exact absurd rfl nonempty
  | cons patterns others inductionHypothesis =>
      rw [List.map_cons, mergeRuns]
      cases others with
      | nil => simp [mergeRuns]
      | cons next others =>
          rw [inductionHypothesis (by simp)]
          simp

def runOf (blocks : List PatternBlock) : List TriplePattern :=
  blocks.flatMap PatternBlock.patterns

theorem mergeRuns_blocks {blocks : List PatternBlock} (nonempty : blocks ≠ []) :
    mergeRuns (blocks.map fun block => .triples block.patterns) = [.triples (runOf blocks)] := by
  have runs : blocks.map PatternBlock.patterns ≠ [] := by simpa using nonempty
  have merged := mergeRuns_triples runs
  rw [List.map_map] at merged
  exact merged

def queryText (declared : List (String × String)) (stopped : Bool) (blocks : List PatternBlock) :
    String :=
  String.ofList ((declared.flatMap fun pair => declarationText pair ++ ['\n']) ++
    ("SELECT".toList ++ ([' ', '*'] ++ ([' '] ++ "WHERE".toList ++
      ([' ', '\x7b'] ++ (bodyText stopped blocks ++ [' ', '\x7d']))))))

def runQuery (declared : List (String × String)) (patterns : List TriplePattern) : Query :=
  ⟨.ofList declared, .select { variableNames := [], group := [.triples patterns] }⟩

theorem tab_not_mem_bodyText {stopped : Bool} {blocks : List PatternBlock}
    (good : ∀ block ∈ blocks, block.IsGood) : '\t' ∉ bodyText stopped blocks := by
  have inStop : ∀ stopped, '\t' ∉ stopText stopped := by decide
  have inBlock : ∀ {block : PatternBlock}, block.IsGood → '\t' ∉ block.write := by
    intro block isGood
    have inSubject := isGood.subject.readBy.tab_not_mem_write
    have inSaid := isGood.said.tab_not_mem_write
    simp [PatternBlock.write, inSubject, inSaid]
  induction blocks with
  | nil => simp [bodyText]
  | cons block others inductionHypothesis =>
      rw [List.forall_mem_cons] at good
      cases others with
      | nil => simp [bodyText, inBlock good.1, inStop]
      | cons next others =>
          rw [bodyText]
          simp only [List.mem_append, not_or]
          exact ⟨⟨inBlock good.1, inStop true⟩, inductionHypothesis good.2⟩

theorem parse_queryText {declared : List (String × String)} {stopped : Bool}
    {blocks : List PatternBlock} (areDeclarations : ∀ pair ∈ declared, IsDeclaration pair)
    (nonempty : blocks ≠ []) (good : ∀ block ∈ blocks, block.IsGood) :
    Query.parse (queryText declared stopped blocks) =
      .ok (runQuery declared (runOf blocks)) := by
  have read := query_readsFrom_everything areDeclarations fun levels =>
    @body_readsEach stopped blocks good levels []
  rw [mergeRuns_blocks nonempty] at read
  exact Query.parse_of_readsFrom
    (tab_not_mem_everythingText areDeclarations (tab_not_mem_bodyText good)) read

def writtenOutBlocks (blocks : List PatternBlock) : List PatternBlock :=
  blocks.flatMap PatternBlock.singles

/-- Blocks and the same blocks written out are the same query, a single run of patterns. -/
theorem parse_writtenOut {declared : List (String × String)} (stopped again : Bool)
    {blocks : List PatternBlock} (areDeclarations : ∀ pair ∈ declared, IsDeclaration pair)
    (nonempty : blocks ≠ []) (good : ∀ block ∈ blocks, block.IsGood) :
    Query.parse (queryText declared stopped blocks) = .ok (runQuery declared (runOf blocks)) ∧
      Query.parse (queryText declared again (writtenOutBlocks blocks)) =
        .ok (runQuery declared (runOf blocks)) := by
  have singles : ∀ block ∈ writtenOutBlocks blocks, block.IsGood := by
    intro one inside
    obtain ⟨block, known, found⟩ := List.mem_flatMap.1 inside
    exact (good block known).singles one found
  have samePatterns : runOf (writtenOutBlocks blocks) = runOf blocks := by
    rw [runOf, writtenOutBlocks, List.flatMap_assoc]
    simp only [PatternBlock.patterns_singles]
    rfl
  have some : writtenOutBlocks blocks ≠ [] := by
    intro none
    obtain ⟨block, others, rfl⟩ := List.exists_cons_of_ne_nil nonempty
    rw [none, runOf, runOf, List.flatMap_cons] at samePatterns
    exact block.patterns_ne_nil (List.append_eq_nil_iff.1 samePatterns.symm).1
  rw [← samePatterns]
  refine ⟨?_, parse_queryText areDeclarations some singles⟩
  rw [samePatterns]
  exact parse_queryText areDeclarations nonempty good

end FactQuery.Abbreviation
