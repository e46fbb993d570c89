import FactQuery.Proofs.Token.LiteralSuffix

/-!
# Blocks

A block says several things of one subject: predicates with semicolons between them, each with
objects that have commas between them.  Both languages abbreviate in this way, and blocks are read
in both by the same steps; what predicates and objects are is left open.  Written out, a block is
one predicate and one object at a time.
-/

set_option autoImplicit false

namespace FactQuery.Abbreviation

open FactQuery.Grammar FactQuery.Token

variable {α ν ω : Type}

/-! ## Phrases -/

structure Phrase (α : Type) where
  text : List Char
  value : α

namespace Phrase

def write (phrase : Phrase α) : List Char :=
  ' ' :: phrase.text

/-- Behind a blank and in front of one the parser takes the text for its value.  Behind another
phrase the text is not taken for something that a literal carries. -/
structure IsReadBy (parser : Parser α) (phrase : Phrase α) : Prop where
  noTab : '\t' ∉ phrase.text
  reads : ∀ rest, EndsTerm (' ' :: rest) → Reads parser phrase.write phrase.value (' ' :: rest)
  apart : ∀ rest, EndsTerm (phrase.write ++ rest)

end Phrase

/-! ## The written form -/

/-- A predicate and its objects, and the number of semicolons behind them that nothing needs. -/
structure Predication (ν ω : Type) where
  verb : Phrase ν
  first : Phrase ω
  others : List (Phrase ω) := []
  spare : Nat := 0

structure Block (ν ω : Type) where
  first : Predication ν ω
  others : List (Predication ν ω) := []

namespace Predication

def objects (predication : Predication ν ω) : List (Phrase ω) :=
  predication.first :: predication.others

def pairs (predication : Predication ν ω) : List (ν × ω) :=
  predication.objects.map fun object => (predication.verb.value, object.value)

def write (predication : Predication ν ω) : List Char :=
  predication.verb.write ++ (predication.first.write ++
    predication.others.flatMap fun object => [' ', ','] ++ object.write)

structure IsReadBy (verb : Parser ν) (object : Parser ω) (predication : Predication ν ω) :
    Prop where
  verb : predication.verb.IsReadBy verb
  objects : ∀ phrase ∈ predication.objects, phrase.IsReadBy object

end Predication

def semicolons (count : Nat) : List Char :=
  (List.replicate count [' ', ';']).flatten

namespace Block

def predications (block : Block ν ω) : List (Predication ν ω) :=
  block.first :: block.others

def pairs (block : Block ν ω) : List (ν × ω) :=
  block.predications.flatMap Predication.pairs

def writeLater (block : Block ν ω) : List Char :=
  semicolons block.first.spare ++ block.others.flatMap fun predication =>
    [' ', ';'] ++ (predication.write ++ semicolons predication.spare)

def write (block : Block ν ω) : List Char :=
  block.first.write ++ block.writeLater

def IsReadBy (verb : Parser ν) (object : Parser ω) (block : Block ν ω) : Prop :=
  ∀ predication ∈ block.predications, predication.IsReadBy verb object

def single (verb : Phrase ν) (object : Phrase ω) : Block ν ω :=
  ⟨⟨verb, object, [], 0⟩, []⟩

/-- The block written out. -/
def singles (block : Block ν ω) : List (Block ν ω) :=
  block.predications.flatMap fun predication =>
    predication.objects.map (single predication.verb)

theorem map_pairs_singles (block : Block ν ω) :
    block.singles.map pairs = block.pairs.map fun pair => [pair] := by
  rw [singles, pairs, List.map_flatMap, List.map_flatMap]
  congr 1
  funext predication
  rw [Predication.pairs, List.map_map, List.map_map]
  rfl

theorem mem_singles {block one : Block ν ω} (inside : one ∈ block.singles) :
    ∃ predication ∈ block.predications, ∃ object ∈ predication.objects,
      one = single predication.verb object := by
  obtain ⟨predication, known, among⟩ := List.mem_flatMap.1 inside
  obtain ⟨object, found, rfl⟩ := List.mem_map.1 among
  exact ⟨predication, known, object, found, rfl⟩

theorem IsReadBy.singles {verb : Parser ν} {object : Parser ω} {block : Block ν ω}
    (good : block.IsReadBy verb object) : ∀ one ∈ block.singles, one.IsReadBy verb object := by
  intro one inside
  obtain ⟨predication, known, phrase, found, rfl⟩ := mem_singles inside
  have readable := good predication known
  have isSingle : (single predication.verb phrase).predications =
      [⟨predication.verb, phrase, [], 0⟩] := rfl
  rw [IsReadBy, isSingle, List.forall_mem_singleton]
  refine ⟨readable.verb, ?_⟩
  rintro other among
  rw [List.mem_singleton.1 among]
  exact readable.objects phrase found

end Block

/-! ## Marks behind a group of objects -/

def closers : List Char :=
  [';', '.', ']', '\x7d']

def Closes (text : List Char) : Prop :=
  ∃ mark rest, text = ' ' :: mark :: rest ∧ mark ∈ closers

theorem Closes.intro {mark : Char} (known : mark ∈ closers) (rest : List Char) :
    Closes (' ' :: mark :: rest) :=
  ⟨mark, rest, rfl, known⟩

namespace Closes

variable {text : List Char}

theorem cases (closes : Closes text) :
    ∃ mark rest, text = [' '] ++ mark :: rest ∧ Stops isLayoutStart (mark :: rest) ∧
      mark ∈ closers := by
  obtain ⟨mark, rest, rfl, known⟩ := closes
  have noLayout : (closers.all fun c => !isLayoutStart c) = true := by decide
  have here := List.all_eq_true.1 noLayout mark known
  refine ⟨mark, rest, rfl, ?_, known⟩
  rw [Stops.cons_iff]
  simpa using here

theorem endsTerm (closes : Closes text) : EndsTerm text := by
  obtain ⟨mark, rest, rfl, starts, known⟩ := closes.cases
  have noSuffix : (closers.all fun c => !isSuffixFront c) = true := by decide
  have here := List.all_eq_true.1 noSuffix mark known
  exact EndsTerm.space starts (Stops.cons_iff.2 (by simpa using here))

theorem misses_comma (closes : Closes text) : Misses (symbol ",") text := by
  obtain ⟨mark, rest, rfl, starts, known⟩ := closes.cases
  refine symbol_misses IsGap.space starts (exactly_eq_none [] rest ?_)
  rintro rfl
  exact absurd known (by decide)

end Closes

/-! ## Reading a block -/

def group (verb : Parser ν) (object : Parser ω) : Parser (List (ν × ω)) := do
  let name ← verb
  let objects ← Parser.separated1 (symbol ",") object
  return objects.map fun value => (name, value)

def laterGroup (verb : Parser ν) (object : Parser ω) : Parser (Option (List (ν × ω))) := do
  symbol ";"
  Parser.optional (group verb object)

theorem semicolon_reads (rest : List Char) : Reads (symbol ";") [' ', ';'] () rest :=
  symbol_reads IsGap.space rfl

theorem comma_reads (rest : List Char) : Reads (symbol ",") [' ', ','] () rest :=
  symbol_reads IsGap.space rfl

variable {verb : Parser ν} {object : Parser ω}

theorem objects_readsEach {phrases : List (Phrase ω)}
    (good : ∀ phrase ∈ phrases, phrase.IsReadBy object) {rest : List Char} (closes : Closes rest) :
    ReadsEach (do symbol ","; object) (phrases.flatMap fun phrase => [' ', ','] ++ phrase.write)
      (phrases.map Phrase.value) rest := by
  induction phrases with
  | nil => exact ReadsEach.stop closes.misses_comma.bind
  | cons phrase others inductionHypothesis =>
      rw [List.forall_mem_cons] at good
      rw [List.flatMap_cons, List.map_cons]
      refine ReadsEach.more (by simp) ((comma_reads _).bind ?_) (inductionHypothesis good.2)
      cases others with
      | nil =>
          have ends := closes.endsTerm
          obtain ⟨mark, behind, rfl, _⟩ := closes
          exact good.1.reads _ ends
      | cons next others => exact good.1.reads _ (EndsTerm.space rfl rfl)

theorem Predication.IsReadBy.reads {predication : Predication ν ω}
    (good : predication.IsReadBy verb object) {rest : List Char} (closes : Closes rest) :
    Reads (group verb object) predication.write predication.pairs rest := by
  have ⟨isFirst, areOthers⟩ := List.forall_mem_cons.1 good.objects
  have later := objects_readsEach areOthers closes
  have first : Reads object predication.first.write predication.first.value
      ((predication.others.flatMap fun phrase => [' ', ','] ++ phrase.write) ++ rest) := by
    cases predication.others with
    | nil =>
        have ends := closes.endsTerm
        obtain ⟨mark, behind, rfl, _⟩ := closes
        exact isFirst.reads _ ends
    | cons next others => exact isFirst.reads _ (EndsTerm.space rfl rfl)
  have objects : Reads (Parser.separated1 (symbol ",") object)
      (predication.first.write ++ predication.others.flatMap fun phrase =>
        [' ', ','] ++ phrase.write) (predication.objects.map Phrase.value) rest :=
    first.bind later.many.bind_pure
  have name : Reads verb predication.verb.write predication.verb.value
      (predication.first.write ++ (predication.others.flatMap fun phrase =>
        [' ', ','] ++ phrase.write) ++ rest) := by
    refine good.verb.reads _ ?_
    have apart := isFirst.apart ((predication.others.flatMap fun phrase =>
      [' ', ','] ++ phrase.write) ++ rest)
    rw [← List.append_assoc] at apart
    exact apart
  have same : predication.pairs =
      (predication.objects.map Phrase.value).map fun value => (predication.verb.value, value) := by
    rw [Predication.pairs, List.map_map]
    rfl
  rw [same]
  exact name.bind objects.bind_pure

theorem semicolons_readsEach (noVerb : ∀ text, Closes text → Misses verb text) (count : Nat)
    {later rest : List Char} {groups : List (Option (List (ν × ω)))}
    (closes : Closes (later ++ rest))
    (reads : ReadsEach (laterGroup verb object) later groups rest) :
    Closes (semicolons count ++ later ++ rest) ∧
      ReadsEach (laterGroup verb object) (semicolons count ++ later)
        (List.replicate count none ++ groups) rest := by
  induction count with
  | zero => exact ⟨closes, reads⟩
  | succ count inductionHypothesis =>
      obtain ⟨closesLater, readsLater⟩ := inductionHypothesis
      have written : semicolons (count + 1) ++ later =
          [' ', ';'] ++ (semicolons count ++ later) := rfl
      have nothing : Reads (Parser.optional (group verb object)) [] none
          (semicolons count ++ later ++ rest) :=
        (noVerb _ closesLater).bind.optional_none
      rw [written]
      exact ⟨.intro (by decide) _,
        ReadsEach.more (by simp) ((semicolon_reads _).bind_end nothing) readsLater⟩

/-- Each group behind the first has a semicolon in front of it and as many as are spare behind. -/
theorem later_readsEach (noVerb : ∀ text, Closes text → Misses verb text)
    {predications : List (Predication ν ω)}
    (good : ∀ predication ∈ predications, predication.IsReadBy verb object) {rest : List Char}
    (closes : Closes rest) (noSemicolon : Misses (symbol ";") rest) :
    ∃ groups,
      Closes ((predications.flatMap fun predication =>
        [' ', ';'] ++ (predication.write ++ semicolons predication.spare)) ++ rest) ∧
      ReadsEach (laterGroup verb object) (predications.flatMap fun predication =>
        [' ', ';'] ++ (predication.write ++ semicolons predication.spare)) groups rest ∧
      (groups.flatMap fun group => group.getD []) = predications.flatMap Predication.pairs := by
  induction predications with
  | nil => exact ⟨[], closes, ReadsEach.stop noSemicolon.bind, rfl⟩
  | cons predication others inductionHypothesis =>
      rw [List.forall_mem_cons] at good
      obtain ⟨groups, closesLater, readsLater, same⟩ := inductionHypothesis good.2
      obtain ⟨closesHere, readsSpare⟩ :=
        semicolons_readsEach noVerb predication.spare closesLater readsLater
      have here : Reads (laterGroup verb object) ([' ', ';'] ++ predication.write)
          (some predication.pairs) (semicolons predication.spare ++ _ ++ rest) :=
        (semicolon_reads _).bind (good.1.reads closesHere).optional_some
      refine ⟨some predication.pairs :: (List.replicate predication.spare none ++ groups),
        .intro (by decide) _, ?_, ?_⟩
      · have whole := ReadsEach.more (by simp) here readsSpare
        rw [List.flatMap_cons]
        simp only [List.append_assoc] at whole ⊢
        exact whole
      · rw [List.flatMap_cons, List.flatMap_cons, List.flatMap_append, ← same]
        simp [List.flatMap_replicate]

/-- A block is read group by group.  What is behind the first group is read as a whole, and both
together say what the block says. -/
theorem Block.IsReadBy.reads {block : Block ν ω} (good : block.IsReadBy verb object)
    (noVerb : ∀ text, Closes text → Misses verb text) {rest : List Char} (closes : Closes rest)
    (noSemicolon : Misses (symbol ";") rest) :
    ∃ groups,
      Reads (group verb object) block.first.write block.first.pairs (block.writeLater ++ rest) ∧
      Reads (Parser.many (laterGroup verb object)) block.writeLater groups rest ∧
      block.first.pairs ++ (groups.flatMap fun group => group.getD []) = block.pairs := by
  obtain ⟨isFirst, areOthers⟩ := List.forall_mem_cons.1 good
  obtain ⟨groups, closesLater, readsLater, same⟩ :=
    later_readsEach noVerb areOthers closes noSemicolon
  obtain ⟨closesHere, readsSpare⟩ :=
    semicolons_readsEach noVerb block.first.spare closesLater readsLater
  refine ⟨List.replicate block.first.spare none ++ groups, isFirst.reads closesHere,
    readsSpare.many, ?_⟩
  rw [List.flatMap_append, same, Block.pairs, Block.predications, List.flatMap_cons]
  simp [List.flatMap_replicate]

theorem Block.IsReadBy.reads_whole {block : Block ν ω} (good : block.IsReadBy verb object)
    (noVerb : ∀ text, Closes text → Misses verb text) {rest : List Char} (closes : Closes rest)
    (noSemicolon : Misses (symbol ";") rest) :
    Reads (do
      let first ← group verb object
      let others ← Parser.many (laterGroup verb object)
      return first ++ others.flatMap fun group => group.getD []) block.write block.pairs rest := by
  obtain ⟨groups, first, later, same⟩ := good.reads noVerb closes noSemicolon
  rw [← same, Block.write]
  exact first.bind later.bind_pure

/-! ## Tabs -/

theorem Phrase.IsReadBy.tab_not_mem_write {parser : Parser α} {phrase : Phrase α}
    (good : phrase.IsReadBy parser) : '\t' ∉ phrase.write := by
  have inside := good.noTab
  simp [Phrase.write, inside]

theorem Block.IsReadBy.tab_not_mem_write {block : Block ν ω} (good : block.IsReadBy verb object) :
    '\t' ∉ block.write := by
  have inPredication : ∀ predication ∈ block.predications, '\t' ∉ predication.write := by
    intro predication known
    have readable := good predication known
    obtain ⟨isFirst, areOthers⟩ := List.forall_mem_cons.1 readable.objects
    have inOthers : ∀ phrase ∈ predication.others, '\t' ∉ phrase.write :=
      fun phrase found => (areOthers phrase found).tab_not_mem_write
    simp [Predication.write, readable.verb.tab_not_mem_write, isFirst.tab_not_mem_write,
      List.mem_flatMap]
    exact inOthers
  have inSemicolons : ∀ count, '\t' ∉ semicolons count := by
    intro count inside
    obtain ⟨piece, known, found⟩ := List.mem_flatten.1 inside
    rw [List.eq_of_mem_replicate known] at found
    exact absurd found (by decide)
  obtain ⟨inFirst, inOthers⟩ := List.forall_mem_cons.1 inPredication
  intro inside
  rw [Block.write, Block.writeLater, List.mem_append, List.mem_append, List.mem_flatMap] at inside
  rcases inside with inside | inside | ⟨predication, known, inside⟩
  · exact inFirst inside
  · exact inSemicolons _ inside
  · simp [inOthers predication known, inSemicolons] at inside

end FactQuery.Abbreviation
