import FactQuery.Proofs.Abbreviation.Block
import FactQuery.Proofs.Turtle.Statement
import FactQuery.Proofs.Turtle.Telling

/-!
# Blocks in a document

A document of blocks tells the same facts as the document in which each block is written out, one
statement for each predicate and object.  Between the blocks there may be any other statements, such
as directives.  Objects may be brackets with blocks of their own; these stay as they are, and their
nodes get the same numbers.
-/

set_option autoImplicit false

namespace FactQuery.Abbreviation

open FactQuery.Text FactQuery.Grammar FactQuery.Token

/-! ## Reading blocks -/

theorem predicate_misses {text : List Char} (closes : Closes text) :
    Misses Turtle.predicate text := by
  obtain ⟨mark, rest, rfl, starts, known⟩ := closes.cases
  have outside : (closers.all fun c => !isNameFront c && !foldsToIdentifier id c) = true := by
    decide
  have here := List.all_eq_true.1 outside mark known
  rw [Bool.and_eq_true, Bool.not_eq_true', Bool.not_eq_true'] at here
  have noName : Misses iri ([' '] ++ mark :: rest) :=
    iri_misses IsGap.space starts (Stops.cons_iff.2 here.1)
  have noWord : Misses (keyword "a") ([' '] ++ mark :: rest) :=
    foldedWord_misses_of_stops (by decide) IsGap.space starts (Stops.cons_iff.2 here.2)
  refine Misses.firstOf ?_
  simp only [List.forall_mem_cons]
  exact ⟨noName, noWord.bind, by simp⟩

/-- A phrase that is read as an object wherever brackets may go as deep as it is long. -/
def IsObject (phrase : Phrase Turtle.Object) : Prop :=
  ∀ levels, phrase.text.length ≤ levels →
    phrase.IsReadBy (Turtle.object (Parser.nestedWithin Turtle.propertyRule levels))

abbrev PropertyBlock : Type :=
  Block Iri Turtle.Object

structure IsPropertyBlock (block : PropertyBlock) : Prop where
  verbs : ∀ predication ∈ block.predications, predication.verb.IsReadBy Turtle.predicate
  objects : ∀ predication ∈ block.predications, ∀ phrase ∈ predication.objects, IsObject phrase

theorem sublist_write {block : PropertyBlock} {predication : Predication Iri Turtle.Object}
    (known : predication ∈ block.predications) {phrase : Phrase Turtle.Object}
    (found : phrase ∈ predication.objects) : phrase.text.Sublist block.write := by
  have inObject : phrase.text.Sublist phrase.write := List.sublist_cons_self ' ' phrase.text
  have inPredication : phrase.write.Sublist predication.write := by
    refine List.Sublist.trans ?_ (List.sublist_append_right _ _)
    rcases List.mem_cons.1 found with rfl | other
    · exact List.sublist_append_left _ _
    · refine List.Sublist.trans ?_ (List.sublist_append_right _ _)
      refine (List.sublist_append_right [' ', ','] phrase.write).trans ?_
      exact List.sublist_flatten_of_mem (List.mem_map_of_mem other)
  refine inObject.trans (inPredication.trans ?_)
  rcases List.mem_cons.1 known with rfl | other
  · exact List.sublist_append_left _ _
  · refine List.Sublist.trans ?_ (List.sublist_append_right _ _)
    refine List.Sublist.trans ?_ (List.sublist_append_right _ _)
    refine List.Sublist.trans ?_ (List.sublist_flatten_of_mem (List.mem_map_of_mem other))
    exact (List.sublist_append_left _ _).trans (List.sublist_append_right [' ', ';'] _)

theorem IsPropertyBlock.isReadBy {block : PropertyBlock} (good : IsPropertyBlock block)
    {levels : Nat} (enough : block.write.length ≤ levels) :
    block.IsReadBy Turtle.predicate
      (Turtle.object (Parser.nestedWithin Turtle.propertyRule levels)) := by
  intro predication known
  refine ⟨good.verbs predication known, fun phrase found => ?_⟩
  have short := (sublist_write known found).length_le
  exact good.objects predication known phrase found levels (Nat.le_trans short enough)

theorem IsPropertyBlock.singles {block : PropertyBlock} (good : IsPropertyBlock block) :
    ∀ one ∈ block.singles, IsPropertyBlock one := by
  intro one inside
  obtain ⟨predication, known, phrase, found, rfl⟩ := Block.mem_singles inside
  have isVerb := good.verbs predication known
  have isObject := good.objects predication known phrase found
  constructor
  · intro other among
    rw [List.mem_singleton.1 among]
    exact isVerb
  · intro other among another inObjects
    rw [List.mem_singleton.1 among] at inObjects
    rw [List.mem_singleton.1 inObjects]
    exact isObject

theorem propertyRule_eq (inner : Parser (List Turtle.Property)) :
    Turtle.propertyRule inner = (do
      let first ← group Turtle.predicate (Turtle.object inner)
      let others ← Parser.many (laterGroup Turtle.predicate (Turtle.object inner))
      return first ++ others.flatMap fun group => group.getD []) := rfl

theorem propertyRule_reads {block : PropertyBlock} (good : IsPropertyBlock block) {levels : Nat}
    (enough : block.write.length ≤ levels) {rest : List Char} (closes : Closes rest)
    (noSemicolon : Misses (symbol ";") rest) :
    Reads (Turtle.propertyRule (Parser.nestedWithin Turtle.propertyRule levels)) block.write
      block.pairs rest := by
  rw [propertyRule_eq]
  exact (good.isReadBy enough).reads_whole (fun _ => predicate_misses) closes noSemicolon

theorem properties_reads {block : PropertyBlock} (good : IsPropertyBlock block) {rest : List Char}
    (closes : Closes rest) (noSemicolon : Misses (symbol ";") rest) :
    Reads Turtle.properties block.write block.pairs rest :=
  Reads.nested_of_length fun _ enough =>
    propertyRule_reads good enough closes noSemicolon

/-! ## Brackets -/

/-- A block in brackets is an object, and so is a block of such objects in brackets. -/
def bracket (block : PropertyBlock) : Phrase Turtle.Object :=
  ⟨'[' :: (block.write ++ [' ', ']']), .anonymous block.pairs⟩

def emptyBracket : Phrase Turtle.Object :=
  ⟨['[', ' ', ']'], .anonymous []⟩

theorem bracketed_reads {inner : Parser (List Turtle.Property)} {block : PropertyBlock}
    {rest : List Char} (inside : Reads inner block.write block.pairs ([' ', ']'] ++ rest)) :
    Reads (Turtle.bracketed inner) (bracket block).write block.pairs rest := by
  have opens : Reads (symbol "[") [' ', '['] () (block.write ++ [' ', ']'] ++ rest) :=
    symbol_reads IsGap.space rfl
  have closes : Reads (symbol "]") [' ', ']'] () rest := symbol_reads IsGap.space rfl
  exact opens.bind (inside.optional_some.bind closes.bind_pure)

theorem bracketed_reads_nothing {inner : Parser (List Turtle.Property)} {rest : List Char}
    (nothing : Misses inner ([' ', ']'] ++ rest)) :
    Reads (Turtle.bracketed inner) emptyBracket.write [] rest := by
  have opens : Reads (symbol "[") [' ', '['] () ([' ', ']'] ++ rest) :=
    symbol_reads IsGap.space rfl
  have closes : Reads (symbol "]") [' ', ']'] () rest := symbol_reads IsGap.space rfl
  exact opens.bind (nothing.optional_none.bind_nil closes.bind_pure)

/-- No name and no label begins with a bracket. -/
theorem firstOf_reads_bracket {α : Type} {others : List (Parser α)}
    {inner : Parser (List Turtle.Property)} {ofName : Iri → α} {ofLabel : String → α}
    {ofOwn : List Turtle.Property → α} {text rest : List Char} {own : List Turtle.Property}
    (reads : Reads inner ([' ', '['] ++ text) own rest) :
    Reads (Parser.firstOf ((ofName <$> iri) :: (ofLabel <$> Turtle.blankLabel) ::
      (ofOwn <$> inner) :: others)) ([' ', '['] ++ text) (ofOwn own) rest := by
  have starts : Stops isLayoutStart ('[' :: (text ++ rest)) := rfl
  have noName : Misses iri ([' '] ++ '[' :: (text ++ rest)) := iri_misses IsGap.space starts rfl
  have noLabel : Misses Turtle.blankLabel ([' '] ++ '[' :: (text ++ rest)) :=
    (lexeme_misses IsGap.space starts rfl).bind
  have ahead : [' ', '['] ++ text ++ rest = [' '] ++ '[' :: (text ++ rest) := rfl
  rw [← ahead] at noName noLabel
  have read : Reads (ofOwn <$> inner) ([' ', '['] ++ text) (ofOwn own) rest := reads.bind_pure
  exact (read.firstOf_here.firstOf_later noLabel.map).firstOf_later noName.map

theorem semicolon_misses_bracket (rest : List Char) :
    Misses (symbol ";") ([' ', ']'] ++ rest) := by
  have starts : Stops isLayoutStart (']' :: rest) := rfl
  exact @symbol_misses ";" [' '] (']' :: rest) IsGap.space starts rfl

theorem isObject_bracket {block : PropertyBlock} (good : IsPropertyBlock block) :
    IsObject (bracket block) := by
  intro levels enough
  have noTab : '\t' ∉ block.write := (good.isReadBy (Nat.le_refl _)).tab_not_mem_write
  refine ⟨by simp [bracket, noTab], fun rest ends => ?_, fun rest => EndsTerm.space rfl rfl⟩
  obtain ⟨inner, rfl⟩ : ∃ inner, levels = inner + 1 :=
    Nat.exists_eq_succ_of_ne_zero (by simp [bracket] at enough; omega)
  have short : block.write.length ≤ inner := by
    simp only [bracket, List.length_cons, List.length_append, List.length_nil] at enough
    omega
  have inside : Reads (Parser.nestedWithin Turtle.propertyRule (inner + 1)) block.write block.pairs
      ([' ', ']'] ++ ' ' :: rest) :=
    propertyRule_reads good short (.intro (by decide) _) (semicolon_misses_bracket _)
  exact firstOf_reads_bracket (bracketed_reads inside)

theorem properties_miss_bracket (rest : List Char) :
    ∀ inner, Misses (Turtle.propertyRule inner) ([' ', ']'] ++ rest) := by
  intro inner
  have noVerb : Misses Turtle.predicate ([' ', ']'] ++ rest) :=
    predicate_misses (.intro (by decide) rest)
  exact noVerb.bind.bind

theorem isObject_emptyBracket : IsObject emptyBracket := by
  intro levels _
  refine ⟨by decide, fun rest ends => ?_, fun rest => EndsTerm.space rfl rfl⟩
  have nothing := Misses.nestedWithin (properties_miss_bracket (' ' :: rest)) levels
  exact firstOf_reads_bracket (bracketed_reads_nothing nothing)

/-! ## Documents -/

/-- A phrase that is read as a subject without brackets and begins no directive. -/
structure IsSubject (phrase : Phrase Turtle.Subject) : Prop where
  readBy : phrase.IsReadBy Turtle.subject
  notBracket : ∀ own, phrase.value ≠ .anonymous own
  noDirective : ∀ rest, Misses Turtle.declaration (phrase.write ++ ' ' :: rest) ∧
    Misses Turtle.baseDirective (phrase.write ++ ' ' :: rest)

inductive Item where
  | about (subject : Phrase Turtle.Subject) (said : PropertyBlock)
  | other (phrase : Phrase Turtle.Statement)

namespace Item

def write : Item → List Char
  | .about subject said => subject.write ++ (said.write ++ [' ', '.'])
  | .other phrase => phrase.write

def asStatement : Item → Turtle.Statement
  | .about subject said => .triples subject.value said.pairs
  | .other phrase => phrase.value

def IsGood : Item → Prop
  | .about subject said => IsSubject subject ∧ IsPropertyBlock said
  | .other phrase =>
    '\t' ∉ phrase.text ∧ ∀ rest, Reads Turtle.statement phrase.write phrase.value rest

/-- The item written out, one statement for each predicate and object. -/
def singles : Item → List Item
  | .about subject said => said.singles.map (.about subject)
  | .other phrase => [.other phrase]

theorem write_ne_nil (item : Item) : item.write ≠ [] := by
  cases item <;> simp [write, Phrase.write]

theorem reads {item : Item} (good : item.IsGood) (rest : List Char) :
    Reads Turtle.statement item.write item.asStatement rest := by
  cases item with
  | other phrase => exact good.2 rest
  | about subject said =>
      obtain ⟨isSubject, isBlock⟩ := good
      have starts : Stops isLayoutStart ('.' :: rest) := rfl
      have stated : Reads Turtle.properties said.write said.pairs (Turtle.ending rest) :=
        properties_reads isBlock (.intro (by decide) rest) (symbol_misses IsGap.space starts rfl)
      have isVerb := isBlock.verbs said.first List.mem_cons_self
      obtain ⟨behind, written⟩ : ∃ behind, said.write = said.first.verb.write ++ behind :=
        ⟨_, by rw [Block.write, Predication.write, List.append_assoc]⟩
      have about : Reads Turtle.subject subject.write subject.value
          (said.write ++ Turtle.ending rest) := by
        have apart := isVerb.apart (behind ++ Turtle.ending rest)
        rw [written, List.append_assoc]
        exact isSubject.readBy.reads _ apart
      have whole := Turtle.triples_reads_stated about stated
      have noDirective : Misses Turtle.declaration
            (subject.write ++ (said.write ++ [' ', '.']) ++ rest) ∧
          Misses Turtle.baseDirective
            (subject.write ++ (said.write ++ [' ', '.']) ++ rest) := by
        rw [List.append_assoc, written]
        exact isSubject.noDirective _
      exact (whole.firstOf_here.firstOf_later noDirective.2).firstOf_later noDirective.1

theorem tab_not_mem_write {item : Item} (good : item.IsGood) : '\t' ∉ item.write := by
  cases item with
  | other phrase => simp [write, Phrase.write, good.1]
  | about subject said =>
      have inSubject := good.1.readBy.tab_not_mem_write
      have inBlock := (good.2.isReadBy (Nat.le_refl _)).tab_not_mem_write
      simp [write, inSubject, inBlock]

theorem isGood_singles {item : Item} (good : item.IsGood) :
    ∀ one ∈ item.singles, one.IsGood := by
  cases item with
  | other phrase =>
      rw [singles, List.forall_mem_singleton]
      exact good
  | about subject said =>
      intro one inside
      obtain ⟨single, found, rfl⟩ := List.mem_map.1 inside
      exact ⟨good.1, good.2.singles single found⟩

end Item

def document (items : List Item) : String :=
  String.ofList (items.flatMap Item.write)

def writtenOut (items : List Item) : List Item :=
  items.flatMap Item.singles

theorem isGood_writtenOut {items : List Item} (good : ∀ item ∈ items, item.IsGood) :
    ∀ item ∈ writtenOut items, item.IsGood := by
  intro one inside
  obtain ⟨item, known, found⟩ := List.mem_flatMap.1 inside
  exact Item.isGood_singles (good item known) one found

theorem statements_readsEach {items : List Item} (good : ∀ item ∈ items, item.IsGood) :
    ReadsEach Turtle.statement (items.flatMap Item.write) (items.map Item.asStatement) [] := by
  induction items with
  | nil => exact ReadsEach.stop (Turtle.statement_misses_end IsGap.nil)
  | cons item others inductionHypothesis =>
      rw [List.forall_mem_cons] at good
      rw [List.flatMap_cons, List.map_cons]
      exact ReadsEach.more item.write_ne_nil (Item.reads good.1 _) (inductionHypothesis good.2)

theorem parseStatements_document {items : List Item} (good : ∀ item ∈ items, item.IsGood) :
    Turtle.parseStatements (document items) = .ok (items.map Item.asStatement) := by
  have noTab : '\t' ∉ items.flatMap Item.write := by
    intro inside
    obtain ⟨item, known, written⟩ := List.mem_flatMap.1 inside
    exact Item.tab_not_mem_write (good item known) written
  have expanded : expandTabs (items.flatMap Item.write) = items.flatMap Item.write :=
    expandTabsFrom_eq_self noTab 0
  obtain ⟨last, run⟩ := (statements_readsEach good).many none
  rw [List.append_nil] at run
  have whole : Turtle.statements ⟨none, items.flatMap Item.write⟩ =
      .matched (items.map Item.asStatement) ⟨last, []⟩ := run
  rw [Turtle.parseStatements, document, String.toList_ofList, expanded]
  simp only [Cursor.start, whole, skipLayout_rest IsGap.nil]
  rfl

theorem Item.asStatement_singles (subject : Phrase Turtle.Subject) (said : PropertyBlock) :
    (Item.about subject said).singles.map Item.asStatement =
      said.pairs.map fun pair => .triples subject.value [pair] := by
  rw [Item.singles, List.map_map]
  have pairs := congrArg (List.map (Turtle.Statement.triples subject.value)) said.map_pairs_singles
  rw [List.map_map, List.map_map] at pairs
  exact pairs

theorem tellStatements_writtenOut {items : List Item} (good : ∀ item ∈ items, item.IsGood) :
    ∀ scope next, Turtle.tellStatements scope next ((writtenOut items).map Item.asStatement) =
      Turtle.tellStatements scope next (items.map Item.asStatement) := by
  induction items with
  | nil => exact fun scope next => rfl
  | cons item others inductionHypothesis =>
      rw [List.forall_mem_cons] at good
      have later := inductionHypothesis good.2
      intro scope next
      rw [writtenOut, List.flatMap_cons, List.map_append, List.map_cons]
      cases item with
      | about subject said =>
          have nonempty : said.pairs ≠ [] := by
            simp [Block.pairs, Block.predications, Predication.pairs, Predication.objects]
          rw [Item.asStatement_singles,
            Turtle.tellStatements_singles scope good.1.1.notBracket nonempty]
          exact Turtle.tellStatements_congr later _ scope next
      | other phrase => exact Turtle.tellStatements_congr later _ scope next

/-- A document and the same document written out are both read without a fault of syntax, and they
tell the same, facts, numbers and a fault of a name alike. -/
theorem tell_writtenOut {items : List Item} (good : ∀ item ∈ items, item.IsGood) (next : Nat) :
    Turtle.parseStatements (document items) = .ok (items.map Item.asStatement) ∧
      Turtle.parseStatements (document (writtenOut items)) =
        .ok ((writtenOut items).map Item.asStatement) ∧
      Turtle.tell next (document (writtenOut items)) = Turtle.tell next (document items) := by
  have abbreviated := parseStatements_document good
  have written := parseStatements_document (isGood_writtenOut good)
  refine ⟨abbreviated, written, ?_⟩
  rw [Turtle.tell, Turtle.tell, abbreviated, written]
  exact tellStatements_writtenOut good .initial next

end FactQuery.Abbreviation
