import FactQuery.Proofs.Abbreviation.Phrase

/-!
# Abbreviations mean what they stand for

In both languages a block reads like the statements it stands for.  The texts of its subject, its
predicates and its objects may be any that the grammar takes for them, so brackets among the objects
can be nested to any depth.  A tab is in none of them: tabs become blanks up to the next stop before
anything is read, also in strings, and how many that are depends on the place in the line.
-/

set_option autoImplicit false

namespace FactQuery.Abbreviation

open FactQuery.Sparql FactQuery.TripleText

/-- A document of blocks and the document in which each is written out tell the same facts in the
same order, with the same numbers of anonymous nodes.  A group of blocks and the group in which each
is written out are the same single run of patterns. -/
theorem blocks_agree (next : Nat) {items : List Item} (goodItems : ∀ item ∈ items, item.IsGood)
    {declared : List (String × String)} (areDeclarations : ∀ pair ∈ declared, IsDeclaration pair)
    (stopped again : Bool) {blocks : List PatternBlock} (nonempty : blocks ≠ [])
    (goodBlocks : ∀ block ∈ blocks, block.IsGood) :
    (Turtle.parseStatements (document items) = .ok (items.map Item.asStatement) ∧
      Turtle.parseStatements (document (writtenOut items)) =
        .ok ((writtenOut items).map Item.asStatement) ∧
      Turtle.tell next (document (writtenOut items)) = Turtle.tell next (document items)) ∧
    Query.parse (queryText declared stopped blocks) = .ok (runQuery declared (runOf blocks)) ∧
      Query.parse (queryText declared again (writtenOutBlocks blocks)) =
        .ok (runQuery declared (runOf blocks)) :=
  ⟨tell_writtenOut goodItems next,
    parse_writtenOut stopped again areDeclarations nonempty goodBlocks⟩

/-- Two objects, one of them a bracket with a block of its own and two semicolons more than needed,
and a group of two predicates about a variable. -/
theorem blocks_agree_nested :
    let name : VerbText := .resource (.full "p")
    let inner : PropertyBlock :=
      ⟨⟨verbPhrase name, emptyBracket, [objectPhrase (.truth true)], 1⟩, []⟩
    let said : PropertyBlock := ⟨⟨verbPhrase .a, bracket inner, [emptyBracket], 2⟩,
      [⟨verbPhrase name, objectPhrase (.resource (.full "o")), [], 1⟩]⟩
    let items := [Item.about (namedSubject (.full "s")) said]
    let blocks : List PatternBlock := [⟨termPhrase (.variable "x"),
      ⟨⟨verbTerm .a, termPhrase (.variable "y"), [objectTerm (.truth false)], 1⟩,
        [⟨verbTerm name, termPhrase (.blank "b"), [], 0⟩]⟩⟩]
    document items =
        " <s> a [ <p> [ ] , true ; ] , [ ] ; ; ; <p> <o> ; ." ∧
      document (writtenOut items) =
        " <s> a [ <p> [ ] , true ; ] . <s> a [ ] . <s> <p> <o> ." ∧
      Turtle.tell 0 (document (writtenOut items)) = Turtle.tell 0 (document items) ∧
      queryText [] false blocks =
        "SELECT * WHERE \x7b ?x a ?y , false ; ; <p> _:b \x7d" ∧
      queryText [] true (writtenOutBlocks blocks) =
        "SELECT * WHERE \x7b ?x a ?y . ?x a false . ?x <p> _:b . \x7d" ∧
      Query.parse (queryText [] false blocks) = .ok (runQuery [] (runOf blocks)) ∧
      Query.parse (queryText [] true (writtenOutBlocks blocks)) =
        .ok (runQuery [] (runOf blocks)) := by
  intro name inner said items blocks
  have isName : ∀ value : String, Token.IsIriText value → IsKnown .empty (.full value) :=
    fun value isText => ⟨isText, rfl⟩
  have p := isName "p" (by decide)
  have o := isName "o" (by decide)
  have isTruth : ∀ value, IsObject (objectPhrase (.truth value)) :=
    fun value => @isObject_objectPhrase .empty (.truth value) trivial
  have isType : (verbPhrase .a).IsReadBy Turtle.predicate := @isReadBy_verbPhrase .empty .a trivial
  have isInner : IsPropertyBlock inner :=
    ⟨List.forall_mem_singleton.2 (isReadBy_verbPhrase p), List.forall_mem_singleton.2
      (List.forall_mem_cons.2 ⟨isObject_emptyBracket, List.forall_mem_singleton.2 (isTruth true)⟩)⟩
  have isSaid : IsPropertyBlock said := by
    constructor
    · exact List.forall_mem_cons.2
        ⟨isType, List.forall_mem_singleton.2 (isReadBy_verbPhrase p)⟩
    · refine List.forall_mem_cons.2 ⟨List.forall_mem_cons.2 ⟨isObject_bracket isInner, ?_⟩, ?_⟩
      · exact List.forall_mem_singleton.2 isObject_emptyBracket
      · exact List.forall_mem_singleton.2
          (List.forall_mem_singleton.2 (isObject_objectPhrase o))
  have goodItems : ∀ item ∈ items, item.IsGood := by
    refine List.forall_mem_singleton.2 ⟨isSubject_namedSubject (isName "s" (by decide)).1 ?_, isSaid⟩
    rintro ⟨label, ⟨⟩, _⟩
  have isSubject : IsPatternSubject (termPhrase (.variable "x")) :=
    isPatternSubject_termPhrase ⟨by decide, List.all_eq_true.1 (by decide)⟩ rfl
  have isVariable : (termPhrase (.variable "y")).IsReadBy graphTerm :=
    isReadBy_termPhrase ⟨by decide, List.all_eq_true.1 (by decide)⟩ rfl
  have isBlank : (termPhrase (.blank "b")).IsReadBy graphTerm :=
    isReadBy_termPhrase ⟨by decide, List.all_eq_true.1 (by decide)⟩ rfl
  have first : Predication.IsReadBy Sparql.verb graphTerm
      ⟨verbTerm .a, termPhrase (.variable "y"), [objectTerm (.truth false)], 1⟩ :=
    ⟨@isReadBy_verbTerm .empty .a trivial, List.forall_mem_cons.2 ⟨isVariable,
      List.forall_mem_singleton.2 (@isReadBy_objectTerm .empty (.truth false) trivial)⟩⟩
  have second : Predication.IsReadBy Sparql.verb graphTerm
      ⟨verbTerm name, termPhrase (.blank "b"), [], 0⟩ :=
    ⟨isReadBy_verbTerm p, List.forall_mem_singleton.2 isBlank⟩
  have goodBlocks : ∀ block ∈ blocks, block.IsGood :=
    List.forall_mem_singleton.2
      ⟨isSubject, List.forall_mem_cons.2 ⟨first, List.forall_mem_singleton.2 second⟩⟩
  obtain ⟨⟨_, _, told⟩, short, long⟩ :=
    @blocks_agree 0 items goodItems [] (by simp) false true blocks (by simp [blocks]) goodBlocks
  exact ⟨by decide +kernel, by decide +kernel, told, by decide +kernel, by decide +kernel, short,
    long⟩

/-- A tab in a string becomes as many blanks as lead to the next stop, and a string that is written
out stands in another place. -/
theorem blocks_disagree_on_tabs :
    let abbreviated := "<s> <p> \"a\tb\" , \"c\td\" ."
    let writtenOut := "<s> <p> \"a\tb\" .\n<s> <p> \"c\td\" ."
    (Turtle.tell 0 abbreviated).facts =
        [⟨"s", "p", "a      b", none, none⟩, ⟨"s", "p", "c d", none, none⟩] ∧
      (Turtle.tell 0 writtenOut).facts =
        [⟨"s", "p", "a      b", none, none⟩, ⟨"s", "p", "c      d", none, none⟩] ∧
      Turtle.tell 0 writtenOut ≠ Turtle.tell 0 abbreviated := by
  decide +kernel

end FactQuery.Abbreviation
