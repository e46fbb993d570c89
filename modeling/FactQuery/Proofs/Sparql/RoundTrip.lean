import FactQuery.Proofs.Sparql.QueryText

/-!
# Written queries are read back

A query that has been read from a text is written as a text from which it is read again, if its
group holds triple patterns and comparisons of two terms only and its literals need no escape.  An
offset of nothing is not written.
-/

set_option autoImplicit false

namespace FactQuery.Sparql

open FactQuery.Text FactQuery.Grammar FactQuery.Token

/-! ## Simple entries -/

def Node.isPlainTerm : Node → Bool
  | .term value => value.isPlain
  | _ => false

/-- A run of triple patterns, or a filter that is a single comparison of two terms, with nothing to
escape in a literal and no datatype without a name. -/
def Node.isSimple : Node → Bool
  | .triples patterns => patterns.all fun pattern => pattern.positions.all Node.isPlainTerm
  | .filter (.binary operator left right) =>
    (Comparison.ofOperator? operator).isSome && left.isPlainTerm && right.isPlainTerm
  | _ => false

theorem exists_of_isPlainTerm {node : Node} (plain : node.isPlainTerm = true) :
    ∃ value, node = .term value ∧ value.isPlain = true := by
  cases node with
  | term value => exact ⟨value, rfl, plain⟩
  | _ => contradiction

theorem exists_terms {patterns : List TriplePattern}
    (arePatterns : ∀ pattern ∈ patterns, ∃ terms, IsPattern terms ∧ pattern = terms.map Node.term)
    (simple : (Node.triples patterns).isSimple = true) :
    ∃ runs : List (Triple Term), patterns = runs.map (fun terms => terms.map Node.term) ∧
      ∀ terms ∈ runs, IsPlainPattern terms := by
  induction patterns with
  | nil => exact ⟨[], rfl, by simp⟩
  | cons pattern patterns inductionHypothesis =>
      rw [List.forall_mem_cons] at arePatterns
      rw [Node.isSimple, List.all_cons, Bool.and_eq_true] at simple
      obtain ⟨⟨terms, isPattern, rfl⟩, areOthers⟩ := arePatterns
      obtain ⟨runs, rfl, arePlain⟩ := inductionHypothesis areOthers simple.2
      have here := simple.1
      simp only [Triple.positions, Triple.map, List.all_cons, Node.isPlainTerm, List.all_nil,
        Bool.and_true, Bool.and_eq_true] at here
      refine ⟨terms :: runs, rfl, ?_⟩
      rw [List.forall_mem_cons]
      exact ⟨⟨isPattern, here.1, here.2.1, here.2.2⟩, arePlain⟩

theorem isPlainEntry_of_isSimple {entry : Node} (isEntry : entry.IsEntry)
    (simple : entry.isSimple = true) : IsPlainEntry entry := by
  unfold Node.isSimple at simple
  split at simple
  · obtain ⟨nonempty, arePatterns⟩ := isEntry
    obtain ⟨runs, rfl, arePlain⟩ := exists_terms arePatterns simple
    exact .triples (by simpa using nonempty) arePlain
  · rename_i operator left right
    simp only [Bool.and_eq_true] at simple
    obtain ⟨⟨compares, leftPlain⟩, rightPlain⟩ := simple
    obtain ⟨leftTerm, rfl, isLeftPlain⟩ := exists_of_isPlainTerm leftPlain
    obtain ⟨rightTerm, rfl, isRightPlain⟩ := exists_of_isPlainTerm rightPlain
    exact .filter ⟨compares, isEntry.1, isLeftPlain, isEntry.2, isRightPlain⟩
  · contradiction

/-! ## Writing -/

theorem areWritable_of_plain {entries : List Node} (plain : ∀ entry ∈ entries, IsPlainEntry entry) :
    Node.areWritable entries = true := by
  have triples : ∀ runs : List (Triple Term),
      Node.areWritableTriples (runs.map fun terms => terms.map Node.term) = true := by
    intro runs
    induction runs with
    | nil => rfl
    | cons terms runs inductionHypothesis =>
        rw [List.map_cons, Node.areWritableTriples, inductionHypothesis]
        rfl
  induction entries with
  | nil => rfl
  | cons entry entries inductionHypothesis =>
      rw [List.forall_mem_cons] at plain
      have later := inductionHypothesis plain.2
      obtain ⟨isPlain, _⟩ := plain
      rw [Node.areWritable, later, Bool.and_true]
      cases isPlain with
      | triples nonempty arePlain => exact triples _
      | filter good => rfl

/-! ## Reading back -/

theorem Select.IsPlain.withoutZero {select : Select} (plain : select.IsPlain) :
    select.withoutZero.IsPlain := by
  obtain ⟨⟨areNames, isGroup, areKeys, isLimit, isOffset⟩, areEntries⟩ := plain
  refine ⟨⟨areNames, isGroup, areKeys, isLimit, ?_⟩, areEntries⟩
  intro value kept
  obtain ⟨given, _⟩ := Option.filter_eq_some_iff.1 kept
  exact isOffset value given

/-- The text of a query is read as the query, with its labels not looked at. -/
theorem parse_text {prefixes : PrefixTable} {select : Select}
    (areDeclarations : ∀ pair ∈ prefixes.pairs, IsDeclaration pair) (plain : select.IsPlain) :
    Query.parse (select.text prefixes) = .ok ⟨prefixes, .select select.withoutZero⟩ := by
  have kept := plain.withoutZero
  have read := query_readsFrom kept areDeclarations
  rw [OrderedMap.ofList_pairs] at read
  have written : select.text prefixes =
      String.ofList (queryText prefixes.pairs select.withoutZero) := by
    rw [← toList_text prefixes plain.entries, String.ofList_toList]
  rw [written]
  exact Query.parse_of_readsFrom (tab_not_mem_queryText areDeclarations kept) read

/-- Every query that is read from a text, with simple entries in its group, can be written, and its
text is read as the same query: the declarations in their order, the variables, the entries of the
group as they were grouped, the order, the limit, and the offset unless it is nothing. -/
theorem Query.ofText_text {text : String} {prefixes : PrefixTable} {select : Select}
    (read : Query.ofText text = .ok ⟨prefixes, .select select⟩)
    (simple : ∀ entry ∈ select.group, entry.isSimple = true) :
    select.isWritable = true ∧ Query.ofText (select.text prefixes) =
      .ok ⟨prefixes, .select { select with offset := select.offset.filter (· != 0) }⟩ := by
  obtain ⟨areDeclarations, wellFormed⟩ := Query.isWellFormed_of_ofText read
  have plain : select.IsPlain :=
    ⟨wellFormed, fun entry inside =>
      isPlainEntry_of_isSimple (wellFormed.group.1 entry inside) (simple entry inside)⟩
  have parsed := parse_text areDeclarations plain
  have declared : (Query.mk prefixes (.select select.withoutZero)).undeclared? = none :=
    (Query.ofText_eq_ok_iff.1 read).2
  exact ⟨areWritable_of_plain plain.entries, Query.ofText_eq_ok_iff.2 ⟨parsed, declared⟩⟩

/-- A query with declarations, a comparison beside a full name, and every modifier. -/
def sample : String :=
  "PREFIX ex: <http://e.org/> SELECT DISTINCT ?s ?o WHERE \x7b ?s a ex:T ; ex:p ?o, 5 . " ++
    "FILTER(?o<<http://e.org/#b>) ?o ex:q \"x\"@en \x7d ORDER BY DESC(?o) ?s LIMIT 3 OFFSET 0"

/-- The query selects from simple entries. -/
def Query.isSimple (query : Query) : Bool :=
  match query.form with
  | .select select => select.group.all Node.isSimple
  | _ => false

theorem ofText_text_sample : ∃ prefixes select,
    Query.ofText sample = .ok ⟨prefixes, .select select⟩ ∧
      (∀ entry ∈ select.group, entry.isSimple = true) ∧ select.isWritable = true ∧
      Query.ofText (select.text prefixes) =
        .ok ⟨prefixes, .select { select with offset := select.offset.filter (· != 0) }⟩ := by
  have checked : (Query.ofText sample).toOption.any Query.isSimple = true := by
    decide +kernel
  cases read : Query.ofText sample with
  | error error =>
      rw [read] at checked
      contradiction
  | ok found =>
      obtain ⟨prefixes, form⟩ := found
      rw [read] at checked
      cases form with
      | select select =>
          have simple : ∀ entry ∈ select.group, entry.isSimple = true :=
            List.all_eq_true.1 checked
          exact ⟨prefixes, select, rfl, simple, Query.ofText_text read simple⟩
      | _ => contradiction

end FactQuery.Sparql
