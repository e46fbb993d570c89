import FactQuery.Proofs.Sparql.SelectRoundTrip
import FactQuery.Sparql.Reading

/-!
# The text of a query, line by line

A written query is the lines that the grammar reads, and none of its characters is a tab.
-/

set_option autoImplicit false

namespace FactQuery.Sparql

open FactQuery.Text FactQuery.Grammar FactQuery.Token

/-! ## Lines -/

theorem toList_intercalate_after (separator : String) {parts : List String}
    (nonempty : parts ≠ []) :
    separator.toList ++ (separator.intercalate parts).toList =
      parts.flatMap fun part => separator.toList ++ part.toList := by
  induction parts with
  | nil => exact absurd rfl nonempty
  | cons first others inductionHypothesis =>
      cases others with
      | nil => simp
      | cons second others =>
          have later := inductionHypothesis (List.cons_ne_nil second others)
          rw [String.intercalate_cons_cons, String.toList_append, String.toList_append,
            List.flatMap_cons, ← later]
          simp only [List.append_assoc]

theorem texts_eq_map (nodes : List TriplePattern) :
    Node.tripleTexts nodes = nodes.map Triple.text := by
  induction nodes with
  | nil => rfl
  | cons first others inductionHypothesis =>
      rw [Node.tripleTexts, inductionHypothesis]
      rfl

/-- The lines of an entry are those that are read as the entry. -/
theorem entryText_lines {entry : Node} (plain : IsPlainEntry entry) :
    "\n".toList ++ (Select.entryText entry).toList = entryLines entry := by
  cases plain with
  | triples nonempty isPlain =>
      rw [Select.entryText, Node.text, texts_eq_map,
        toList_intercalate_after "\n" (by simpa using nonempty)]
      simp [entryLines, List.flatMap_map, lineGap]
  | filter good =>
      rw [Select.entryText, String.toList_append]
      · rfl
      · rintro patterns ⟨⟩

theorem requested_lines (names : List String) :
    " ".toList ++ (if names.isEmpty then "*"
      else " ".intercalate (names.map ("?" ++ ·))).toList = requestedText names := by
  cases names with
  | nil => rfl
  | cons name names =>
      rw [List.isEmpty_cons, if_neg (by simp), toList_intercalate_after " " (by simp)]
      simp [requestedText, variableTexts, List.flatMap_map]

theorem text_condition (condition : OrderCondition) :
    condition.text.toList = conditionText condition := by
  cases condition with
  | mk name descending => cases descending <;> simp [OrderCondition.text, conditionText]

theorem order_lines (conditions : List OrderCondition) :
    ((if conditions.isEmpty then []
      else ["ORDER BY " ++ " ".intercalate (conditions.map OrderCondition.text)]).flatMap
        fun line => "\n".toList ++ line.toList) = orderText conditions := by
  cases conditions with
  | nil => rfl
  | cons condition conditions =>
      have keys := toList_intercalate_after " "
        (List.cons_ne_nil condition.text (conditions.map OrderCondition.text))
      have written : conditionTexts (condition :: conditions) = " ".toList ++
          (" ".intercalate (condition.text :: conditions.map OrderCondition.text)).toList := by
        rw [keys]
        simp [conditionTexts, List.flatMap_map, text_condition]
      rw [orderText, written]
      simp

theorem count_line {label word : String} (spelled : label.toList = word.toList ++ [' '])
    (count : Option Int) :
    (count.toList.flatMap fun value => "\n".toList ++ (label ++ toString value).toList) =
      countText word count := by
  cases count with
  | none => rfl
  | some value => simp [countText, spelled]

theorem declaration_line (pair : String × String) :
    ("PREFIX " ++ pair.1 ++ ": <" ++ pair.2 ++ ">").toList = declarationText pair := by
  unfold declarationText
  simp [angled]

/-- The query as its text gives it back: nothing is skipped where the offset is nothing. -/
def Select.withoutZero (select : Select) : Select :=
  { select with offset := select.offset.filter (· != 0) }

theorem lineEnd_queryText (declared : List (String × String)) (select : Select) :
    "\n".toList ++ queryText declared select =
      (declared.flatMap fun pair => ['\n'] ++ declarationText pair) ++
        (['\n'] ++ selectText select) := by
  cases declared with
  | nil => rfl
  | cons first others => simp [queryText]

theorem head_line (select : Select) :
    ("SELECT " ++ (if select.distinct then "DISTINCT " else "") ++
      (if select.selectsAll then "*"
        else " ".intercalate (select.variableNames.map ("?" ++ ·)))).toList =
      "SELECT".toList ++ (distinctText select.distinct ++ requestedText select.variableNames) := by
  have requested := requested_lines select.variableNames
  rw [← requested, Select.selectsAll]
  cases select.distinct <;> simp [distinctText]

theorem toList_text (prefixes : PrefixTable) {select : Select}
    (plain : ∀ entry ∈ select.group, IsPlainEntry entry) :
    (select.text prefixes).toList = queryText prefixes.pairs select.withoutZero := by
  have entries : (select.group.flatMap fun entry =>
      "\n".toList ++ (Select.entryText entry).toList) = select.group.flatMap entryLines := by
      rw [List.flatMap_def, List.flatMap_def,
        List.map_congr_left fun entry inside => entryText_lines (plain entry inside)]
  have limitSpelled : "LIMIT ".toList = "LIMIT".toList ++ [' '] := by decide
  have offsetSpelled : "OFFSET ".toList = "OFFSET".toList ++ [' '] := by decide
  have limit := count_line limitSpelled select.limit
  have offset := count_line offsetSpelled (select.offset.filter (· != 0))
  have joined : "\n".toList ++ (select.text prefixes).toList =
      "\n".toList ++ queryText prefixes.pairs select.withoutZero := by
    rw [lineEnd_queryText, Select.text, toList_intercalate_after "\n" (by simp)]
    simp only [List.flatMap_append, List.flatMap_map, entries, order_lines, declaration_line,
      List.flatMap_cons, List.flatMap_nil, head_line, limit, offset]
    unfold selectText
    simp [whereText, cutText, Select.withoutZero]
  exact List.append_cancel_left joined

/-! ## Tabs

Tabs are expanded before a text is read, and a written query has none. -/

theorem tab_not_mem_label {label : String} (isLabel : IsLabel label) : '\t' ∉ label.toList :=
  not_mem_run isLabel.2 (by decide)

theorem tab_not_mem_name {name : String} (isName : IsVariableName name) : '\t' ∉ name.toList :=
  not_mem_run isName.2 (by decide)

theorem tab_not_mem_term {term : Term} (wellFormed : term.IsWellFormed)
    (plain : term.isPlain = true) : '\t' ∉ term.text.toList := by
  cases term with
  | «variable» name =>
      rw [text_variable]
      simp [tab_not_mem_name wellFormed]
  | iri name =>
      cases name with
      | full value =>
          rw [text_iri_full]
          exact tab_not_mem_angled wellFormed
      | «prefixed» label localPart =>
          have localFree : '\t' ∉ localPart.toList := not_mem_run wellFormed.2.2.1 (by decide)
          rw [text_iri_prefixed]
          simp [colonJoined, tab_not_mem_label wellFormed.1, localFree]
  | colonless name => exact wellFormed.elim
  | literal value language datatype =>
      obtain ⟨written, isFull⟩ := text_literal wellFormed plain
      rw [written, List.mem_append, not_or]
      exact ⟨tab_not_mem_quote value.toList, tab_not_mem_writeSuffix isFull⟩
  | blank label =>
      have labelFree : '\t' ∉ label.toList := not_mem_run wellFormed.2 (by decide)
      rw [text_blank]
      simp [labelFree]

theorem tab_not_mem_entry {entry : Node} (plain : IsPlainEntry entry) :
    '\t' ∉ entryLines entry := by
  cases plain with
  | @triples patterns nonempty isPlain =>
      intro inside
      obtain ⟨_, known, written⟩ := List.mem_flatMap.1 inside
      obtain ⟨pattern, isPattern, rfl⟩ := List.mem_map.1 known
      obtain ⟨⟨isSubject, isVerb, isObject⟩, plainSubject, plainPredicate, plainObject⟩ :=
        isPlain pattern isPattern
      have subject := tab_not_mem_term isSubject plainSubject
      have predicate := tab_not_mem_term isVerb.1 plainPredicate
      have object := tab_not_mem_term isObject plainObject
      rw [text_pattern] at written
      simp [lineGap, subject, predicate, object] at written
  | @filter operator left right good =>
      have leftFree := tab_not_mem_term good.leftOperand.wellFormed good.leftPlain
      have rightFree := tab_not_mem_term good.rightOperand.wellFormed good.rightPlain
      have operatorFree : '\t' ∉ operator.toList := by
        rcases mem_of_ofOperator? good.compares with
          rfl | rfl | rfl | rfl | rfl | rfl | rfl | rfl <;> decide
      rw [entryLines_filter, text_filter, text_comparison]
      simp [lineGap, leftFree, rightFree, operatorFree]

theorem tab_not_mem_requested {names : List String}
    (areNames : ∀ name ∈ names, IsVariableName name) : '\t' ∉ requestedText names := by
  cases names with
  | nil => decide
  | cons name names =>
      intro inside
      obtain ⟨other, known, written⟩ := List.mem_flatMap.1 inside
      simp [tab_not_mem_name (areNames other known)] at written

theorem tab_not_mem_order {conditions : List OrderCondition}
    (areNames : ∀ condition ∈ conditions, IsVariableName condition.variableName) :
    '\t' ∉ orderText conditions := by
  cases conditions with
  | nil => decide
  | cons condition conditions =>
      have keysFree : '\t' ∉ conditionTexts (condition :: conditions) := by
        intro inside
        obtain ⟨other, known, written⟩ := List.mem_flatMap.1 inside
        have nameFree := tab_not_mem_name (areNames other known)
        cases direction : other.descending <;>
          simp [conditionText, direction, nameFree] at written
      simp [orderText, keysFree]

theorem tab_not_mem_count {word : String} (isWord : IsClauseWord word) {count : Option Int}
    (isCount : IsCount count) : '\t' ∉ countText word count := by
  cases count with
  | none => simp [countText]
  | some value =>
      obtain ⟨number, rfl⟩ := isCount value rfl
      have digitsFree : '\t' ∉ Nat.toDigits 10 number :=
        not_mem_run (fun c found => Nat.isDigit_of_mem_toDigits (by decide) (by decide) found)
          (by decide)
      have wordFree : '\t' ∉ word.toList := not_mem_run isWord.2 (by decide)
      rw [countText, text_natural]
      simp [wordFree, digitsFree]

theorem tab_not_mem_select {select : Select} (plain : select.IsPlain) :
    '\t' ∉ selectText select := by
  have distinctFree : '\t' ∉ distinctText select.distinct := by
    cases select.distinct <;> decide
  have entriesFree : '\t' ∉ select.group.flatMap entryLines := by
    intro inside
    obtain ⟨entry, known, written⟩ := List.mem_flatMap.1 inside
    exact tab_not_mem_entry (plain.entries entry known) written
  have wellFormed := plain.wellFormed
  have limitFree := tab_not_mem_count (by decide : IsClauseWord "LIMIT") wellFormed.limit
  have offsetFree := tab_not_mem_count (by decide : IsClauseWord "OFFSET") wellFormed.offset
  unfold selectText
  simp [whereText, cutText, distinctFree, entriesFree, limitFree, offsetFree,
    tab_not_mem_requested wellFormed.variableNames, tab_not_mem_order wellFormed.order]

theorem tab_not_mem_declaration {pair : String × String} (good : IsDeclaration pair) :
    '\t' ∉ declarationText pair := by
  unfold declarationText
  simp [tab_not_mem_label good.1, tab_not_mem_angled good.2]

theorem tab_not_mem_queryText {declared : List (String × String)} {select : Select}
    (areDeclarations : ∀ pair ∈ declared, IsDeclaration pair) (plain : select.IsPlain) :
    '\t' ∉ queryText declared select := by
  intro inside
  have behind : '\t' ∈ "\n".toList ++ queryText declared select := List.mem_append_right _ inside
  rw [lineEnd_queryText] at behind
  rcases List.mem_append.1 behind with inDeclarations | inForm
  · obtain ⟨pair, known, written⟩ := List.mem_flatMap.1 inDeclarations
    simp [tab_not_mem_declaration (areDeclarations pair known)] at written
  · simp [tab_not_mem_select plain] at inForm

theorem tab_not_mem_everythingText {declared : List (String × String)} {body : List Char}
    (areDeclarations : ∀ pair ∈ declared, IsDeclaration pair) (noTab : '\t' ∉ body) :
    '\t' ∉ everythingText declared body := by
  intro inside
  rcases List.mem_append.1 inside with inDeclarations | inForm
  · obtain ⟨pair, known, written⟩ := List.mem_flatMap.1 inDeclarations
    simp [tab_not_mem_declaration (areDeclarations pair known)] at written
  · simp [noTab] at inForm

theorem Query.parse_of_readsFrom {text : List Char} {found : Query} (noTab : '\t' ∉ text)
    (reads : ReadsFrom none query text found []) :
    Query.parse (String.ofList text) = .ok found := by
  obtain ⟨last, run⟩ := reads
  rw [List.append_nil] at run
  rw [Query.parse, String.toList_ofList, expandTabs, expandTabsFrom_eq_self noTab 0]
  simp only [Cursor.start, run]

end FactQuery.Sparql
