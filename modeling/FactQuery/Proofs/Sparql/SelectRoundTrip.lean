import FactQuery.Proofs.Sparql.GroupRoundTrip
import FactQuery.Proofs.Sparql.ModifierRoundTrip

/-!
# Written lines of a query are read back

The declarations of a query and its form, each part on lines of its own, are read as the query that
they write.
-/

set_option autoImplicit false

namespace FactQuery.Sparql

open FactQuery.Text FactQuery.Grammar FactQuery.Token

/-! ## The form -/

def distinctText (distinct : Bool) : List Char :=
  if distinct then [' '] ++ "DISTINCT".toList else []

def whereText (group : Group) : List Char :=
  ['\n'] ++ "WHERE".toList ++ ([' ', '\x7b'] ++ (group.flatMap entryLines ++ ['\n', '\x7d']))

def cutText (limit offset : Option Int) : List Char :=
  countText "LIMIT" limit ++ countText "OFFSET" offset

def selectText (select : Select) : List Char :=
  "SELECT".toList ++ (distinctText select.distinct ++ (requestedText select.variableNames ++
    (whereText select.group ++ (orderText select.order ++ cutText select.limit select.offset))))

/-- A form that a text can give, with entries that can be written as they are. -/
structure Select.IsPlain (select : Select) : Prop where
  wellFormed : select.IsWellFormed
  entries : ∀ entry ∈ select.group, IsPlainEntry entry

variable {select : Select}

theorem startsClause_whereText (group : Group) (rest : List Char) :
    StartsClause ["WHERE"] (whereText group ++ rest) := by
  have whole : whereText group ++ rest = ['\n'] ++ ("WHERE".toList ++
      ' ' :: ('\x7b' :: (group.flatMap entryLines ++ ['\n', '\x7d']) ++ rest)) := by
    simp [whereText]
  rw [whole]
  exact .word (by simp) (by decide) rfl

theorem startsClause_cutText (limit offset : Option Int) :
    StartsClause ["LIMIT", "OFFSET"] (cutText limit offset) := by
  have offsetClause : StartsClause ["OFFSET"] (countText "OFFSET" offset ++ []) :=
    startsClause_countText (by decide) [] .ended
  have limitClause : StartsClause ["LIMIT", "OFFSET"]
      (countText "LIMIT" limit ++ (countText "OFFSET" offset ++ [])) :=
    startsClause_countText (by decide) _ offsetClause
  rw [List.append_nil] at limitClause
  exact limitClause

theorem whereGroup_reads (plain : select.IsPlain) (rest : List Char) :
    Reads whereGroup (whereText select.group) select.group rest := by
  have word : Reads (caselessKeyword "WHERE") (['\n'] ++ "WHERE".toList) ()
      ([' ', '\x7b'] ++ (select.group.flatMap entryLines ++ ['\n', '\x7d']) ++ rest) :=
    fun before => foldedWord_readsFrom (by decide) IsGap.lineEnd rfl rfl
  exact word.optional_some.bind (group_reads plain.entries plain.wellFormed.group.2 rest)

theorem requestedText_front (names : List String) :
    ∃ mark behind, requestedText names = ' ' :: mark :: behind ∧ (mark = '*' ∨ mark = '?') := by
  cases names with
  | nil => exact ⟨'*', [], rfl, Or.inl rfl⟩
  | cons name names => exact ⟨'?', name.toList ++ variableTexts names, rfl, Or.inr rfl⟩

theorem distinct_reads (distinct : Bool) (names : List String) (rest : List Char) :
    ∃ found, Reads (Parser.optional (caselessKeyword "DISTINCT")) (distinctText distinct) found
      (requestedText names ++ rest) ∧ found.isSome = distinct := by
  obtain ⟨mark, behind, written, known⟩ := requestedText_front names
  rw [written]
  cases distinct with
  | true =>
      have word : Reads (caselessKeyword "DISTINCT") ([' '] ++ "DISTINCT".toList) ()
          (' ' :: mark :: behind ++ rest) :=
        fun before => foldedWord_readsFrom (by decide) IsGap.space rfl rfl
      exact ⟨some (), word.optional_some, rfl⟩
  | false =>
      have starts : Stops isLayoutStart (mark :: (behind ++ rest)) := by
        rcases known with rfl | rfl <;> rfl
      have noWord : Stops (foldsToIdentifier capital) (mark :: (behind ++ rest)) := by
        rcases known with rfl | rfl <;> rfl
      have missed : Misses (caselessKeyword "DISTINCT") ([' '] ++ mark :: (behind ++ rest)) :=
        foldedWord_misses_of_stops (by decide) IsGap.space starts noWord
      exact ⟨none, missed.optional_none, rfl⟩

theorem stops_distinctText (distinct : Bool) (names : List String) (rest : List Char) :
    Stops (foldsToIdentifier capital) (distinctText distinct ++ (requestedText names ++ rest)) := by
  obtain ⟨mark, behind, written, _⟩ := requestedText_front names
  rw [written]
  cases distinct <;> rfl

/-- A form is read from its parts, however its group is written. -/
theorem selectForm_readsFrom_parts {before : Option Char} {gap bodyText : List Char}
    (blank : IsGap gap) (boundary : isBoundary capital (gap.getLast?.or before) = true)
    (requested : Reads requestedVariables (requestedText select.variableNames) select.variableNames
      (bodyText ++ (orderText select.order ++ cutText select.limit select.offset)))
    (body : Reads whereGroup bodyText select.group
      (orderText select.order ++ cutText select.limit select.offset))
    (areKeys : ∀ condition ∈ select.order, IsVariableName condition.variableName)
    (isLimit : IsCount select.limit) (isOffset : IsCount select.offset) :
    ReadsFrom before selectForm (gap ++ ("SELECT".toList ++ (distinctText select.distinct ++
      (requestedText select.variableNames ++
        (bodyText ++ (orderText select.order ++ cutText select.limit select.offset))))))
      (.select select) [] := by
  obtain ⟨names, group, distinct, limit, offset, order⟩ := select
  obtain ⟨distinctFound, distinctReads, rfl⟩ := distinct_reads distinct names
    (bodyText ++ (orderText order ++ cutText limit offset))
  obtain ⟨orderFound, orderReads, rfl⟩ := order_reads areKeys (startsClause_cutText limit offset)
  obtain ⟨cutFound, cutReads, rfl, rfl⟩ := cut_reads isLimit isOffset
  have word := foldedWord_readsFrom (by decide : IsKeyword capital "SELECT") blank boundary
    (stops_distinctText distinctFound.isSome names
      (bodyText ++ (orderText (orderFound.getD []) ++
        cutText (cutFound.bind Prod.fst) (cutFound.bind Prod.snd))))
  rw [← List.append_assoc gap]
  exact word.bind_last (distinctReads.bind_last (requested.bind_last (body.bind_last
    (orderReads.bind_last cutReads.bind_pure))))

theorem selectForm_readsFrom {before : Option Char} {gap : List Char} (blank : IsGap gap)
    (boundary : isBoundary capital (gap.getLast?.or before) = true) (plain : select.IsPlain) :
    ReadsFrom before selectForm (gap ++ selectText select) (.select select) [] := by
  have wellFormed := plain.wellFormed
  have requested := requestedVariables_reads wellFormed.variableNames
    (startsClause_whereText select.group
      (orderText select.order ++ cutText select.limit select.offset))
  have body := whereGroup_reads plain (orderText select.order ++ cutText select.limit select.offset)
  exact selectForm_readsFrom_parts blank boundary requested body wellFormed.order wellFormed.limit
    wellFormed.offset

theorem selectForm_readsFrom_all {before : Option Char} {gap bodyText : List Char} {group : Group}
    (blank : IsGap gap) (boundary : isBoundary capital (gap.getLast?.or before) = true)
    (body : Reads whereGroup bodyText group []) :
    ReadsFrom before selectForm (gap ++ ("SELECT".toList ++ ([' ', '*'] ++ bodyText)))
      (.select { variableNames := [], group := group }) [] := by
  have nothing : IsCount none := by
    rintro value ⟨⟩
  have star : Reads (symbol "*") [' ', '*'] () bodyText := symbol_reads IsGap.space rfl
  have requested : Reads requestedVariables [' ', '*'] [] (bodyText ++ []) := by
    rw [List.append_nil]
    exact star.bind_pure.firstOf_here
  have read := @selectForm_readsFrom_parts { variableNames := [], group := group } before gap
    bodyText blank boundary requested body (by simp) nothing nothing
  have written : bodyText ++ (orderText [] ++ cutText none none) = bodyText :=
    List.append_nil bodyText
  rw [written] at read
  exact read

/-! ## The whole query -/

/-- Declarations on lines of their own and a form behind them are read as a query, if the form is
read behind any gap that lets a word begin. -/
theorem query_readsFrom_lines {declared : List (String × String)} {text : List Char} {form : Form}
    (areDeclarations : ∀ pair ∈ declared, IsDeclaration pair)
    (noDeclaration : ∀ {gap}, IsGap gap → Misses prefixDeclaration (gap ++ text))
    (formReads : ∀ {before gap}, IsGap gap → isBoundary capital (gap.getLast?.or before) = true →
      ReadsFrom before (Parser.firstOf [selectForm, askForm]) (gap ++ text) form []) :
    ReadsFrom none query
      ((declared.flatMap fun pair => declarationText pair ++ ['\n']) ++ text)
      ⟨.ofList declared, form⟩ [] := by
  have ended : Reads endOfText [] () [] := fun before => ⟨before, rfl⟩
  cases declared with
  | nil =>
      -- The form stands at the beginning of the text, so that no gap is a boundary for its keyword.
      have form := formReads IsGap.nil (rfl : isBoundary capital ([].getLast?.or none) = true)
      refine MissesFrom.many_bind ?_ (form.bind_end ended.bind_pure)
      rw [List.append_nil]
      exact noDeclaration IsGap.nil none
  | cons first others =>
      rw [List.forall_mem_cons] at areDeclarations
      have form : Reads (Parser.firstOf [selectForm, askForm]) (['\n'] ++ text) form [] :=
        fun before => formReads IsGap.lineEnd rfl
      have later := declarations_readsEach areDeclarations.2 (noDeclaration IsGap.lineEnd)
      have begins : ReadsFrom none prefixDeclaration (declarationText first) first
          ((others.flatMap fun pair => ['\n'] ++ declarationText pair) ++ (['\n'] ++ text)) :=
        prefixDeclaration_readsFrom IsGap.nil rfl areDeclarations.1 _
      have declarations := ReadsEach.many_after (declarationText_ne_nil first) begins later
      rw [flatMap_lines, List.append_assoc _ ['\n']]
      exact declarations.bind_last (form.bind_end ended.bind_pure)

def queryText (declared : List (String × String)) (select : Select) : List Char :=
  match declared with
  | [] => selectText select
  | first :: others =>
    declarationText first ++ (others.flatMap fun pair => ['\n'] ++ declarationText pair) ++
      (['\n'] ++ selectText select)

theorem queryText_lines (declared : List (String × String)) (select : Select) :
    queryText declared select =
      (declared.flatMap fun pair => declarationText pair ++ ['\n']) ++ selectText select := by
  cases declared with
  | nil => rfl
  | cons first others => rw [queryText, flatMap_lines, List.append_assoc _ ['\n']]

theorem prefixDeclaration_misses {gap : List Char} (blank : IsGap gap) {more : List Char}
    (stops : Stops (foldsToIdentifier capital) more) :
    Misses prefixDeclaration (gap ++ ("SELECT".toList ++ more)) := by
  have isWord : IsClauseWord "SELECT" := by decide
  exact (otherWord_misses blank (by decide) isWord (by decide) stops).bind

theorem query_readsFrom {declared : List (String × String)} (plain : select.IsPlain)
    (areDeclarations : ∀ pair ∈ declared, IsDeclaration pair) :
    ReadsFrom none query (queryText declared select) ⟨.ofList declared, .select select⟩ [] := by
  have stops := stops_distinctText select.distinct select.variableNames
    (whereText select.group ++ (orderText select.order ++ cutText select.limit select.offset))
  rw [queryText_lines]
  refine query_readsFrom_lines areDeclarations (fun blank => ?_) fun blank boundary => ?_
  · exact prefixDeclaration_misses blank stops
  · exact (selectForm_readsFrom blank boundary plain).firstOf_here

/-- The text of a query for everything in a group, on one line behind its declarations. -/
def everythingText (declared : List (String × String)) (body : List Char) : List Char :=
  (declared.flatMap fun pair => declarationText pair ++ ['\n']) ++
    ("SELECT".toList ++ ([' ', '*'] ++ ([' '] ++ "WHERE".toList ++
      ([' ', '\x7b'] ++ (body ++ [' ', '\x7d'])))))

theorem query_readsFrom_everything {declared : List (String × String)} {body : List Char}
    {entries : List Node} (areDeclarations : ∀ pair ∈ declared, IsDeclaration pair)
    (each : ∀ levels, ReadsEach (entry (Parser.nestedWithin groupRule levels)) body entries
      [' ', '\x7d']) :
    ReadsFrom none query (everythingText declared body)
      ⟨.ofList declared, .select { variableNames := [], group := mergeRuns entries }⟩ [] := by
  have word : Reads (caselessKeyword "WHERE") ([' '] ++ "WHERE".toList) ()
      ([' ', '\x7b'] ++ (body ++ [' ', '\x7d']) ++ []) :=
    fun before => foldedWord_readsFrom (by decide) IsGap.space rfl rfl
  have body : Reads whereGroup ([' '] ++ "WHERE".toList ++
      ([' ', '\x7b'] ++ (body ++ [' ', '\x7d']))) (mergeRuns entries) [] :=
    word.optional_some.bind (group_reads_line each)
  refine query_readsFrom_lines areDeclarations (fun blank => ?_) fun blank boundary => ?_
  · exact prefixDeclaration_misses blank rfl
  · exact (selectForm_readsFrom_all blank boundary body).firstOf_here

end FactQuery.Sparql
