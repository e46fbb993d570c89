import FactQuery.Proofs.Sparql.TermRoundTrip
import FactQuery.Proofs.Sparql.WellFormed

/-!
# Written declarations and modifiers are read back

Declarations of prefixes, requested variables, keys of an order and counts, each with the line end
or the blank in front of it.  Every part ends where the next one begins with a keyword or where the
text ends.
-/

set_option autoImplicit false

namespace FactQuery.Sparql

open FactQuery.Text FactQuery.Grammar FactQuery.Token

/-! ## Where a clause begins -/

def IsClauseWord (word : String) : Prop :=
  IsKeyword capital word ∧ ∀ c ∈ word.toList, c.isAlpha = true

instance (word : String) : Decidable (IsClauseWord word) :=
  decidable_of_iff (IsKeyword capital word ∧ word.toList.all Char.isAlpha = true)
    (by simp [IsClauseWord])

/-- The text has ended, or goes on in a new line with one of some words. -/
inductive StartsClause (words : List String) : List Char → Prop where
  | ended : StartsClause words []
  | word {word : String} {more : List Char} (known : word ∈ words) (isWord : IsClauseWord word)
      (stops : Stops (foldsToIdentifier capital) more) :
      StartsClause words (['\n'] ++ (word.toList ++ more))

variable {words : List String} {rest : List Char}

theorem StartsClause.mono {more : List String} (clause : StartsClause words rest)
    (known : ∀ word ∈ words, word ∈ more) : StartsClause more rest := by
  cases clause with
  | ended => exact .ended
  | word inside isWord stops => exact .word (known _ inside) isWord stops

theorem StartsClause.front (clause : StartsClause words rest) :
    rest = [] ∨ ∃ c others, c.isAlpha = true ∧ rest = ['\n'] ++ c :: others := by
  cases clause with
  | ended => exact Or.inl rfl
  | @word word more known isWord stops =>
      cases letters : word.toList with
      | nil => exact absurd letters isWord.1.1
      | cons c others => exact Or.inr ⟨c, others ++ more, isWord.2 c (by simp [letters]), rfl⟩

theorem otherWord_misses {word other : String} {gap more : List Char} (blank : IsGap gap)
    (isKeyword : IsKeyword capital other) (isWord : IsClauseWord word) (different : word ≠ other)
    (stops : Stops (foldsToIdentifier capital) more) :
    Misses (caselessKeyword other) (gap ++ (word.toList ++ more)) := by
  obtain ⟨⟨nonempty, identifiers, fixed⟩, letters⟩ := isWord
  have inside : ∀ c ∈ word.toList, foldsToIdentifier capital c = true := by
    intro c found
    rw [foldsToIdentifier, fixed c found]
    exact identifiers c found
  have starts : Stops isLayoutStart (word.toList ++ more) := by
    cases written : word.toList with
    | nil => exact absurd written nonempty
    | cons c others =>
        rw [List.cons_append, Stops.cons_iff]
        exact isLayoutStart_eq_false (by decide) (letters c (by simp [written]))
  refine foldedRun_misses isKeyword blank starts inside stops ?_
  rw [List.map_congr_left fixed, List.map_id']
  intro same
  exact different (String.toList_inj.1 same)

theorem StartsClause.keyword_misses {other : String} (clause : StartsClause words rest)
    (isKeyword : IsKeyword capital other) (unknown : other ∉ words) :
    Misses (caselessKeyword other) rest := by
  cases clause with
  | ended =>
      have starts : Stops isLayoutStart [] := rfl
      have missed : Misses (foldedWord capital other) ([] ++ []) :=
        foldedWord_misses_of_stops isKeyword IsGap.nil starts rfl
      exact missed
  | word known isWord stops =>
      refine otherWord_misses IsGap.lineEnd isKeyword isWord ?_ stops
      rintro rfl
      exact unknown known

theorem StartsClause.variableName_misses (clause : StartsClause words rest) :
    Misses variableName rest := by
  rcases clause.front with rfl | ⟨c, others, letter, rfl⟩
  · have starts : Stops isLayoutStart [] := rfl
    exact Sparql.variableName_misses IsGap.nil starts rfl
  · have front : isNameFront c = true := by simp [isNameFront, letter]
    obtain ⟨noLayout, noMark, _⟩ := outside_of_isNameFront front
    exact Sparql.variableName_misses IsGap.lineEnd (Stops.cons_iff.2 noLayout)
      (Stops.cons_iff.2 noMark)

/-- No word, name or number goes on where a clause begins. -/
theorem StartsClause.stops {belongs : Char → Bool} (clause : StartsClause words rest)
    (lineEnd : belongs '\n' = false) : Stops belongs rest := by
  cases clause with
  | ended => rfl
  | word known isWord behind => exact Stops.cons_iff.2 lineEnd

/-! ## Declarations -/

def declarationText (pair : String × String) : List Char :=
  "PREFIX".toList ++ ([' '] ++ (pair.1.toList ++ [':']) ++ ([' '] ++ angled pair.2))

theorem declarationText_ne_nil (pair : String × String) : declarationText pair ≠ [] := by
  unfold declarationText
  simp

theorem declarationClause_readsFrom {α : Type} (made : String → String → α)
    {before : Option Char} {gap : List Char} {pair : String × String} (blank : IsGap gap)
    (boundary : isBoundary capital (gap.getLast?.or before) = true) (good : IsDeclaration pair)
    (rest : List Char) :
    ReadsFrom before (do
      caselessKeyword "PREFIX"
      let label ← prefixLabel
      let name ← iriRef
      return made label name) (gap ++ declarationText pair) (made pair.1 pair.2) rest := by
  have word : ReadsFrom before (caselessKeyword "PREFIX") (gap ++ "PREFIX".toList) ()
      ([' '] ++ (pair.1.toList ++ [':']) ++ ([' '] ++ angled pair.2) ++ rest) :=
    foldedWord_readsFrom (by decide) blank boundary rfl
  have label : Reads prefixLabel ([' '] ++ (pair.1.toList ++ [':'])) pair.1
      ([' '] ++ angled pair.2 ++ rest) :=
    prefixLabel_reads IsGap.space good.1
  have name : Reads iriRef ([' '] ++ angled pair.2) pair.2 rest :=
    iriRef_reads IsGap.space good.2
  unfold declarationText
  rw [← List.append_assoc gap]
  exact word.bind (label.bind name.bind_pure)

theorem prefixDeclaration_readsFrom {before : Option Char} {gap : List Char}
    {pair : String × String} (blank : IsGap gap)
    (boundary : isBoundary capital (gap.getLast?.or before) = true) (good : IsDeclaration pair)
    (rest : List Char) :
    ReadsFrom before prefixDeclaration (gap ++ declarationText pair) pair rest :=
  declarationClause_readsFrom Prod.mk blank boundary good rest

theorem declarations_readsEach {pairs : List (String × String)}
    (good : ∀ pair ∈ pairs, IsDeclaration pair)
    (stops : Misses prefixDeclaration rest) :
    ReadsEach prefixDeclaration (pairs.flatMap fun pair => ['\n'] ++ declarationText pair) pairs
      rest := by
  induction pairs with
  | nil => exact ReadsEach.stop stops
  | cons pair pairs inductionHypothesis =>
      rw [List.forall_mem_cons] at good
      rw [List.flatMap_cons]
      refine ReadsEach.more (by simp) (fun before => ?_) (inductionHypothesis good.2)
      exact prefixDeclaration_readsFrom IsGap.lineEnd rfl good.1 _

/-! ## Requested variables -/

def variableTexts (names : List String) : List Char :=
  names.flatMap fun name => [' '] ++ '?' :: name.toList

def requestedText (names : List String) : List Char :=
  if names.isEmpty then [' ', '*'] else variableTexts names

theorem stops_variableTexts (names : List String) (clause : StartsClause words rest) :
    Stops isNameChar (variableTexts names ++ rest) := by
  cases names with
  | nil => exact clause.stops rfl
  | cons name names => rfl

theorem variables_readsEach {names : List String} (areNames : ∀ name ∈ names, IsVariableName name)
    (clause : StartsClause words rest) :
    ReadsEach variableName (variableTexts names) names rest := by
  induction names with
  | nil => exact ReadsEach.stop clause.variableName_misses
  | cons name names inductionHypothesis =>
      rw [List.forall_mem_cons] at areNames
      have first := variableName_reads IsGap.space areNames.1 (stops_variableTexts names clause)
      exact ReadsEach.more (by simp) first (inductionHypothesis areNames.2)

theorem requestedVariables_reads {names : List String}
    (areNames : ∀ name ∈ names, IsVariableName name) (clause : StartsClause words rest) :
    Reads requestedVariables (requestedText names) names rest := by
  cases names with
  | nil =>
      have star : Reads (symbol "*") [' ', '*'] () rest := symbol_reads IsGap.space rfl
      exact star.bind_pure.firstOf_here
  | cons name names =>
      rw [List.forall_mem_cons] at areNames
      have later := variables_readsEach areNames.2 clause
      have first := variableName_reads IsGap.space areNames.1 (stops_variableTexts names clause)
      have starts : Stops isLayoutStart
          ('?' :: (name.toList ++ (variableTexts names ++ rest))) := rfl
      have noStar : Misses (symbol "*") (requestedText (name :: names) ++ rest) := by
        have ahead : requestedText (name :: names) ++ rest =
            [' '] ++ '?' :: (name.toList ++ (variableTexts names ++ rest)) := by
          simp [requestedText, variableTexts]
        rw [ahead]
        exact symbol_misses IsGap.space starts rfl
      have whole : Reads (Parser.many1 variableName) (requestedText (name :: names))
          (name :: names) rest :=
        first.bind later.many.bind_pure
      exact whole.firstOf_here.firstOf_later noStar.bind

/-! ## Orders -/

def conditionText (condition : OrderCondition) : List Char :=
  if condition.descending then
    "DESC".toList ++ (['('] ++ ('?' :: condition.variableName.toList ++ [')']))
  else '?' :: condition.variableName.toList

def conditionTexts (conditions : List OrderCondition) : List Char :=
  conditions.flatMap fun condition => [' '] ++ conditionText condition

def orderText (conditions : List OrderCondition) : List Char :=
  if conditions.isEmpty then []
  else ['\n'] ++ "ORDER".toList ++ ([' '] ++ "BY".toList ++ conditionTexts conditions)

theorem orderCondition_reads {condition : OrderCondition}
    (isName : IsVariableName condition.variableName) (stops : Stops isNameChar rest) :
    Reads orderCondition ([' '] ++ conditionText condition) condition rest := by
  obtain ⟨name, descending⟩ := condition
  cases descending with
  | true =>
      have word : Reads (caselessKeyword "DESC") ([' '] ++ "DESC".toList) ()
          (['('] ++ ('?' :: name.toList ++ [')']) ++ rest) :=
        fun before => foldedWord_readsFrom (by decide) IsGap.space rfl rfl
      have opens : Reads (symbol "(") ['('] () ('?' :: name.toList ++ [')'] ++ rest) :=
        symbol_reads IsGap.nil rfl
      have variableReads : Reads variableName ('?' :: name.toList) name ([')'] ++ rest) :=
        variableName_reads IsGap.nil isName rfl
      have closes : Reads (symbol ")") [')'] () rest := symbol_reads IsGap.nil rfl
      have whole : Reads (do
          caselessKeyword "DESC"
          symbol "("
          let name ← variableName
          symbol ")"
          return OrderCondition.mk name true)
          ([' '] ++ "DESC".toList ++ (['('] ++ ('?' :: name.toList ++ [')']))) ⟨name, true⟩ rest :=
        word.bind (opens.bind (variableReads.bind closes.bind_pure))
      rw [List.append_assoc] at whole
      exact whole.firstOf_here
  | false =>
      have starts : Stops isLayoutStart ('?' :: (name.toList ++ rest)) := rfl
      have noWord : ∀ word, IsKeyword capital word →
          Misses (caselessKeyword word) ([' '] ++ '?' :: name.toList ++ rest) := by
        intro word isKeyword
        have missed : Misses (caselessKeyword word) ([' '] ++ '?' :: (name.toList ++ rest)) :=
          foldedWord_misses_of_stops isKeyword IsGap.space starts rfl
        rw [List.append_assoc]
        exact missed
      have read : Reads ((OrderCondition.mk · false) <$> variableName)
          ([' '] ++ '?' :: name.toList) ⟨name, false⟩ rest :=
        (variableName_reads IsGap.space isName stops).bind_pure
      exact (read.firstOf_here.firstOf_later (noWord "ASC" (by decide)).bind).firstOf_later
        (noWord "DESC" (by decide)).bind

theorem stops_conditionTexts (conditions : List OrderCondition)
    (clause : StartsClause words rest) : Stops isNameChar (conditionTexts conditions ++ rest) := by
  cases conditions with
  | nil => exact clause.stops rfl
  | cons condition conditions => rfl

theorem StartsClause.orderCondition_misses (clause : StartsClause words rest)
    (noDescending : "DESC" ∉ words) (noAscending : "ASC" ∉ words) :
    Misses orderCondition rest := by
  refine Misses.firstOf ?_
  simp only [List.forall_mem_cons]
  refine ⟨?_, ?_, clause.variableName_misses.map, by simp⟩
  · exact (clause.keyword_misses (by decide) noDescending).bind
  · exact (clause.keyword_misses (by decide) noAscending).bind

theorem conditions_readsEach {conditions : List OrderCondition}
    (areNames : ∀ condition ∈ conditions, IsVariableName condition.variableName)
    (clause : StartsClause words rest) (noDescending : "DESC" ∉ words)
    (noAscending : "ASC" ∉ words) :
    ReadsEach orderCondition (conditionTexts conditions) conditions rest := by
  induction conditions with
  | nil => exact ReadsEach.stop (clause.orderCondition_misses noDescending noAscending)
  | cons condition conditions inductionHypothesis =>
      rw [List.forall_mem_cons] at areNames
      have first := orderCondition_reads areNames.1 (stops_conditionTexts conditions clause)
      exact ReadsEach.more (by simp) first (inductionHypothesis areNames.2)

theorem order_reads {conditions : List OrderCondition}
    (areNames : ∀ condition ∈ conditions, IsVariableName condition.variableName)
    (clause : StartsClause ["LIMIT", "OFFSET"] rest) :
    ∃ found, Reads (Parser.optional orderClause) (orderText conditions) found rest ∧
      found.getD [] = conditions := by
  cases conditions with
  | nil =>
      have noOrder : Misses orderClause rest :=
        (clause.keyword_misses (by decide) (by decide)).bind
      exact ⟨none, noOrder.optional_none, rfl⟩
  | cons condition conditions =>
      rw [List.forall_mem_cons] at areNames
      have order : Reads (caselessKeyword "ORDER") (['\n'] ++ "ORDER".toList) ()
          ([' '] ++ "BY".toList ++ conditionTexts (condition :: conditions) ++ rest) :=
        fun before => foldedWord_readsFrom (by decide) IsGap.lineEnd rfl rfl
      have byWord : Reads (caselessKeyword "BY") ([' '] ++ "BY".toList) ()
          (conditionTexts (condition :: conditions) ++ rest) :=
        fun before => foldedWord_readsFrom (by decide) IsGap.space rfl rfl
      have first := orderCondition_reads areNames.1 (stops_conditionTexts conditions clause)
      have later := conditions_readsEach areNames.2 clause (by decide) (by decide)
      have keys : Reads (Parser.many1 orderCondition) (conditionTexts (condition :: conditions))
          (condition :: conditions) rest :=
        first.bind later.many.bind_pure
      have whole : Reads orderClause (orderText (condition :: conditions))
          (condition :: conditions) rest :=
        order.bind (byWord.bind keys)
      exact ⟨some (condition :: conditions), whole.optional_some, rfl⟩

/-! ## Counts -/

def countText (word : String) (count : Option Int) : List Char :=
  match count with
  | none => []
  | some value => ['\n'] ++ (word.toList ++ ' ' :: (toString value).toList)

theorem text_natural (number : Nat) :
    (toString (number : Int)).toList = Nat.toDigits 10 number :=
  Nat.toList_repr

theorem startsClause_countText {word : String} (isWord : IsClauseWord word) {count : Option Int}
    (more : List Char) (clause : StartsClause words more) :
    StartsClause (word :: words) (countText word count ++ more) := by
  cases count with
  | none => exact clause.mono fun other known => List.mem_cons_of_mem word known
  | some value =>
      have whole : countText word (some value) ++ more =
          ['\n'] ++ (word.toList ++ ' ' :: ((toString value).toList ++ more)) := by
        simp [countText]
      rw [whole]
      exact .word List.mem_cons_self isWord rfl

theorem countClause_reads {word : String} (isWord : IsClauseWord word) (number : Nat)
    (stops : Stops Char.isDigit rest) :
    Reads (countClause word) (countText word (some (number : Int))) (number : Int) rest := by
  have keyword : Reads (caselessKeyword word) (['\n'] ++ word.toList) ()
      ([' '] ++ Nat.toDigits 10 number ++ rest) :=
    fun before => foldedWord_readsFrom isWord.1 IsGap.lineEnd rfl rfl
  have areDigits : ∀ c ∈ Nat.toDigits 10 number, c.isDigit = true :=
    fun c found => Nat.isDigit_of_mem_toDigits (by decide) (by decide) found
  have nonempty : Nat.toDigits 10 number ≠ [] := List.length_pos_iff.1 Nat.length_toDigits_pos
  have starts : Stops isLayoutStart (Nat.toDigits 10 number ++ rest) := by
    cases digits : Nat.toDigits 10 number with
    | nil => exact absurd digits nonempty
    | cons c others =>
        rw [List.cons_append, Stops.cons_iff]
        exact isLayoutStart_eq_false (by decide) (areDigits c (by simp [digits]))
  have scanned : scanRun Char.isDigit (Nat.toDigits 10 number ++ rest) =
      some (Nat.toDigits 10 number, rest) := by
    simp [scanRun, takeWhile_run areDigits stops, dropWhile_run areDigits stops, nonempty]
  have digits := lexeme_reads IsGap.space starts scanned
  have whole : Reads (countClause word)
      (['\n'] ++ word.toList ++ ([' '] ++ Nat.toDigits 10 number))
      (digitsValue (Nat.toDigits 10 number) : Nat) rest :=
    keyword.bind digits.bind_pure
  rw [digitsValue_toDigits, List.append_assoc] at whole
  rw [countText, text_natural]
  exact whole

theorem StartsClause.countClause_misses {word : String} (isWord : IsClauseWord word)
    (clause : StartsClause words rest) (unknown : word ∉ words) : Misses (countClause word) rest :=
  (clause.keyword_misses isWord.1 unknown).bind

theorem optionalCount_reads {word : String} (isWord : IsClauseWord word) {count : Option Int}
    (isCount : IsCount count) :
    Reads (Parser.optional (countClause word)) (countText word count) count [] := by
  cases count with
  | none =>
      have atEnd : StartsClause [] [] := .ended
      exact (atEnd.countClause_misses isWord (by simp)).optional_none
  | some value =>
      obtain ⟨number, rfl⟩ := isCount value rfl
      exact (countClause_reads isWord number (rfl : Stops Char.isDigit [])).optional_some

theorem offset_reads {offset : Option Int} (isOffset : IsCount offset) :
    ∃ found, Reads (Parser.optional limitOffset) (countText "OFFSET" offset) found [] ∧
      found.bind Prod.fst = none ∧ found.bind Prod.snd = offset := by
  have limitWord : IsClauseWord "LIMIT" := by decide
  have offsetWord : IsClauseWord "OFFSET" := by decide
  cases offset with
  | some value =>
      obtain ⟨number, rfl⟩ := isOffset value rfl
      have behind : StartsClause ["OFFSET"] (countText "OFFSET" (some (number : Int)) ++ []) :=
        startsClause_countText offsetWord [] .ended
      have noLimit := behind.countClause_misses limitWord (by decide)
      have offsetReads := countClause_reads offsetWord number (rfl : Stops Char.isDigit [])
      have nothing : IsCount none := by
        intro value same
        cases same
      have optionalLimit := optionalCount_reads limitWord nothing
      have second : Reads (do
          let offset ← countClause "OFFSET"
          let limit ← Parser.optional (countClause "LIMIT")
          return (limit, some offset)) (countText "OFFSET" (some (number : Int)))
          (none, some (number : Int)) [] :=
        offsetReads.bind_end optionalLimit.bind_pure
      have whole : Reads limitOffset (countText "OFFSET" (some (number : Int)))
          (none, some (number : Int)) [] :=
        second.firstOf_here.firstOf_later noLimit.bind
      exact ⟨some (none, some (number : Int)), whole.optional_some, rfl, rfl⟩
  | none =>
      have atEnd : StartsClause [] [] := .ended
      have nothing : Misses limitOffset [] := by
        refine Misses.firstOf ?_
        simp only [List.forall_mem_cons]
        exact ⟨(atEnd.countClause_misses limitWord (by simp)).bind,
          (atEnd.countClause_misses offsetWord (by simp)).bind, by simp⟩
      exact ⟨none, nothing.optional_none, rfl, rfl⟩

theorem cut_reads {limit offset : Option Int} (isLimit : IsCount limit)
    (isOffset : IsCount offset) :
    ∃ found, Reads (Parser.optional limitOffset)
        (countText "LIMIT" limit ++ countText "OFFSET" offset) found [] ∧
      found.bind Prod.fst = limit ∧ found.bind Prod.snd = offset := by
  cases limit with
  | some value =>
      obtain ⟨number, rfl⟩ := isLimit value rfl
      have behind : StartsClause ["OFFSET"] (countText "OFFSET" offset ++ []) :=
        startsClause_countText (by decide) [] .ended
      have limitReads := countClause_reads (by decide : IsClauseWord "LIMIT") number
        (behind.stops rfl)
      have optionalOffset := optionalCount_reads (by decide : IsClauseWord "OFFSET") isOffset
      have whole : Reads limitOffset (countText "LIMIT" (some (number : Int)) ++
          countText "OFFSET" offset) (some (number : Int), offset) [] :=
        Reads.firstOf_here (limitReads.bind optionalOffset.bind_pure)
      exact ⟨some (some (number : Int), offset), whole.optional_some, rfl, rfl⟩
  | none => exact offset_reads isOffset

end FactQuery.Sparql
