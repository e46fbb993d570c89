import FactQuery.Proofs.Layout.Fairness
import FactQuery.Proofs.Sparql.Levels

/-!
# Queries respect layout

Outside of brackets each rule does the same with any layout between the words.  Inside of them it
does so in a fair order of words: operands lead from one stance to the other, and operators back.
-/

set_option autoImplicit false

namespace FactQuery.Sparql

open FactQuery.Text FactQuery.Grammar FactQuery.Token

/-! ## Brackets and operators -/

theorem bracket_respects {pre post : Outlook} {bracket : Char}
    (known : bracket = '(' ∨ bracket = ')')
    (leads : ∀ others, pre ([bracket] :: others) → post others) :
    Respects pre (lexeme (exactly [bracket])) post := by
  have stays : StaysInside (exactly [bracket]) := by
    rcases known with rfl | rfl <;> exact exactly_staysInside rfl rfl
  refine Respects.lexeme stays fun taken left others fulfilled isWord scanned => ?_
  obtain rfl := exactly_sound scanned
  obtain rfl : left = [] := isWord.bracket_alone known
  exact ⟨fun _ => rfl, fun _ => leads others fulfilled⟩

theorem Inside.bracket {depth : Nat} {stance : Stance} {bracket : Char}
    {others : List (List Char)} (known : bracket = '(' ∨ bracket = ')')
    (inside : Inside depth stance ([bracket] :: others)) :
    ∃ standing, IsFair (depthBehind depth standing [bracket]) (standing.behind [bracket])
      others := by
  cases inside with
  | before _ fair => exact ⟨_, fair.2⟩
  | amid isPlain _ _ =>
      have plain := isPlainChar_iff.1 (isPlain.isPlainChar bracket List.mem_cons_self)
      rcases known with rfl | rfl
      · exact absurd rfl plain.2.2.1
      · exact absurd rfl plain.2.2.2

theorem opening_respects (depth : Nat) (stance : Stance) :
    Respects (Fair depth stance) (symbol "(") (Fair (depth + 1) .opens) := by
  refine (bracket_respects (Or.inl rfl) fun others fulfilled => ?_).bind fun _ => .pure ()
  have fits : Fits .opens .opened := by simp [Fits]
  cases depth with
  | zero =>
      obtain ⟨_, fair⟩ := fulfilled
      exact .before fits fair.2
  | succ depth =>
      obtain ⟨_, fair⟩ := Inside.bracket (Or.inl rfl) fulfilled
      exact .before fits fair

def Bracketed (depth : Nat) : Outlook := fun words =>
  ∃ stance, Inside (depth + 1) stance words

theorem closing_respects (depth : Nat) :
    Respects (Bracketed depth) (symbol ")") (Fair depth .ends) := by
  refine (bracket_respects (Or.inr rfl) fun others => ?_).bind fun _ => .pure ()
  rintro ⟨stance, inside⟩
  obtain ⟨standing, fair⟩ := inside.bracket (Or.inr rfl)
  have ended : standing.behind [')'] = .ended := by cases standing <;> rfl
  rw [ended] at fair
  cases depth with
  | zero => exact ⟨.ended, fair⟩
  | succ depth => exact .before (by simp [Fits]) fair

theorem bracketed_of_inside {α : Type} {pre : Outlook} {parser : Parser α} {depth : Nat}
    {stance : Stance} (respects : Respects pre parser (Fair (depth + 1) stance)) :
    Respects pre parser (Bracketed depth) :=
  respects.mono (fun _ fulfilled => fulfilled) fun _ inside => ⟨stance, inside⟩

/-- Behind an operand in brackets no marked IRI stands, so what an operator leaves is a word. -/
theorem operator_respects {text : String} (stays : StaysInside (exactly text.toList))
    (continues : continuesOperand text.toList = true)
    (leads : Stance.behind .ends text.toList = .opens) (depth : Nat) :
    Respects (Fair (depth + 1) .ends) (symbol text) (Fair (depth + 1) .opens) := by
  refine (Respects.lexeme stays fun taken left others fulfilled isWord scanned => ?_).bind
    fun _ => .pure ()
  have admits := continuesOperand_of_exactly continues scanned
  obtain ⟨-, nonempty⟩ := stays.splits _ taken left scanned
  obtain rfl := exactly_sound scanned
  refine ⟨fun isMarked => ?_, fun plain => ?_⟩
  · cases fulfilled with
    | before fits fair =>
        rcases fair.1 isMarked with outside | opened
        · contradiction
        · exact absurd opened fits
    | amid isPlain _ _ =>
        have notPlain := isMarked.2
        rw [List.all_eq_true.2 isPlain.isPlainChar] at notPlain
        contradiction
  · have next := isSteady_fair (depth + 1) .ends _ left others fulfilled nonempty admits
      (fun other => by cases other) plain
    rwa [leads] at next

theorem comparisonOperator_respects (depth : Nat) :
    Respects (Fair (depth + 1) .ends) comparisonOperator (Fair (depth + 1) .opens) := by
  have each : ∀ text ∈ ["<=", ">=", "!=", "<>", "==", "=", "<", ">"],
      StaysInside (exactly text.toList) ∧ continuesOperand text.toList = true ∧
        Stance.behind .ends text.toList = .opens := by
    simp only [List.forall_mem_cons]
    refine ⟨?_, ?_, ?_, ?_, ?_, ?_, ?_, ?_, by simp⟩ <;>
      exact ⟨exactly_staysInside rfl rfl, rfl, rfl⟩
  refine .firstOf fun parser inside => ?_
  obtain ⟨text, known, rfl⟩ := List.mem_map.1 inside
  obtain ⟨stays, continues, leads⟩ := each text known
  exact (operator_respects stays continues leads depth).bind fun _ => .pure text

/-! ## Terms -/

variable {depth : Nat}

theorem endsOperand_of_name {c : Char} {more : List Char} (starts : isNameChar c = true)
    (continues : ∀ d ∈ more, isNameChar d = true) (front : List Char) :
    opensOperand (front ++ c :: more) = false := by
  have avoids : AvoidsSigns isNameChar := by decide
  have areNameChars : ∀ d ∈ c :: more, isNameChar d = true :=
    List.forall_mem_cons.2 ⟨starts, continues⟩
  have nonempty : c :: more ≠ [] := List.cons_ne_nil c more
  refine avoids.endsOperand ?_ (areNameChars _ (List.getLast_mem nonempty))
  rw [List.getLast?_append_of_ne_nil front nonempty, List.getLast?_eq_some_getLast nonempty]

theorem variableName_respects : Respects (Fair depth .opens) variableName (Fair depth .ends) := by
  have scans : ScansTokens scanVariable := scanVariable_staysInside.scansTokens rfl fun _ => rfl
  refine ((isSteady_fair depth).lexeme_ends scans (by decide)
    fun text taken left scanned => ?_).bind fun _ => .pure _
  cases text with
  | nil => cases scanned
  | cons mark rest =>
      rw [scanVariable] at scanned
      split at scanned
      · obtain ⟨⟨name, behind⟩, found, same⟩ := Option.map_eq_some_iff.1 scanned
        obtain ⟨rfl, rfl⟩ := Prod.mk.inj same
        obtain ⟨-, c, more, rfl, starts, continues⟩ := scanWord_sound found
        exact endsOperand_of_name (isNameChar_of_isNameStart starts) continues [mark]
      · cases scanned

theorem quotedLiteral_respects :
    Respects (Fair depth .opens) quotedLiteral (Fair depth .ends) := by
  have suffix := (isSteady_fair depth).literalSuffix
  refine (isSteady_fair depth).quotedText.bind fun value =>
    (suffix.optional fun _ => id).bind fun suffix => ?_
  rcases suffix with _ | (tag | name) <;> exact .pure _

theorem number_respects : Respects (Fair depth .opens) number (Fair depth .ends) := by
  have each : ∀ scan ∈ [scanDouble, scanDecimal, scanInteger],
      Respects (Fair depth .opens) (numberText scan) (Fair depth .ends) :=
    fun _ known => (isSteady_fair depth).numberText known
  simp only [List.forall_mem_cons] at each
  refine .firstOf ?_
  simp only [List.forall_mem_cons]
  exact ⟨each.1.bind fun _ => .pure _, each.2.1.bind fun _ => .pure _,
    each.2.2.1.bind fun _ => .pure _, by simp⟩

theorem boolean_respects : Respects (Fair depth .opens) boolean (Fair depth .ends) := by
  have steady := isSteady_fair depth
  refine .firstOf ?_
  simp only [List.forall_mem_cons]
  exact ⟨(steady.caselessKeyword (by decide)).bind fun _ => .pure _,
    (steady.caselessKeyword (by decide)).bind fun _ => .pure _, by simp⟩

/-! ## Expressions -/

/-- The parser reads an operand inside of brackets, however deep. -/
def ReadsOperand {α : Type} (parser : Parser α) : Prop :=
  ∀ depth, Respects (Fair (depth + 1) .opens) parser (Fair (depth + 1) .ends)

section Expressions

variable {inner : Parser Node}

theorem comma_respects (depth : Nat) :
    Respects (Fair depth .ends) (symbol ",") (Fair depth .opens) :=
  (isSteady_fair depth).symbol (by decide) .ends

theorem functionCall_respects (shrinks : Shrinks inner) (reads : ReadsOperand inner)
    (depth : Nat) : Respects (Fair depth .opens) (functionCall inner) (Fair depth .ends) := by
  have scans : ScansTokens (scanWord Char.isAlpha isNameChar) :=
    (scanWord_staysInside (by decide) (by decide) fun c quote => by
      rcases eq_of_isQuote quote with rfl | rfl <;> rfl).scansTokens rfl fun _ => rfl
  have name : Respects (Fair depth .opens) (lexeme (scanWord Char.isAlpha isNameChar))
      (Fair depth .ends) := by
    refine (isSteady_fair depth).lexeme_ends scans (by decide) fun text taken left scanned => ?_
    obtain ⟨-, c, more, rfl, starts, continues⟩ := scanWord_sound scanned
    have isNameCharHere : isNameChar c = true := by simp [isNameChar, Char.isAlphanum, starts]
    exact endsOperand_of_name isNameCharHere continues []
  have arguments : Respects (Fair (depth + 1) .opens) (Parser.separated1 (symbol ",") inner)
      (Fair (depth + 1) .ends) :=
    .separated1 (symbol_advances (by decide)) shrinks (comma_respects _) (reads depth)
  exact name.bind fun _ => (opening_respects depth .ends).bind fun _ =>
    ((bracketed_of_inside arguments).optional fun _ inside => ⟨.opens, inside⟩).bind fun _ =>
      (closing_respects depth).bind fun _ => .pure _

theorem parenthesised_respects (reads : ReadsOperand inner) (depth : Nat) :
    Respects (Fair depth .opens) (parenthesised inner) (Fair depth .ends) :=
  (opening_respects depth .opens).bind fun _ => (bracketed_of_inside (reads depth)).bind fun _ =>
    (closing_respects depth).bind fun _ => .pure _

theorem operand_readsOperand (shrinks : Shrinks inner) (reads : ReadsOperand inner) :
    ReadsOperand (operand inner) := by
  intro depth
  refine .firstOf ?_
  simp only [List.forall_mem_cons]
  exact ⟨functionCall_respects shrinks reads _, variableName_respects.map _,
    quotedLiteral_respects.map _, number_respects.map _, boolean_respects.map _,
    (isSteady_fair _).iri.map _,
    parenthesised_respects reads _, by simp⟩

theorem signs_respects {texts : List String} (known : ∀ text ∈ texts, isSign text = true)
    (depth : Nat) : Respects (Fair depth .ends) (oneOf texts) (Fair depth .opens) := by
  refine .firstOf fun parser inside => ?_
  obtain ⟨text, among, rfl⟩ := List.mem_map.1 inside
  exact ((isSteady_fair depth).symbol (known text among) .ends).bind fun _ => .pure _

theorem oneOf_advances {texts : List String} (nonempty : ∀ text ∈ texts, text.toList ≠ []) :
    Advances (oneOf texts) := by
  refine ⟨oneOf_takes nonempty, .firstOf fun parser inside => ?_⟩
  obtain ⟨text, among, rfl⟩ := List.mem_map.1 inside
  exact (symbol_missesEnd (nonempty text among)).bind _

theorem product_readsOperand (shrinks : Shrinks inner) (reads : ReadsOperand inner) :
    ReadsOperand (product inner) := fun depth =>
  .leftChain (oneOf_advances (by decide)) (.of_succ fun size => operand_agree (shrinks size))
    (signs_respects (by decide) _) (operand_readsOperand shrinks reads depth)

theorem sum_readsOperand (shrinks : Shrinks inner) (reads : ReadsOperand inner) :
    ReadsOperand (sum inner) := fun depth =>
  .leftChain (oneOf_advances (by decide)) (.of_succ fun size => product_agree (shrinks size))
    (signs_respects (by decide) _) (product_readsOperand shrinks reads depth)

theorem comparison_readsOperand (shrinks : Shrinks inner) (reads : ReadsOperand inner) :
    ReadsOperand (comparison inner) := by
  intro depth
  have side := sum_readsOperand shrinks reads depth
  have behind : Respects (Fair (depth + 1) .ends) (do
      let operator ← comparisonOperator
      let right ← sum inner
      return (operator, right)) (Fair (depth + 1) .ends) :=
    (comparisonOperator_respects depth).bind fun _ => side.bind fun _ => .pure _
  refine side.bind fun left => (behind.optional fun _ => id).bind fun behind => ?_
  rcases behind with _ | ⟨operator, right⟩ <;> exact .pure _

theorem negation_readsOperand (shrinks : Shrinks inner) (reads : ReadsOperand inner) :
    ReadsOperand (negation inner) := fun depth =>
  (((isSteady_fair _).symbol (by decide) .opens).optional fun _ => id).bind fun _ =>
    (comparison_readsOperand shrinks reads depth).bind fun _ => .pure _

theorem connected_readsOperand {connective : Connective} {parser : Parser Node}
    (shrinks : Shrinks parser) (reads : ReadsOperand parser) :
    ReadsOperand (connected connective parser) := by
  intro depth
  have nonempty : connective.symbol.toList ≠ [] := by cases connective <;> decide
  have known : isSign connective.symbol = true := by cases connective <;> decide
  have separator := (isSteady_fair (depth + 1)).symbol known .ends
  have listed := Respects.separated1 (symbol_advances nonempty) shrinks separator (reads depth)
  refine listed.bind fun operands => ?_
  rcases operands with _ | ⟨first, _ | ⟨second, others⟩⟩ <;> exact .pure _

theorem expressionRule_readsOperand (shrinks : Shrinks inner) (reads : ReadsOperand inner) :
    ReadsOperand (expressionRule inner) := by
  have negations : Shrinks (negation inner) := .of_succ fun size => negation_agree (shrinks size)
  have conjunctions : Shrinks (connected .and (negation inner)) :=
    fun size => connected_agree (negations size)
  exact connected_readsOperand conjunctions
    (connected_readsOperand negations (negation_readsOperand shrinks reads))

end Expressions

theorem expression_readsOperand : ReadsOperand expression :=
  Respects.nested expressionRule_narrows Shrinks.missed
    (fun _ shrinks => expressionRule_narrows.shrinks shrinks)
    fun _ shrinks reads => expressionRule_readsOperand shrinks reads

/-! ## Groups -/

def Keeps {α : Type} (parser : Parser α) : Prop :=
  Respects Outside parser Outside

theorem keeps_of_ends {α : Type} {parser : Parser α}
    (respects : Respects (Fair 0 .opens) parser (Fair 0 .ends)) : Keeps parser :=
  respects

theorem symbol_keeps {text : String} (known : isSymbol text = true) : Keeps (symbol text) :=
  isLasting_outside.symbol known

theorem keyword_keeps {word : String} (isKeyword : IsKeyword capital word) :
    Keeps (caselessKeyword word) :=
  keeps_of_ends ((isSteady_fair 0).caselessKeyword isKeyword)

theorem variableName_keeps : Keeps variableName :=
  keeps_of_ends variableName_respects

theorem iri_keeps : Keeps iri :=
  keeps_of_ends (isSteady_fair 0).iri

theorem graphTerm_keeps : Keeps graphTerm := by
  have blank : ScansTokens scanBlankNode := scanBlankNode_staysInside.scansTokens rfl fun _ => rfl
  refine .firstOf ?_
  simp only [List.forall_mem_cons]
  exact ⟨variableName_keeps.map _, iri_keeps.map _, keeps_of_ends quotedLiteral_respects,
    keeps_of_ends number_respects, keeps_of_ends boolean_respects,
    (isLasting_outside.lexeme blank).bind fun _ => .pure _, by simp⟩

theorem verb_keeps : Keeps verb := by
  have word : Keeps (keyword "a") := keeps_of_ends ((isSteady_fair 0).keyword (by decide))
  refine .firstOf ?_
  simp only [List.forall_mem_cons]
  exact ⟨variableName_keeps.map _, iri_keeps.map _, word.bind fun _ => .pure _, by simp⟩

theorem predicateObjects_keeps : Keeps predicateObjects :=
  verb_keeps.bind fun _ =>
    (Respects.separated1 (symbol_advances (by decide)) graphTerm_takes.shrinks
      (symbol_keeps (by decide)) graphTerm_keeps).bind fun _ => .pure _

theorem triplesSameSubject_keeps : Keeps triplesSameSubject := by
  have later : Keeps laterPredicateObjects :=
    (symbol_keeps (by decide)).bind fun _ => predicateObjects_keeps.optional fun _ => id
  have groups : Keeps (Parser.many laterPredicateObjects) :=
    .many ⟨laterPredicateObjects_takes, (symbol_missesEnd (by decide)).bind _⟩ later
  exact graphTerm_keeps.bind fun _ => predicateObjects_keeps.bind fun _ => groups.bind fun _ =>
    .pure _

theorem optionalStop_keeps : Keeps optionalStop :=
  ((symbol_keeps (by decide)).optional fun _ => id).bind fun _ => .pure _

theorem filterClause_keeps : Keeps filterClause := by
  have condition : Keeps (Parser.firstOf [parenthesised expression, functionCall expression]) := by
    refine .firstOf ?_
    simp only [List.forall_mem_cons]
    exact ⟨keeps_of_ends (parenthesised_respects expression_readsOperand 0),
      keeps_of_ends (functionCall_respects expression_shrinks expression_readsOperand 0), by simp⟩
  exact (keyword_keeps (by decide)).bind fun _ => condition.bind fun _ =>
    optionalStop_keeps.bind fun _ => .pure _

theorem triplesBlock_keeps : Keeps triplesBlock :=
  triplesSameSubject_keeps.bind fun _ => optionalStop_keeps.bind fun _ => .pure _

theorem entry_keeps {inner : Parser Group} (takes : Takes inner) (keeps : Keeps inner) :
    Keeps (entry inner) := by
  refine .firstOf ?_
  simp only [List.forall_mem_cons]
  refine ⟨filterClause_keeps, ?_, ?_, triplesBlock_keeps, by simp⟩
  · exact (keyword_keeps (by decide)).bind fun _ => keeps.bind fun _ =>
      optionalStop_keeps.bind fun _ => .pure _
  · refine (Respects.separated1 (foldedWord_advances (by decide)) takes.shrinks
      (keyword_keeps (by decide)) keeps).bind fun alternatives =>
        optionalStop_keeps.bind fun _ => ?_
    rcases alternatives with _ | ⟨first, _ | ⟨second, others⟩⟩ <;> exact .pure _

theorem graphTerm_missesEnd : MissesEnd graphTerm := by
  have numbers : MissesEnd number := by
    refine .firstOf ?_
    simp only [List.forall_mem_cons]
    exact ⟨((lexeme_missesEnd rfl).bind _).bind _, ((lexeme_missesEnd rfl).bind _).bind _,
      ((lexeme_missesEnd rfl).bind _).bind _, by simp⟩
  have booleans : MissesEnd boolean := by
    refine .firstOf ?_
    simp only [List.forall_mem_cons]
    exact ⟨(foldedWord_missesEnd (by decide)).bind _, (foldedWord_missesEnd (by decide)).bind _,
      by simp⟩
  refine .firstOf ?_
  simp only [List.forall_mem_cons]
  exact ⟨((lexeme_missesEnd rfl).bind _).map _, iri_missesEnd.map _, quotedText_missesEnd.bind _,
    numbers, booleans, (lexeme_missesEnd rfl).bind _, by simp⟩

theorem entry_missesEnd {inner : Parser Group} (ends : MissesEnd inner) :
    MissesEnd (entry inner) := by
  refine .firstOf ?_
  simp only [List.forall_mem_cons]
  exact ⟨(foldedWord_missesEnd (by decide)).bind _, (foldedWord_missesEnd (by decide)).bind _,
    (ends.bind _).bind _, (graphTerm_missesEnd.bind _).bind _, by simp⟩

theorem groupRule_keeps {inner : Parser Group} (advances : Advances inner) (keeps : Keeps inner) :
    Keeps (groupRule inner) := by
  have entries : Keeps (Parser.many (entry inner)) :=
    .many ⟨entry_takes advances.takes, entry_missesEnd advances.ends⟩
      (entry_keeps advances.takes keeps)
  exact (symbol_keeps (by decide)).bind fun _ => entries.bind fun _ =>
    (symbol_keeps (by decide)).bind fun _ => .pure _

theorem group_keeps : Keeps group := by
  have ground : Advances fun _ => (.missed : Outcome Group) :=
    ⟨.of_skipLayout fun _ _ _ run => (by cases run), fun _ _ => rfl⟩
  have carries : ∀ inner, Advances inner → Advances (groupRule inner) := fun inner advances =>
    ⟨groupRule_takes advances.takes.shrinks, (symbol_missesEnd (by decide)).bind _⟩
  exact Respects.nested (ι := Unit) groupRule_narrows ground carries
    (fun _ advances keeps _ => groupRule_keeps advances (keeps ())) ()

/-! ## Queries -/

theorem prefixDeclaration_keeps : Keeps prefixDeclaration := by
  have name : Keeps iriRef := keeps_of_ends (isSteady_fair 0).iriRef
  exact (keyword_keeps (by decide)).bind fun _ => isLasting_outside.prefixLabel.bind fun _ =>
    name.bind fun _ => .pure _

theorem orderCondition_keeps : Keeps orderCondition := by
  have directed : ∀ {word : String} (descending : Bool), IsKeyword capital word → Keeps (do
      caselessKeyword word
      symbol "("
      let name ← variableName
      symbol ")"
      return OrderCondition.mk name descending) := by
    intro word descending isKeyword
    exact (keyword_keeps isKeyword).bind fun _ => (opening_respects 0 .opens).bind fun _ =>
      (bracketed_of_inside variableName_respects).bind fun _ =>
        (closing_respects 0).bind fun _ => .pure _
  refine .firstOf ?_
  simp only [List.forall_mem_cons]
  exact ⟨directed true (by decide), directed false (by decide), variableName_keeps.map _, by simp⟩

theorem many1_keeps {α : Type} {parser : Parser α} (advances : Advances parser)
    (keeps : Keeps parser) : Keeps (Parser.many1 parser) :=
  keeps.bind fun _ => (Respects.many advances keeps).bind fun _ => .pure _

theorem variableName_advances : Advances variableName :=
  ⟨variableName_takes, (lexeme_missesEnd rfl).bind _⟩

theorem orderCondition_advances : Advances orderCondition := by
  refine ⟨orderCondition_takes, .firstOf ?_⟩
  simp only [List.forall_mem_cons]
  exact ⟨(foldedWord_missesEnd (by decide)).bind _, (foldedWord_missesEnd (by decide)).bind _,
    variableName_advances.ends.map _, by simp⟩

theorem orderClause_keeps : Keeps orderClause :=
  (keyword_keeps (by decide)).bind fun _ => (keyword_keeps (by decide)).bind fun _ =>
    many1_keeps orderCondition_advances orderCondition_keeps

theorem countClause_keeps {word : String} (isKeyword : IsKeyword capital word) :
    Keeps (countClause word) := by
  have digits : ScansTokens (scanRun Char.isDigit) := scansTokens_scanRun (by decide)
  exact (keyword_keeps isKeyword).bind fun _ => (isLasting_outside.lexeme digits).bind
    fun _ => .pure _

theorem limitOffset_keeps : Keeps limitOffset := by
  have limit : Keeps (countClause "LIMIT") := countClause_keeps (by decide)
  have offset : Keeps (countClause "OFFSET") := countClause_keeps (by decide)
  refine .firstOf ?_
  simp only [List.forall_mem_cons]
  exact ⟨limit.bind fun _ => (offset.optional fun _ => id).bind fun _ => .pure _,
    offset.bind fun _ => (limit.optional fun _ => id).bind fun _ => .pure _, by simp⟩

theorem requestedVariables_keeps : Keeps requestedVariables := by
  refine .firstOf ?_
  simp only [List.forall_mem_cons]
  exact ⟨(symbol_keeps (by decide)).bind fun _ => .pure _,
    many1_keeps variableName_advances variableName_keeps, by simp⟩

theorem whereGroup_keeps : Keeps whereGroup :=
  ((keyword_keeps (by decide)).optional fun _ => id).bind fun _ => group_keeps

theorem selectForm_keeps : Keeps selectForm :=
  (keyword_keeps (by decide)).bind fun _ =>
    ((keyword_keeps (by decide)).optional fun _ => id).bind fun _ =>
      requestedVariables_keeps.bind fun _ => whereGroup_keeps.bind fun _ =>
        (orderClause_keeps.optional fun _ => id).bind fun _ =>
          (limitOffset_keeps.optional fun _ => id).bind fun _ => .pure _

theorem askForm_keeps : Keeps askForm :=
  (keyword_keeps (by decide)).bind fun _ => whereGroup_keeps.bind fun _ => .pure _

theorem query_respects : Respects Outside query fun _ => True := by
  have declarations : Keeps (Parser.many prefixDeclaration) :=
    .many ⟨prefixDeclaration_takes, (foldedWord_missesEnd (by decide)).bind _⟩
      prefixDeclaration_keeps
  have form : Keeps (Parser.firstOf [selectForm, askForm]) := by
    refine .firstOf ?_
    simp only [List.forall_mem_cons]
    exact ⟨selectForm_keeps, askForm_keeps, by simp⟩
  exact declarations.bind fun _ => form.bind fun _ => endOfText_respects.bind fun _ => .pure _

end FactQuery.Sparql
