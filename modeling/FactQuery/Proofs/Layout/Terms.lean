import FactQuery.Proofs.Layout.Scanners
import FactQuery.Proofs.Layout.Strings

/-!
# Tokens respect layout

Each token parser of the two grammars does the same at places that are alike.  What it needs of the
conditions on the words ahead is that they stay when words are taken.  Inside of brackets they also
depend on whether an operand comes or has just ended, which decides where an operator may stand.
-/

set_option autoImplicit false

namespace FactQuery.Grammar

open FactQuery.Text FactQuery.Token

variable {α : Type} {pre post : Outlook}

def leftAhead (left : List Char) (others : List (List Char)) : List (List Char) :=
  if left.isEmpty then others else left :: others

/-! ## What a scanner finds -/

/-- A parser that takes what a scanner finds respects layout, if marked IRIs are taken whole. -/
theorem Respects.lexeme {scan : Scanner} (stays : StaysInside scan)
    (leads : ∀ taken left others, pre ((taken ++ left) :: others) → IsWord (taken ++ left) →
      scan (taken ++ left) = some (taken, left) →
      (IsMarked (taken ++ left) → left = []) ∧
        ((∀ c ∈ left, isPlainChar c = true) → post (leftAhead left others))) :
    Respects pre (Grammar.lexeme scan) post := by
  rintro place again ⟨words, fulfilled, face⟩
  cases words with
  | nil =>
      obtain ⟨here, there⟩ := face.ahead_nil
      have nothing : scan [] = none := by
        cases scanned : scan [] with
        | none => rfl
        | some found =>
            obtain ⟨whole, nonempty⟩ := stays.splits [] found.1 found.2 scanned
            exact absurd (List.append_eq_nil_iff.1 whole.symm).1 nonempty
      simp only [Grammar.lexeme, here, there, nothing]
      exact .missed
  | cons word others =>
      obtain ⟨before, before', rest, other, goOn, skipped, skipped'⟩ := face.ahead_cons
      have isWord := face.areWords word List.mem_cons_self
      simp only [Grammar.lexeme, skipped, skipped', stays.ahead word _ goOn.endsHere,
        stays.ahead word _ goOn.endsThere]
      cases scanned : scan word with
      | none => exact .missed
      | some found =>
          obtain ⟨taken, left⟩ := found
          obtain ⟨rfl, nonempty⟩ := stays.splits word taken left scanned
          have noQuote : Stops isQuote (taken ++ left) := by
            rcases isWord.quoted_or_unquoted with isQuoted | stops
            · obtain ⟨c, more, same, quote⟩ := isQuoted.exists_quote
              rw [same, stays.noQuote c more quote] at scanned
              contradiction
            · exact stops
          obtain ⟨whole, next⟩ := leads taken left others fulfilled isWord scanned
          have plain := isWord.plain_left nonempty noQuote whole
          have last : ∀ before : Option Char,
              taken.getLast?.or before = some (taken.getLast nonempty) := by
            intro before
            rw [List.getLast?_eq_some_getLast nonempty, Option.some_or]
          refine .matched ⟨leftAhead left others, next plain, ?_⟩
          simp only [Cursor.past, last]
          cases left with
          | nil => exact goOn.behind
          | cons c left => exact goOn.inside ⟨List.cons_ne_nil c left, plain⟩

/-! ## Steady conditions -/

/-- Whether a parser inside of brackets stands in front of an operand or behind one. -/
inductive Stance where
  | opens
  | ends

def openers : List Char :=
  ['(', ',', '!', '=', '<', '&', '|', '+', '*', '/', '^']

/-- Behind this token an operand stands, and no operator: it is an operator or a separator, or
opens a bracket. -/
def opensOperand (token : List Char) : Bool :=
  token.getLast?.any openers.contains || token == ['>'] || token == ['-']

/-- The empty IRI is also the sign of an operator, if it stands behind an operand. -/
def Stance.behind : Stance → List Char → Stance
  | .opens, token => if opensOperand token then .opens else .ends
  | .ends, token => if opensOperand token || token == ['<', '>'] then .opens else .ends

/-- The words that no operand begins with: brackets, and what ends a pattern or a group. -/
def dividers : List (List Char) :=
  [['('], [')'], ['\x7b'], ['\x7d'], ['.'], [';']]

/-- The characters with which an expression goes on behind an operand, closing brackets apart. -/
def continuers : List Char :=
  [',', '!', '=', '<', '>', '&', '|', '+', '-', '*', '/', '^', '@']

def continuesOperand (word : List Char) : Bool :=
  word.head?.any continuers.contains

/-- The words of which a parser with this stance may take a part. -/
def Stance.Admits : Stance → List Char → Prop
  | .opens, word => word ∉ dividers
  | .ends, word => continuesOperand word = true

/-- Conditions that go from stance to stance when words are taken. -/
def IsSteady (outlook : Stance → Outlook) : Prop :=
  ∀ stance taken left others, outlook stance ((taken ++ left) :: others) → taken ≠ [] →
    stance.Admits (taken ++ left) → (stance = .opens → IsFullIri (taken ++ left) → left = []) →
    (∀ c ∈ left, isPlainChar c = true) → outlook (stance.behind taken) (leftAhead left others)

/-- A condition that stays when words are taken, except for an opening bracket. -/
def IsLasting (outlook : Outlook) : Prop :=
  ∀ taken left others, outlook ((taken ++ left) :: others) → taken ≠ [] → taken ++ left ≠ ['('] →
    (∀ c ∈ left, isPlainChar c = true) → outlook (leftAhead left others)

/-- A scanner that takes no opening bracket and full IRIs only as a whole. -/
structure ScansTokens (scan : Scanner) : Prop extends StaysInside scan where
  noOpening : scan ['('] = none
  whole : ∀ taken left, IsFullIri (taken ++ left) → scan (taken ++ left) = some (taken, left) →
    left = []

def RefusesDividers (scan : Scanner) : Prop :=
  (dividers.all fun word => (scan word).isNone) = true

instance (scan : Scanner) : Decidable (RefusesDividers scan) :=
  inferInstanceAs (Decidable (_ = true))

theorem RefusesDividers.not_mem {scan : Scanner} (refuses : RefusesDividers scan)
    {word : List Char} {found : List Char × List Char} (scanned : scan word = some found) :
    word ∉ dividers := by
  intro divider
  have missed := List.all_eq_true.1 refuses word divider
  rw [scanned] at missed
  contradiction

theorem not_mem_dividers_of_continuesOperand {word : List Char}
    (continues : continuesOperand word = true) : word ∉ dividers := by
  intro divider
  have outside : ∀ word ∈ dividers, continuesOperand word = false := by decide
  rw [outside word divider] at continues
  contradiction

theorem Stance.Admits.not_mem {stance : Stance} {word : List Char} (admits : stance.Admits word) :
    word ∉ dividers := by
  cases stance with
  | opens => exact admits
  | ends => exact not_mem_dividers_of_continuesOperand admits

theorem StaysInside.scansTokens {scan : Scanner} (stays : StaysInside scan)
    (noOpening : scan ['('] = none) (noAngle : ∀ rest, scan ('<' :: rest) = none) :
    ScansTokens scan where
  toStaysInside := stays
  noOpening := noOpening
  whole taken left isFullIri scanned := by
    obtain ⟨rest, same⟩ := isFullIri.exists_rest
    rw [same, noAngle] at scanned
    contradiction

theorem opensOperand_eq_false {token : List Char} {c : Char} (last : token.getLast? = some c)
    (noOpener : c ∉ openers) (noAngle : token ≠ ['>']) (noMinus : token ≠ ['-']) :
    opensOperand token = false := by
  simp [opensOperand, last, noOpener, noAngle, noMinus]

theorem not_mem_openers {belongs : Char → Bool} {c : Char}
    (outside : (openers.all fun d => !belongs d) = true) (inside : belongs c = true) :
    c ∉ openers := by
  intro opener
  have excluded := List.all_eq_true.1 outside c opener
  rw [inside] at excluded
  contradiction

def signs : List Char :=
  [' ', '\t', '\n', '\r', '\x22', '\x27', '(', ')', ',', '!', '=', '<', '>', '&', '|', '+', '-',
    '*', '/', '^', '\x7b', '\x7d', '.', ';']

def AvoidsSigns (belongs : Char → Bool) : Prop :=
  (signs.all fun c => !belongs c) = true

instance (belongs : Char → Bool) : Decidable (AvoidsSigns belongs) :=
  inferInstanceAs (Decidable (_ = true))

section Classes

variable {belongs : Char → Bool}

theorem AvoidsSigns.eq_false (avoids : AvoidsSigns belongs) {c : Char} (sign : c ∈ signs) :
    belongs c = false := by
  have outside := List.all_eq_true.1 avoids c sign
  rwa [Bool.not_eq_true'] at outside

theorem AvoidsSigns.noBlank (avoids : AvoidsSigns belongs) : NoBlank belongs := by
  simp only [AvoidsSigns, signs, List.all_cons, Bool.and_eq_true] at avoids
  simp [NoBlank, avoids.1, avoids.2.1, avoids.2.2.1, avoids.2.2.2.1]

theorem AvoidsSigns.noQuote (avoids : AvoidsSigns belongs) (c : Char) (quote : isQuote c = true) :
    belongs c = false := by
  rcases eq_of_isQuote quote with rfl | rfl
  · exact avoids.eq_false (by decide)
  · exact avoids.eq_false (by decide)

theorem AvoidsSigns.endsOperand (avoids : AvoidsSigns belongs) {token : List Char} {c : Char}
    (last : token.getLast? = some c) (inside : belongs c = true) : opensOperand token = false := by
  have different : ∀ d, belongs d = false → c ≠ d := by
    rintro d outside rfl
    rw [inside] at outside
    contradiction
  have areSigns : openers ⊆ signs := by simp [openers, signs]
  have noOpener : c ∉ openers := fun opener =>
    different c (avoids.eq_false (areSigns opener)) rfl
  refine opensOperand_eq_false last noOpener ?_ ?_
  · rintro rfl
    exact different '>' (avoids.eq_false (by decide)) (Option.some.inj last).symm
  · rintro rfl
    exact different '-' (avoids.eq_false (by decide)) (Option.some.inj last).symm

end Classes

section Steady

variable {outlook : Stance → Outlook} {always : Outlook}

theorem IsLasting.isSteady (lasting : IsLasting always) : IsSteady fun _ => always := by
  intro stance taken left others fulfilled nonempty admits _ plain
  refine lasting taken left others fulfilled nonempty ?_ plain
  intro same
  exact admits.not_mem (by simp [same, dividers])

theorem IsLasting.lexeme (lasting : IsLasting always) {scan : Scanner}
    (scans : ScansTokens scan) : Respects always (lexeme scan) always := by
  refine .lexeme scans.toStaysInside fun taken left others fulfilled _ scanned => ?_
  obtain ⟨-, nonempty⟩ := scans.splits _ taken left scanned
  refine ⟨fun isMarked => scans.whole taken left isMarked.1 scanned, fun plain =>
    lasting taken left others fulfilled nonempty ?_ plain⟩
  intro same
  rw [same, scans.noOpening] at scanned
  contradiction

theorem IsSteady.lexeme (steady : IsSteady outlook) {scan : Scanner} (scans : ScansTokens scan)
    {stance next : Stance}
    (admits : ∀ taken left, scan (taken ++ left) = some (taken, left) →
      stance.Admits (taken ++ left) ∧ stance.behind taken = next) :
    Respects (outlook stance) (lexeme scan) (outlook next) := by
  refine .lexeme scans.toStaysInside fun taken left others fulfilled _ scanned => ?_
  obtain ⟨-, nonempty⟩ := scans.splits _ taken left scanned
  obtain ⟨admitted, behind⟩ := admits taken left scanned
  refine ⟨fun isMarked => scans.whole taken left isMarked.1 scanned, fun plain => ?_⟩
  rw [← behind]
  exact steady stance taken left others fulfilled nonempty admitted
    (fun _ isFullIri => scans.whole taken left isFullIri scanned) plain

/-- A token that is an operand or begins one, and can end it. -/
theorem IsSteady.lexeme_ends (steady : IsSteady outlook) {scan : Scanner} (scans : ScansTokens scan)
    (refuses : RefusesDividers scan)
    (ends : ∀ text taken left, scan text = some (taken, left) → opensOperand taken = false) :
    Respects (outlook .opens) (Grammar.lexeme scan) (outlook .ends) :=
  steady.lexeme scans fun taken left scanned =>
    ⟨refuses.not_mem scanned, by simp [Stance.behind, ends _ taken left scanned]⟩

/-! ## Symbols and keywords -/

/-- The text begins with no quote, no opening bracket and no angle bracket, and holds no blank. -/
def isSymbol (text : String) : Bool :=
  text.toList.head?.any (fun c => !(isQuote c || c == '(' || c == '<')) &&
    text.toList.all fun c => !isLayoutBlank c

theorem scansTokens_exactly {text : String} (isSymbol : isSymbol text = true) :
    ScansTokens (exactly text.toList) := by
  rw [Grammar.isSymbol, Bool.and_eq_true] at isSymbol
  obtain ⟨front, solid⟩ := isSymbol
  generalize text.toList = token at front solid
  cases token with
  | nil => contradiction
  | cons c token =>
      simp only [List.head?_cons, Option.any_some, Bool.not_eq_true', Bool.or_eq_false_iff,
        beq_eq_false_iff_ne] at front
      obtain ⟨⟨noQuote, noOpening⟩, noAngle⟩ := front
      exact (exactly_staysInside noQuote solid).scansTokens (exactly_eq_none token [] noOpening)
        fun rest => exactly_eq_none token rest noAngle

theorem IsLasting.symbol (lasting : IsLasting always) {text : String}
    (isSymbol : isSymbol text = true) : Respects always (symbol text) always :=
  (lasting.lexeme (scansTokens_exactly isSymbol)).bind fun _ => .pure ()

def isSign (text : String) : Bool :=
  isSymbol text && continuesOperand text.toList && opensOperand text.toList

theorem continuesOperand_of_exactly {token word : List Char} {found : List Char × List Char}
    (continues : continuesOperand token = true) (scanned : exactly token word = some found) :
    continuesOperand word = true := by
  obtain ⟨taken, rest⟩ := found
  have whole := exactly_append_eq scanned
  rw [exactly_sound scanned] at whole
  cases token with
  | nil => contradiction
  | cons c token => rwa [whole]

theorem IsSteady.symbol (steady : IsSteady outlook) {text : String} (isSign : isSign text = true)
    (stance : Stance) : Respects (outlook stance) (symbol text) (outlook .opens) := by
  simp only [Grammar.isSign, Bool.and_eq_true] at isSign
  obtain ⟨⟨isSymbol, continues⟩, opens⟩ := isSign
  refine (steady.lexeme (scansTokens_exactly isSymbol) fun taken left scanned => ?_).bind
    fun _ => .pure ()
  have goesOn := continuesOperand_of_exactly continues scanned
  obtain rfl := exactly_sound scanned
  cases stance with
  | opens => exact ⟨not_mem_dividers_of_continuesOperand goesOn, by simp [Stance.behind, opens]⟩
  | ends => exact ⟨goesOn, by simp [Stance.behind, opens]⟩

/-- Folding makes no letter of a sign. -/
def IsTame (fold : Char → Char) : Prop :=
  AvoidsSigns (foldsToIdentifier fold)

theorem isTame_id : IsTame id := by
  show AvoidsSigns (foldsToIdentifier id)
  decide

theorem isTame_capital : IsTame capital := by
  show AvoidsSigns (foldsToIdentifier capital)
  decide

theorem SameNeighbour.isBoundary_eq {one other : Option Char} (same : SameNeighbour one other)
    {fold : Char → Char} (tame : IsTame fold) : isBoundary fold one = isBoundary fold other := by
  have free : ∀ {neighbour : Option Char}, neighbour.all isLayoutBlank = true →
      isBoundary fold neighbour = true := by
    intro neighbour blank
    cases neighbour with
    | none => rfl
    | some c =>
        have outside : foldsToIdentifier fold c = false := tame.noBlank.eq_false blank
        simpa [isBoundary, foldsToIdentifier] using outside
  rcases same with rfl | ⟨blank, blankToo⟩
  · rfl
  · rw [free blank, free blankToo]

theorem foldedWord_eq {fold : Char → Char} {word : String} (isKeyword : IsKeyword fold word)
    (place : Cursor) :
    foldedWord fold word place =
      if isBoundary fold place.skipLayout.before = true then
        (Grammar.lexeme (scanRun (foldsToIdentifier fold)) place).andThen fun token next =>
          if token.map fold = word.toList then .matched () next else .missed
      else .missed := by
  obtain ⟨nonempty, isWord, -⟩ := isKeyword
  rw [foldedWord_apply isWord]
  by_cases boundary : isBoundary fold place.skipLayout.before = true
  · simp only [boundary, true_and, if_true, Grammar.lexeme, scanRun]
    by_cases empty : place.skipLayout.rest.takeWhile (foldsToIdentifier fold) = []
    · simp [empty, nonempty.symm, Outcome.andThen]
    · simp [empty, Outcome.andThen]
  · simp [boundary]

theorem scansTokens_scanRun {belongs : Char → Bool} (avoids : AvoidsSigns belongs) :
    ScansTokens (scanRun belongs) := by
  refine (scanRun_staysInside avoids.noBlank avoids.noQuote).scansTokens ?_ fun rest => ?_
  · simp [scanRun, avoids.eq_false (c := '(') (by decide)]
  · simp [scanRun, avoids.eq_false (c := '<') (by decide)]

theorem refusesDividers_scanRun {belongs : Char → Bool} (avoids : AvoidsSigns belongs) :
    RefusesDividers (scanRun belongs) := by
  have areSigns : ∀ word ∈ dividers, ∃ c ∈ signs, word = [c] := by simp [dividers, signs]
  rw [RefusesDividers, List.all_eq_true]
  intro word divider
  obtain ⟨c, sign, rfl⟩ := areSigns word divider
  simp [scanRun, avoids.eq_false sign]

theorem endsOperand_scanRun {belongs : Char → Bool} (avoids : AvoidsSigns belongs)
    (text taken left : List Char) (scanned : scanRun belongs text = some (taken, left)) :
    opensOperand taken = false := by
  obtain ⟨-, nonempty, inside⟩ := scanRun_sound scanned
  exact avoids.endsOperand (List.getLast?_eq_some_getLast nonempty)
    (inside _ (List.getLast_mem nonempty))

theorem IsSteady.foldedWord (steady : IsSteady outlook) {fold : Char → Char} {word : String}
    (tame : IsTame fold) (isKeyword : IsKeyword fold word) :
    Respects (outlook .opens) (foldedWord fold word) (outlook .ends) := by
  intro place again alike
  have run : Respects (outlook .opens) (Grammar.lexeme (scanRun (foldsToIdentifier fold)))
      (outlook .ends) :=
    steady.lexeme_ends (scansTokens_scanRun tame) (refusesDividers_scanRun tame)
      (endsOperand_scanRun tame)
  let check : List Char → Cursor → Outcome Unit := fun token next =>
    if token.map fold = word.toList then .matched () next else .missed
  have checked : ∀ token next later, Alike (outlook .ends) next later →
      SameOutcome (outlook .ends) (check token next) (check token later) := by
    intro token next later alike
    simp only [check]
    split
    · exact .matched alike
    · exact .missed
  have same := (run place again alike).andThen checked
  obtain ⟨words, -, face⟩ := alike
  rw [foldedWord_eq isKeyword, foldedWord_eq isKeyword]
  cases words with
  | nil =>
      have missed : ∀ place : Cursor, place.skipLayout.rest = [] →
          Grammar.lexeme (scanRun (foldsToIdentifier fold)) place = .missed := by
        intro place ended
        simp [Grammar.lexeme, ended, scanRun]
      rw [missed place face.ahead_nil.1, missed again face.ahead_nil.2]
      simp only [Outcome.andThen, ite_self]
      exact .missed
  | cons word others =>
      rw [(face.neighbour (List.cons_ne_nil word others)).isBoundary_eq tame]
      split
      · exact same
      · exact .missed

theorem IsSteady.keyword (steady : IsSteady outlook) {word : String}
    (isKeyword : IsKeyword id word) :
    Respects (outlook .opens) (keyword word) (outlook .ends) :=
  steady.foldedWord isTame_id isKeyword

theorem IsSteady.caselessKeyword (steady : IsSteady outlook) {word : String}
    (isKeyword : IsKeyword capital word) :
    Respects (outlook .opens) (caselessKeyword word) (outlook .ends) :=
  steady.foldedWord isTame_capital isKeyword

/-! ## Names -/

theorem scansTokens_scanIriRef : ScansTokens scanIriRef where
  toStaysInside := scanIriRef_staysInside
  noOpening := rfl
  whole taken left isFullIri scanned := by
    rw [IsFullIri, scanned] at isFullIri
    exact (Prod.mk.inj (Option.some.inj isFullIri)).2

theorem endsOperand_scanIriRef (text taken left : List Char)
    (scanned : scanIriRef text = some (taken, left)) : opensOperand taken = false := by
  obtain ⟨value, -, rfl, -⟩ := scanIriRef_angled_sound scanned
  have last : (angled value).getLast? = some '>' := by simp [angled, List.getLast?_cons]
  exact opensOperand_eq_false last (by decide) (by simp [angled]) (by simp [angled])

theorem scansTokens_scanPrefixLabel : ScansTokens scanPrefixLabel :=
  scanPrefixLabel_staysInside.scansTokens rfl fun _ => rfl

theorem scansTokens_scanPrefixedName : ScansTokens scanPrefixedName :=
  scanPrefixedName_staysInside.scansTokens rfl fun _ => rfl

theorem endsOperand_scanPrefixedName (text taken left : List Char)
    (scanned : scanPrefixedName text = some (taken, left)) : opensOperand taken = false := by
  obtain ⟨label, localPart, -, isLocal, rfl, -⟩ := scanPrefixedName_sound scanned
  have colon : ':' ∈ colonJoined label localPart := by simp [colonJoined]
  have alone : ∀ {c : Char}, c ≠ ':' → colonJoined label localPart ≠ [c] := by
    intro c different same
    rw [same, List.mem_singleton] at colon
    exact different colon.symm
  cases localPart' : localPart.toList.getLast? with
  | none =>
      have last : (colonJoined label localPart).getLast? = some ':' := by
        simp [colonJoined, List.getLast?_cons, localPart']
      exact opensOperand_eq_false last (by decide) (alone (by decide)) (alone (by decide))
  | some c =>
      have last : (colonJoined label localPart).getLast? = some c := by
        simp [colonJoined, List.getLast?_cons, localPart']
      have inside := isLocal.2.1 c (List.mem_of_getLast? localPart')
      exact opensOperand_eq_false last (not_mem_openers (by decide) inside) (alone (by decide))
        (alone (by decide))

theorem IsSteady.iriRef (steady : IsSteady outlook) :
    Respects (outlook .opens) iriRef (outlook .ends) :=
  (steady.lexeme_ends scansTokens_scanIriRef (by decide) endsOperand_scanIriRef).bind
    fun _ => .pure _

theorem IsLasting.prefixLabel (lasting : IsLasting always) : Respects always prefixLabel always :=
  (lasting.lexeme scansTokens_scanPrefixLabel).bind fun _ => .pure _

theorem IsSteady.iri (steady : IsSteady outlook) :
    Respects (outlook .opens) iri (outlook .ends) := by
  refine .firstOf ?_
  simp only [List.forall_mem_cons]
  refine ⟨steady.iriRef.bind fun _ => .pure _, ?_, by simp⟩
  exact (steady.lexeme_ends scansTokens_scanPrefixedName (by decide)
    endsOperand_scanPrefixedName).bind fun _ => .pure _

/-! ## Literals -/

theorem endsOperand_of_isQuoted {word : List Char} (isQuoted : IsQuoted word) :
    opensOperand word = false ∧ word ∉ dividers := by
  obtain ⟨c, last, quote⟩ := isQuoted.exists_last
  have alone : ∀ {d : Char}, isQuote d = false → word ≠ [d] := by
    rintro d noQuote rfl
    obtain rfl : d = c := Option.some.inj last
    rw [quote] at noQuote
    contradiction
  refine ⟨opensOperand_eq_false last (not_mem_openers (by decide) quote) (alone rfl) (alone rfl),
    ?_⟩
  simp only [dividers, List.mem_cons, List.not_mem_nil, or_false, not_or]
  exact ⟨alone rfl, alone rfl, alone rfl, alone rfl, alone rfl, alone rfl⟩

theorem IsSteady.quotedText (steady : IsSteady outlook) :
    Respects (outlook .opens) quotedText (outlook .ends) := by
  rintro place again ⟨words, fulfilled, face⟩
  rw [quotedText_apply, quotedText_apply]
  cases words with
  | nil =>
      obtain ⟨here, there⟩ := face.ahead_nil
      have nothing : firstQuoted [] = none := firstQuoted_of_stops rfl
      simp only [here, there, nothing]
      exact .missed
  | cons word others =>
      obtain ⟨before, before', rest, other, goOn, skipped, skipped'⟩ := face.ahead_cons
      have isWord := face.areWords word List.mem_cons_self
      rcases isWord.quoted_or_unquoted with isQuoted | stops
      · obtain ⟨style, body, found⟩ := isQuoted.exists_firstQuoted
        simp only [skipped, skipped', found _ goOn.endsHere, found _ goOn.endsThere]
        obtain ⟨closed, noDivider⟩ := endsOperand_of_isQuoted isQuoted
        rw [← List.append_nil word] at noDivider
        rw [← List.append_nil word] at fulfilled
        have next := steady .opens word [] others fulfilled isWord.ne_nil noDivider
          (fun _ _ => rfl) (by simp)
        rw [Stance.behind, closed] at next
        cases unescape body with
        | ok text => exact .matched ⟨others, next, goOn.behind⟩
        | error error => exact .aborted
      · have noString : ∀ rest, firstQuoted (word ++ rest) = none := by
          intro rest
          refine firstQuoted_of_stops ?_
          obtain ⟨c, more, rfl, -⟩ := isWord.exists_front
          exact Stops.cons_iff.2 (Stops.cons_iff.1 stops)
        simp only [skipped, skipped', noString]
        exact .missed

theorem endsOperand_scanLanguageTag (text taken left : List Char)
    (scanned : scanLanguageTag text = some (taken, left)) : opensOperand taken = false := by
  obtain ⟨-, long, inside⟩ := scanLanguageTag_append_eq scanned
  have nonempty : taken ≠ [] := by
    rintro rfl
    contradiction
  have alone : ∀ {c : Char}, taken ≠ [c] := by
    rintro c rfl
    contradiction
  have noOpener : taken.getLast nonempty ∉ openers := by
    rcases inside _ (List.getLast_mem nonempty) with same | tagChar
    · rw [same]
      decide
    · exact not_mem_openers (by decide) tagChar
  exact opensOperand_eq_false (List.getLast?_eq_some_getLast nonempty) noOpener alone alone

theorem continuesOperand_of_scanLanguageTag {text : List Char} {found : List Char × List Char}
    (scanned : scanLanguageTag text = some found) : continuesOperand text = true := by
  unfold scanLanguageTag at scanned
  split at scanned
  · rfl
  · contradiction

theorem IsSteady.literalSuffix (steady : IsSteady outlook) :
    Respects (outlook .ends) literalSuffix (outlook .ends) := by
  have tag : ScansTokens scanLanguageTag := scanLanguageTag_staysInside.scansTokens rfl fun _ => rfl
  refine .firstOf ?_
  simp only [List.forall_mem_cons]
  refine ⟨?_, ?_, by simp⟩
  · refine ((steady.lexeme tag fun taken left scanned => ?_).bind fun _ => .pure _).map _
    have noSign : taken ≠ ['<', '>'] := by
      rintro rfl
      obtain ⟨-, -, inside⟩ := scanLanguageTag_append_eq scanned
      exact absurd (inside '<' List.mem_cons_self) (by decide)
    exact ⟨continuesOperand_of_scanLanguageTag scanned,
      by simp [Stance.behind, noSign, endsOperand_scanLanguageTag _ taken left scanned]⟩
  · exact ((steady.symbol (by decide) .ends).bind fun _ => steady.iri).map _

theorem avoidsSigns_isDecimalDigit : AvoidsSigns isDecimalDigit := by
  rw [AvoidsSigns, List.all_eq_true]
  intro c sign
  have low : ∀ c ∈ signs, c.toNat < 0x660 ∧ (c.toNat < 0x30 ∨ 0x39 < c.toNat) := by
    simp [signs]
  rw [isDecimalDigit_of_low (low c sign).1 (low c sign).2]
  rfl

theorem IsSteady.numberText (steady : IsSteady outlook) {scan : Scanner}
    (known : scan ∈ [scanDouble, scanDecimal, scanInteger]) :
    Respects (outlook .opens) (numberText scan) (outlook .ends) := by
  have none_of : ∀ text, Stops isNumberFront text → scan text = none := by
    intro text stops
    obtain ⟨noDouble, noDecimal, noInteger⟩ := scans_of_stops stops
    simp only [List.mem_cons, List.not_mem_nil, or_false] at known
    rcases known with rfl | rfl | rfl <;> assumption
  have scans : ScansTokens scan :=
    (number_staysInside known).scansTokens (none_of _ (Stops.cons_iff.2 (by decide))) fun rest =>
      none_of _ (Stops.cons_iff.2 (by decide))
  have refuses : RefusesDividers scan := by
    simp only [List.mem_cons, List.not_mem_nil, or_false] at known
    rcases known with rfl | rfl | rfl <;> decide
  refine (steady.lexeme_ends scans refuses fun text taken left scanned => ?_).bind
    fun _ => .pure _
  obtain ⟨-, c, last, digit⟩ := number_sound known scanned
  exact avoidsSigns_isDecimalDigit.endsOperand last digit

end Steady

/-! ## At the end of the text -/

theorem lexeme_missesEnd {scan : Scanner} (nothing : scan [] = none) : MissesEnd (lexeme scan) := by
  intro place ended
  simp only [lexeme, ended, nothing]

theorem symbol_missesEnd {token : String} (nonempty : token.toList ≠ []) :
    MissesEnd (symbol token) := by
  refine (lexeme_missesEnd ?_).bind _
  obtain ⟨c, more, same⟩ := List.exists_cons_of_ne_nil nonempty
  rw [same]
  rfl

theorem foldedWord_missesEnd {fold : Char → Char} {word : String} (nonempty : word.toList ≠ []) :
    MissesEnd (foldedWord fold word) := by
  intro place ended
  obtain ⟨c, more, same⟩ := List.exists_cons_of_ne_nil nonempty
  simp [foldedWord, scanFolded, ended, same]

theorem symbol_advances {token : String} (nonempty : token.toList ≠ []) : Advances (symbol token) :=
  ⟨symbol_takes nonempty, symbol_missesEnd nonempty⟩

theorem foldedWord_advances {fold : Char → Char} {word : String} (nonempty : word.toList ≠ []) :
    Advances (foldedWord fold word) :=
  ⟨foldedWord_takes nonempty, foldedWord_missesEnd nonempty⟩

theorem iri_missesEnd : MissesEnd iri := by
  refine .firstOf ?_
  simp only [List.forall_mem_cons]
  exact ⟨((lexeme_missesEnd rfl).bind _).bind _, (lexeme_missesEnd rfl).bind _, by simp⟩

theorem quotedText_missesEnd : MissesEnd quotedText := by
  intro place ended
  have nothing : firstQuoted [] = none := firstQuoted_of_stops rfl
  rw [quotedText_apply, ended, nothing]

end FactQuery.Grammar
