import FactQuery.Proofs.Layout.Terms
import FactQuery.Proofs.Token.NumberLanguage

/-!
# Tokens are words

The tokens of a grammar are its strings and the texts that one of its scanners takes whole.  Each of
them is a word, so texts that space the same tokens have the same words ahead from their starts on.
-/

set_option autoImplicit false

namespace FactQuery.Token

open FactQuery.Text FactQuery.Grammar FactQuery.Number

/-- The text is a string, or one of the scanners takes all of it. -/
def IsToken (scanners : List Scanner) (token : List Char) : Prop :=
  IsQuoted token ∨ ∃ scan ∈ scanners, scan token = some (token, [])

instance (scanners : List Scanner) (token : List Char) : Decidable (IsToken scanners token) :=
  inferInstanceAs (Decidable (_ ∨ _))

def ScansWords (scan : Scanner) : Prop :=
  ∀ text token rest, scan text = some (token, rest) → IsWord token

theorem IsToken.isWord {scanners : List Scanner} {token : List Char}
    (isToken : IsToken scanners token) (each : ∀ scan ∈ scanners, ScansWords scan) :
    IsWord token := by
  rcases isToken with isQuoted | ⟨scan, known, scanned⟩
  · exact .quoted isQuoted
  · exact each scan known token token [] scanned

theorem isWord_of_class {belongs : Char → Bool} (isPlainClass : IsPlainClass belongs)
    {token : List Char} (nonempty : token ≠ []) (inside : ∀ c ∈ token, belongs c = true) :
    IsWord token :=
  .plain ⟨nonempty, fun c found => isPlainClass.isPlainChar (inside c found)⟩

/-! ## Names -/

theorem scanIriRef_scansWords : ScansWords scanIriRef := by
  intro text token rest scanned
  obtain ⟨value, isText, rfl, -⟩ := scanIriRef_angled_sound scanned
  have whole := scanIriRef_angled isText []
  rw [List.append_nil] at whole
  cases isPlain : (angled value).all isPlainChar with
  | true => exact .plain ⟨List.cons_ne_nil _ _, List.all_eq_true.1 isPlain⟩
  | false => exact .marked ⟨whole, isPlain⟩

def isNamePart (c : Char) : Bool :=
  isLocalChar c || c == ':'

theorem isNamePart_colonJoined {label localPart : String} (isLabel : IsLabel label)
    (isLocal : IsLocal localPart) : ∀ c ∈ colonJoined label localPart, isNamePart c = true := by
  rw [colonJoined, List.forall_mem_append, List.forall_mem_cons]
  refine ⟨fun c found => ?_, rfl, fun c found => ?_⟩
  · simp [isNamePart, isLocalChar_of_isLabelChar (isLabel.2 c found)]
  · simp [isNamePart, isLocal.2.1 c found]

theorem scanPrefixedName_scansWords : ScansWords scanPrefixedName := by
  intro text token rest scanned
  obtain ⟨label, localPart, isLabel, isLocal, rfl, -⟩ := scanPrefixedName_sound scanned
  exact isWord_of_class (by decide) (by simp [colonJoined])
    (isNamePart_colonJoined isLabel isLocal)

theorem scanPrefixLabel_scansWords : ScansWords scanPrefixLabel := by
  intro text token rest scanned
  obtain ⟨label, isLabel, rfl, -⟩ := scanPrefixLabel_sound scanned
  have isLocal : IsLocal "" := by decide
  exact isWord_of_class (by decide) (by simp) (isNamePart_colonJoined isLabel isLocal)

theorem scanLanguageTag_scansWords : ScansWords scanLanguageTag := by
  intro text token rest scanned
  obtain ⟨-, long, inside⟩ := scanLanguageTag_append_eq scanned
  have plain : IsPlainClass fun c => c == '@' || isTagChar c := by decide
  refine isWord_of_class plain ?_ fun c found => by simpa using inside c found
  rintro rfl
  contradiction

/-! ## Numbers -/

def isNumberPart (c : Char) : Bool :=
  isDecimalDigit c || c == '+' || c == '-' || c == '.' || c == 'e' || c == 'E'

theorem isNumberPart_numeral {numeral : Numeral} (shorthand : numeral.IsShorthand) :
    ∀ c ∈ numeral.written, isNumberPart c = true :=
  shorthand.forall_mem (fun c digit => by simp [isNumberPart, digit]) (by simp [isNumberPart])

theorem number_scansWords {scan : Scanner} (known : scan ∈ [scanDouble, scanDecimal, scanInteger]) :
    ScansWords scan := by
  intro text token rest scanned
  obtain ⟨-, c, last, -⟩ := number_sound known scanned
  obtain ⟨numeral, shorthand, rfl⟩ := exists_numeral_of_scan known scanned
  have nonempty : numeral.written ≠ [] := by
    intro empty
    rw [empty] at last
    cases last
  exact isWord_of_class (by decide : IsPlainClass isNumberPart) nonempty
    (isNumberPart_numeral shorthand)

/-! ## Symbols and words -/

def isWordText (text : String) : Bool :=
  text == "(" || text == ")" || (!text.toList.isEmpty && text.toList.all isPlainChar)

theorem isWord_of_isWordText {text : String} (isWordText : isWordText text = true) :
    IsWord text.toList := by
  simp only [Token.isWordText, Bool.or_eq_true, Bool.and_eq_true, beq_iff_eq, Bool.not_eq_true',
    List.isEmpty_eq_false_iff, List.all_eq_true] at isWordText
  rcases isWordText with (rfl | rfl) | ⟨nonempty, isPlain⟩
  · exact .opening
  · exact .closing
  · exact .plain ⟨nonempty, isPlain⟩

theorem exactly_scansWords {text : String} (isWordText : isWordText text = true) :
    ScansWords (exactly text.toList) := by
  intro _ token rest scanned
  rw [exactly_sound scanned]
  exact isWord_of_isWordText isWordText

theorem scanFolded_scansWords {fold : Char → Char} {word : String}
    (isPlainClass : IsPlainClass (foldsToIdentifier fold)) (isKeyword : IsKeyword fold word) :
    ScansWords (scanFolded fold word.toList) := by
  intro text token rest scanned
  simp only [scanFolded] at scanned
  split at scanned
  · rename_i folded
    obtain ⟨rfl, -⟩ := Prod.mk.inj (Option.some.inj scanned)
    have same := beq_iff_eq.1 folded
    refine isWord_of_class isPlainClass ?_ fun c found => ?_
    · intro empty
      rw [empty] at same
      exact isKeyword.1 same.symm
    · exact isKeyword.2.1 (fold c) (same ▸ List.mem_map_of_mem found)
  · cases scanned

theorem scanRun_scansWords {belongs : Char → Bool} (isPlainClass : IsPlainClass belongs) :
    ScansWords (scanRun belongs) := by
  intro text token rest scanned
  obtain ⟨-, nonempty, inside⟩ := scanRun_sound scanned
  exact isWord_of_class isPlainClass nonempty inside

theorem scanWord_scansWords {starts continues : Char → Bool}
    (isPlainClass : IsPlainClass fun c => starts c || continues c) :
    ScansWords (scanWord starts continues) := by
  intro text token rest scanned
  obtain ⟨-, c, more, rfl, start, inside⟩ := scanWord_sound scanned
  refine isWord_of_class isPlainClass (List.cons_ne_nil c more) ?_
  rw [List.forall_mem_cons]
  exact ⟨by simp [start], fun d found => by simp [inside d found]⟩

/-! ## The tokens of a grammar -/

/-- The scanners of names and numbers, the symbols, the keywords as they are written and those in
either case, given in capitals. -/
def tokenScanners (others : List Scanner) (symbols keywords caseless : List String) :
    List Scanner :=
  others ++ symbols.map (fun text => exactly text.toList) ++
    keywords.map (fun word => scanFolded id word.toList) ++
    caseless.map fun word => scanFolded capital word.toList

theorem tokenScanners_scanWords {others : List Scanner} {symbols keywords caseless : List String}
    (areOthers : ∀ scan ∈ others, ScansWords scan)
    (areSymbols : ∀ text ∈ symbols, isWordText text = true)
    (areKeywords : ∀ word ∈ keywords, IsKeyword id word)
    (areCaseless : ∀ word ∈ caseless, IsKeyword capital word) :
    ∀ scan ∈ tokenScanners others symbols keywords caseless, ScansWords scan := by
  intro scan known
  simp only [tokenScanners, List.mem_append, List.mem_map] at known
  rcases known with ((known | ⟨text, known, rfl⟩) | ⟨word, known, rfl⟩) | ⟨word, known, rfl⟩
  · exact areOthers scan known
  · exact exactly_scansWords (areSymbols text known)
  · exact scanFolded_scansWords (by decide) (areKeywords word known)
  · exact scanFolded_scansWords (by decide) (areCaseless word known)

theorem IsWord.tab_not_mem {word : List Char} (isWord : IsWord word)
    (quoted : IsQuoted word → '\t' ∉ word) : '\t' ∉ word := by
  cases isWord with
  | plain isPlain =>
      intro inside
      exact absurd (isPlain.isPlainChar _ inside) (by decide)
  | opening => decide
  | closing => decide
  | quoted isQuoted => exact quoted isQuoted
  | marked isMarked =>
      obtain ⟨value, isText, rfl, -⟩ := scanIriRef_angled_sound isMarked.1
      exact tab_not_mem_angled isText

end FactQuery.Token

namespace FactQuery.Turtle

open FactQuery.Text FactQuery.Grammar FactQuery.Token

theorem scanBlankLabel_scansWords : ScansWords scanBlankLabel := by
  intro text token rest scanned
  unfold scanBlankLabel at scanned
  split at scanned
  · rename_i behind
    simp only at scanned
    split at scanned
    · cases scanned
    · obtain ⟨rfl, rfl⟩ := Prod.mk.inj (Option.some.inj scanned)
      have isLocal := (splitLocal_sound behind).1.2.1
      rw [String.toList_ofList] at isLocal
      refine isWord_of_class (by decide : IsPlainClass isNamePart) (List.cons_ne_nil _ _) ?_
      simp only [List.forall_mem_cons]
      exact ⟨rfl, rfl, fun c found => by simp [isNamePart, isLocal c found]⟩
  · cases scanned

/-- What the tokens of Turtle are, apart from strings. -/
def scanners : List Scanner :=
  tokenScanners
    [scanIriRef, scanPrefixLabel, scanPrefixedName, scanBlankLabel, scanLanguageTag, scanDouble,
      scanDecimal, scanInteger]
    ["@prefix", "@base", ".", ";", ",", "[", "]", "^^"] ["a", "true", "false"] ["PREFIX", "BASE"]

theorem scanners_scanWords : ∀ scan ∈ scanners, ScansWords scan := by
  refine tokenScanners_scanWords ?_ (by decide) (by decide) (by decide)
  simp only [List.forall_mem_cons]
  exact ⟨scanIriRef_scansWords, scanPrefixLabel_scansWords, scanPrefixedName_scansWords,
    scanBlankLabel_scansWords, scanLanguageTag_scansWords, number_scansWords (by simp),
    number_scansWords (by simp), number_scansWords (by simp), by simp⟩

end FactQuery.Turtle

namespace FactQuery.Sparql

open FactQuery.Text FactQuery.Grammar FactQuery.Token

theorem scanVariable_scansWords : ScansWords scanVariable := by
  intro text token rest scanned
  cases text with
  | nil => cases scanned
  | cons mark behind =>
      rw [scanVariable] at scanned
      split at scanned
      · rename_i isMark
        obtain ⟨⟨name, last⟩, found, same⟩ := Option.map_eq_some_iff.1 scanned
        obtain ⟨rfl, rfl⟩ := Prod.mk.inj same
        obtain ⟨-, c, more, rfl, start, inside⟩ := scanWord_sound found
        have plain :
            IsPlainClass fun c => (c == '?' || c == '$') || isNameStart c || isNameChar c := by
          decide
        refine isWord_of_class plain (List.cons_ne_nil _ _) ?_
        simp only [List.forall_mem_cons]
        exact ⟨by simp [isMark], by simp [start], fun d known => by simp [inside d known]⟩
      · cases scanned

theorem scanBlankNode_scansWords : ScansWords scanBlankNode := by
  intro text token rest scanned
  unfold scanBlankNode at scanned
  split at scanned
  · obtain ⟨⟨label, last⟩, found, same⟩ := Option.map_eq_some_iff.1 scanned
    obtain ⟨rfl, rfl⟩ := Prod.mk.inj same
    obtain ⟨-, -, inside⟩ := scanRun_sound found
    have plain : IsPlainClass fun c => isNameChar c || c == ':' := by decide
    refine isWord_of_class plain (List.cons_ne_nil _ _) ?_
    simp only [List.forall_mem_cons]
    exact ⟨rfl, rfl, fun c known => by simp [inside c known]⟩
  · cases scanned

/-- What the tokens of queries are, apart from strings. -/
def scanners : List Scanner :=
  tokenScanners
    [scanVariable, scanIriRef, scanPrefixLabel, scanPrefixedName, scanBlankNode, scanLanguageTag,
      scanDouble, scanDecimal, scanInteger, scanRun Char.isDigit, scanWord Char.isAlpha isNameChar]
    ["\x7b", "\x7d", "(", ")", ".", ";", ",", "*", "/", "+", "-", "^^", "<=", ">=", "!=", "<>", "==",
      "=", "<", ">", "!", "&&", "||"]
    ["a"]
    ["PREFIX", "SELECT", "DISTINCT", "ASK", "WHERE", "FILTER", "OPTIONAL", "UNION", "ORDER", "BY",
      "ASC", "DESC", "LIMIT", "OFFSET", "TRUE", "FALSE"]

theorem scanners_scanWords : ∀ scan ∈ scanners, ScansWords scan := by
  refine tokenScanners_scanWords ?_ (by decide) (by decide) (by decide)
  simp only [List.forall_mem_cons]
  exact ⟨scanVariable_scansWords, scanIriRef_scansWords, scanPrefixLabel_scansWords,
    scanPrefixedName_scansWords, scanBlankNode_scansWords, scanLanguageTag_scansWords,
    number_scansWords (by simp), number_scansWords (by simp), number_scansWords (by simp),
    scanRun_scansWords (by decide), scanWord_scansWords (by decide), by simp⟩

end FactQuery.Sparql
