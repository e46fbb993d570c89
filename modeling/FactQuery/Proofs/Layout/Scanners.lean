import FactQuery.Proofs.Layout.Words
import FactQuery.Proofs.Token.Progress
import FactQuery.Sparql.Grammar
import FactQuery.Turtle.Grammar

/-!
# No token goes past its layout

What a scanner does on a word is the same whatever stands behind the word, if a token may end there.
-/

set_option autoImplicit false

namespace FactQuery.Grammar

open FactQuery.Text FactQuery.Token FactQuery.Number

/-- A scanner that refuses strings and treats a word by itself. -/
structure StaysInside (scan : Scanner) : Prop where
  noQuote : ∀ c rest, isQuote c = true → scan (c :: rest) = none
  splits : ∀ text token rest, scan text = some (token, rest) → text = token ++ rest ∧ token ≠ []
  ahead : ∀ word rest, EndsToken rest →
    scan (word ++ rest) = (scan word).map fun found => (found.1, found.2 ++ rest)

/-! ## Where tokens end -/

theorem EndsToken.nil_or_blank {rest : List Char} (ends : EndsToken rest) :
    rest = [] ∨ ∃ c more, rest = c :: more ∧ isLayoutBlank c = true := by
  cases rest with
  | nil => exact Or.inl rfl
  | cons c more => exact Or.inr ⟨c, more, rfl, EndsToken.cons_iff.1 ends⟩

def NoBlank (belongs : Char → Bool) : Prop :=
  ([' ', '\t', '\n', '\r'].all fun c => !belongs c) = true

instance (belongs : Char → Bool) : Decidable (NoBlank belongs) :=
  inferInstanceAs (Decidable (_ = true))

theorem NoBlank.eq_false {belongs : Char → Bool} (noBlank : NoBlank belongs) {c : Char}
    (blank : isLayoutBlank c = true) : belongs c = false := by
  simp only [NoBlank, List.all_cons, List.all_nil, Bool.and_true, Bool.and_eq_true,
    Bool.not_eq_true'] at noBlank
  simp only [isLayoutBlank, Bool.or_eq_true, beq_iff_eq] at blank
  obtain ⟨space, tab, feed, carriage⟩ := noBlank
  rcases blank with ((rfl | rfl) | rfl) | rfl <;> assumption

theorem ne_of_isLayoutBlank {c d : Char} (blank : isLayoutBlank c = true)
    (noBlank : isLayoutBlank d = false) : c ≠ d := by
  rintro rfl
  rw [blank] at noBlank
  contradiction

/-- A sign that is no blank stands at the front of a word and at that of the text it begins, or at
neither. -/
theorem EndsToken.front_cases {rest : List Char} (ends : EndsToken rest) {d : Char}
    (noBlank : isLayoutBlank d = false) (word : List Char) :
    (∃ more, word = d :: more) ∨
      ((∀ more, word ≠ d :: more) ∧ ∀ more, word ++ rest ≠ d :: more) := by
  cases word with
  | nil =>
      obtain rfl | ⟨c, more, rfl, blank⟩ := ends.nil_or_blank
      · simp
      · simp [ne_of_isLayoutBlank blank noBlank]
  | cons c word =>
      by_cases same : c = d
      · exact Or.inl ⟨word, by rw [same]⟩
      · simp [same]

section Runs

variable {belongs : Char → Bool} {rest : List Char}

theorem takeWhile_ahead (noBlank : NoBlank belongs) (ends : EndsToken rest) (word : List Char) :
    (word ++ rest).takeWhile belongs = word.takeWhile belongs := by
  have stops := ends.stops fun c blank => noBlank.eq_false blank
  induction word with
  | nil => exact stops.takeWhile_eq_nil
  | cons c word inductionHypothesis =>
      rw [List.cons_append, List.takeWhile_cons, List.takeWhile_cons, inductionHypothesis]

theorem dropWhile_ahead (noBlank : NoBlank belongs) (ends : EndsToken rest) (word : List Char) :
    (word ++ rest).dropWhile belongs = word.dropWhile belongs ++ rest := by
  have stops := ends.stops fun c blank => noBlank.eq_false blank
  induction word with
  | nil => exact stops.dropWhile_eq_self
  | cons c word inductionHypothesis =>
      rw [List.cons_append, List.dropWhile_cons, List.dropWhile_cons, inductionHypothesis]
      split <;> rfl

theorem isPrefixOf?_ahead {token : List Char} (solid : ∀ c ∈ token, isLayoutBlank c = false)
    (ends : EndsToken rest) (word : List Char) :
    token.isPrefixOf? (word ++ rest) = (token.isPrefixOf? word).map (· ++ rest) := by
  induction token generalizing word with
  | nil => simp
  | cons c token inductionHypothesis =>
      rw [List.forall_mem_cons] at solid
      cases word with
      | nil =>
          obtain rfl | ⟨d, more, rfl, blank⟩ := ends.nil_or_blank
          · rfl
          · have different := (ne_of_isLayoutBlank blank solid.1).symm
            simp [different]
      | cons d word =>
          rw [List.cons_append, isPrefixOf?_cons_cons, isPrefixOf?_cons_cons,
            inductionHypothesis solid.2]
          split <;> rfl

end Runs

/-! ## Symbols, runs and words -/

theorem exactly_append_eq {token text taken rest : List Char}
    (scanned : exactly token text = some (taken, rest)) : text = taken ++ rest := by
  obtain ⟨behind, found, same⟩ := Option.map_eq_some_iff.1 scanned
  cases same
  exact (List.isPrefixOf?_eq_some_iff_append_eq.1 found).symm

theorem exactly_staysInside {c : Char} {token : List Char} (noQuote : isQuote c = false)
    (solid : ((c :: token).all fun d => !isLayoutBlank d) = true) :
    StaysInside (exactly (c :: token)) where
  noQuote d rest quote := by
    have different : c ≠ d := by
      rintro rfl
      rw [quote] at noQuote
      contradiction
    exact exactly_eq_none token rest different
  splits text taken rest scanned := by
    refine ⟨exactly_append_eq scanned, ?_⟩
    rw [exactly_sound scanned]
    exact List.cons_ne_nil c token
  ahead word rest ends := by
    have noBlank : ∀ d ∈ c :: token, isLayoutBlank d = false :=
      fun d inside => Bool.not_eq_true' _ ▸ List.all_eq_true.1 solid d inside
    rw [exactly, exactly, isPrefixOf?_ahead noBlank ends, Option.map_map, Option.map_map]
    rfl

theorem scanRun_staysInside {belongs : Char → Bool} (noBlank : NoBlank belongs)
    (noQuote : ∀ c, isQuote c = true → belongs c = false) : StaysInside (scanRun belongs) where
  noQuote c rest quote := by simp [scanRun, noQuote c quote]
  splits text token rest scanned := by
    obtain ⟨whole, nonempty, -⟩ := scanRun_sound scanned
    exact ⟨whole, nonempty⟩
  ahead word rest ends := by
    simp only [scanRun, takeWhile_ahead noBlank ends, dropWhile_ahead noBlank ends]
    split <;> rfl

theorem scanWord_ahead {starts continues : Char → Bool} (noBlank : NoBlank starts)
    (noBlankLater : NoBlank continues) {rest : List Char} (ends : EndsToken rest)
    (word : List Char) :
    scanWord starts continues (word ++ rest) =
      (scanWord starts continues word).map fun found => (found.1, found.2 ++ rest) := by
  cases word with
  | nil =>
      obtain rfl | ⟨c, more, rfl, blank⟩ := ends.nil_or_blank
      · rfl
      · simp [scanWord, noBlank.eq_false blank]
  | cons c word =>
      rw [List.cons_append, scanWord, scanWord, takeWhile_ahead noBlankLater ends,
        dropWhile_ahead noBlankLater ends]
      split <;> rfl

theorem scanWord_staysInside {starts continues : Char → Bool} (noBlank : NoBlank starts)
    (noBlankLater : NoBlank continues) (noQuote : ∀ c, isQuote c = true → starts c = false) :
    StaysInside (scanWord starts continues) where
  noQuote c rest quote := by simp [scanWord, noQuote c quote]
  splits text token rest scanned := by
    obtain ⟨whole, c, more, rfl, -⟩ := scanWord_sound scanned
    exact ⟨whole, List.cons_ne_nil c more⟩
  ahead word rest ends := scanWord_ahead noBlank noBlankLater ends word

end FactQuery.Grammar

namespace FactQuery.Token

open FactQuery.Text FactQuery.Grammar FactQuery.Number

theorem eq_of_isQuote {c : Char} (quote : isQuote c = true) : c = '\x22' ∨ c = '\x27' := by
  simpa only [isQuote, Bool.or_eq_true, beq_iff_eq] using quote

variable {rest : List Char}

/-! ## Names -/

theorem scanIriRef_staysInside : StaysInside scanIriRef where
  noQuote c rest quote := by
    rcases eq_of_isQuote quote with rfl | rfl <;> rfl
  splits text token rest scanned := by
    obtain ⟨value, -, rfl, whole⟩ := scanIriRef_angled_sound scanned
    exact ⟨whole, List.cons_ne_nil _ _⟩
  ahead word rest ends := by
    have noBlank : NoBlank isIriChar := by decide
    obtain ⟨inside, rfl⟩ | ⟨noAngle, noAngleToo⟩ := ends.front_cases (d := '<') rfl word
    · simp only [List.cons_append, scanIriRef, takeWhile_ahead noBlank ends,
        dropWhile_ahead noBlank ends]
      obtain ⟨behind, closed⟩ | ⟨noClose, noCloseToo⟩ :=
        ends.front_cases (d := '>') rfl (inside.dropWhile isIriChar)
      · simp [closed]
      · simp
    · simp [scanIriRef]

theorem splitLabel_ahead (ends : EndsToken rest) (word : List Char) :
    splitLabel (word ++ rest) = ((splitLabel word).1, (splitLabel word).2 ++ rest) := by
  cases word with
  | nil =>
      obtain rfl | ⟨c, more, rfl, blank⟩ := ends.nil_or_blank
      · rfl
      · have noLetter : c.isAlpha = false := NoBlank.eq_false (by decide) blank
        simp [splitLabel, noLetter]
  | cons c word =>
      rw [List.cons_append, splitLabel, splitLabel, takeWhile_ahead (by decide) ends,
        dropWhile_ahead (by decide) ends]
      split <;> rfl

theorem splitLocal_ahead (ends : EndsToken rest) (word : List Char) :
    splitLocal (word ++ rest) = ((splitLocal word).1, (splitLocal word).2 ++ rest) := by
  cases word with
  | nil =>
      obtain rfl | ⟨c, more, rfl, blank⟩ := ends.nil_or_blank
      · rfl
      · have noStart : isLocalStart c = false := NoBlank.eq_false (by decide) blank
        simp [splitLocal, noStart]
  | cons c word =>
      simp only [List.cons_append, splitLocal, takeWhile_ahead (by decide : NoBlank isLocalChar) ends]
      have short : (word.takeWhile isLocalChar).length ≤ word.length :=
        (List.takeWhile_prefix isLocalChar).length_le
      split
      · rw [List.drop_append_of_le_length (by omega)]
      · rfl

theorem scanPrefixLabel_staysInside : StaysInside scanPrefixLabel where
  noQuote c rest quote := by
    rcases eq_of_isQuote quote with rfl | rfl <;> rfl
  splits text token rest scanned := by
    obtain ⟨label, -, rfl, whole⟩ := scanPrefixLabel_sound scanned
    exact ⟨whole, by simp⟩
  ahead word rest ends := by
    simp only [scanPrefixLabel, splitLabel_ahead ends]
    obtain ⟨behind, colon⟩ | ⟨noColon, noColonToo⟩ :=
      ends.front_cases (d := ':') rfl (splitLabel word).2
    · simp [colon]
    · simp

theorem scanPrefixedName_staysInside : StaysInside scanPrefixedName where
  noQuote c rest quote := by
    simp only [scanPrefixedName, scanPrefixLabel_staysInside.noQuote c rest quote]
  splits text token rest scanned := by
    obtain ⟨label, localPart, -, -, rfl, whole⟩ := scanPrefixedName_sound scanned
    exact ⟨whole, by simp [colonJoined]⟩
  ahead word rest ends := by
    simp only [scanPrefixedName, scanPrefixLabel_staysInside.ahead word rest ends]
    cases scanPrefixLabel word with
    | none => rfl
    | some found => simp [splitLocal_ahead ends]

/-! ## Tags and nodes -/

theorem splitTagParts_ahead (ends : EndsToken rest) (word : List Char) :
    splitTagParts (word ++ rest) = ((splitTagParts word).1, (splitTagParts word).2 ++ rest) := by
  have noPart : ∀ {c : Char}, isLayoutBlank c = true → c.isAlphanum = false :=
    fun blank => NoBlank.eq_false (by decide) blank
  fun_induction splitTagParts word with
  | case1 c word alphanumeric parts behind found inductionHypothesis =>
      simp [splitTagParts, alphanumeric, inductionHypothesis, found]
  | case2 c word other => simp [splitTagParts, other]
  | case3 c word notHyphen alphanumeric parts behind found inductionHypothesis =>
      have noHyphen : c ≠ '-' := by
        rintro rfl
        exact absurd alphanumeric (by decide)
      rw [List.cons_append, splitTagParts.eq_def]
      simp [noHyphen, alphanumeric, inductionHypothesis, found]
  | case4 c word notHyphen other =>
      rw [List.cons_append, splitTagParts.eq_def]
      split
      · rename_i d more same
        obtain ⟨rfl, behind⟩ := List.cons.inj same
        cases word with
        | nil =>
            obtain rfl | ⟨e, others, rfl, blank⟩ := ends.nil_or_blank
            · cases behind
            · obtain ⟨rfl, rfl⟩ := List.cons.inj behind
              simp [noPart blank]
        | cons e others => exact absurd rfl (notHyphen e others rfl)
      · rename_i d more same
        obtain ⟨rfl, rfl⟩ := List.cons.inj same
        simp [other]
      · rename_i same
        cases same
  | case5 =>
      obtain rfl | ⟨c, more, rfl, blank⟩ := ends.nil_or_blank
      · rfl
      · have noHyphen := ne_of_isLayoutBlank blank (d := '-') rfl
        rw [List.nil_append, splitTagParts.eq_def]
        simp [noHyphen, noPart blank]

theorem scanLanguageTag_append_eq {text token rest : List Char}
    (scanned : scanLanguageTag text = some (token, rest)) :
    text = token ++ rest ∧ 2 ≤ token.length ∧ ∀ c ∈ token, c = '@' ∨ isTagChar c = true := by
  unfold scanLanguageTag at scanned
  split at scanned
  case h_2 => contradiction
  case h_1 inside =>
    have whole : inside.takeWhile Char.isAlpha ++ inside.dropWhile Char.isAlpha = inside :=
      List.takeWhile_append_dropWhile
    have areLetters : ∀ c ∈ inside.takeWhile Char.isAlpha, isTagChar c = true := by
      intro c found
      have letter : c.isAlpha = true := List.all_eq_true.1 List.all_takeWhile c found
      simp [isTagChar, Char.isAlphanum, letter]
    simp only [List.isEmpty_iff] at scanned
    split at scanned
    · contradiction
    · rename_i nonempty
      have positive := List.length_pos_iff.2 nonempty
      split at scanned
      · rename_i more hyphen
        obtain ⟨rfl, rfl⟩ := Prod.mk.inj (Option.some.inj scanned)
        obtain ⟨areParts, parts⟩ := splitTagParts_sound ('-' :: more)
        refine ⟨?_, by simp only [List.length_append, List.length_cons]; omega, ?_⟩
        · rw [hyphen] at whole
          rw [List.append_assoc, parts, List.cons_append, whole]
        · rw [List.forall_mem_append, List.forall_mem_cons]
          exact ⟨⟨Or.inl rfl, fun c found => Or.inr (areLetters c found)⟩,
            fun c found => Or.inr (isTagChar_of_areTagParts areParts c found)⟩
      · obtain ⟨rfl, rfl⟩ := Prod.mk.inj (Option.some.inj scanned)
        refine ⟨by rw [List.cons_append, whole], by simp only [List.length_cons]; omega, ?_⟩
        rw [List.forall_mem_cons]
        exact ⟨Or.inl rfl, fun c found => Or.inr (areLetters c found)⟩

theorem scanLanguageTag_staysInside : StaysInside scanLanguageTag where
  noQuote c rest quote := by
    rcases eq_of_isQuote quote with rfl | rfl <;> rfl
  splits text token rest scanned := by
    obtain ⟨whole, long, -⟩ := scanLanguageTag_append_eq scanned
    refine ⟨whole, ?_⟩
    rintro rfl
    contradiction
  ahead word rest ends := by
    have noBlank : NoBlank Char.isAlpha := by decide
    obtain ⟨inside, rfl⟩ | ⟨noMark, noMarkToo⟩ := ends.front_cases (d := '@') rfl word
    · simp only [List.cons_append, scanLanguageTag, takeWhile_ahead noBlank ends,
        dropWhile_ahead noBlank ends]
      split
      · rfl
      · obtain ⟨behind, hyphen⟩ | ⟨noHyphen, noHyphenToo⟩ :=
          ends.front_cases (d := '-') rfl (inside.dropWhile Char.isAlpha)
        · have parts := splitTagParts_ahead ends ('-' :: behind)
          rw [List.cons_append] at parts
          simp [hyphen, parts]
        · simp
    · simp [scanLanguageTag]

/-! ## Numbers -/

theorem splitSign_ahead (ends : EndsToken rest) (word : List Char) :
    splitSign (word ++ rest) = ((splitSign word).1, (splitSign word).2 ++ rest) := by
  cases word with
  | nil =>
      obtain rfl | ⟨c, more, rfl, blank⟩ := ends.nil_or_blank
      · rfl
      · have noPlus := ne_of_isLayoutBlank blank (d := '+') rfl
        have noMinus := ne_of_isLayoutBlank blank (d := '-') rfl
        simp [splitSign, noPlus, noMinus]
  | cons c word =>
      rw [List.cons_append, splitSign, splitSign]
      split <;> rfl

theorem noBlank_isDecimalDigit : NoBlank isDecimalDigit := by
  have noDigit : ∀ c ∈ [' ', '\t', '\n', '\r'], isDecimalDigit c = false := by
    simp only [List.forall_mem_cons]
    exact ⟨isDecimalDigit_of_low (by decide) (by decide),
      isDecimalDigit_of_low (by decide) (by decide), isDecimalDigit_of_low (by decide) (by decide),
      isDecimalDigit_of_low (by decide) (by decide), by simp⟩
  rw [NoBlank, List.all_eq_true]
  exact fun c known => by rw [noDigit c known]; rfl

theorem mantissa_split_ahead (ends : EndsToken rest) (word : List Char) :
    Mantissa.split (word ++ rest) = ((Mantissa.split word).1, (Mantissa.split word).2 ++ rest) := by
  have digits := noBlank_isDecimalDigit
  simp only [Mantissa.split, splitSign_ahead ends, takeWhile_ahead digits ends,
    dropWhile_ahead digits ends]
  obtain ⟨behind, point⟩ | ⟨noPoint, noPointToo⟩ :=
    ends.front_cases (d := '.') rfl ((splitSign word).2.dropWhile isDecimalDigit)
  · simp [point, takeWhile_ahead digits ends, dropWhile_ahead digits ends]
  · simp

theorem exponent_split_ahead (ends : EndsToken rest) (word : List Char) :
    Exponent.split? (word ++ rest) =
      (Exponent.split? word).map fun found => (found.1, found.2 ++ rest) := by
  have digits := noBlank_isDecimalDigit
  cases word with
  | nil =>
      obtain rfl | ⟨c, more, rfl, blank⟩ := ends.nil_or_blank
      · rfl
      · have noSmall := ne_of_isLayoutBlank blank (d := 'e') rfl
        have noCapital := ne_of_isLayoutBlank blank (d := 'E') rfl
        simp [Exponent.split?, noSmall, noCapital]
  | cons c word =>
      simp only [List.cons_append, Exponent.split?, splitSign_ahead ends,
        takeWhile_ahead digits ends, dropWhile_ahead digits ends]
      split <;> rfl

theorem number_staysInside {scan : Scanner} (known : scan ∈ [scanDouble, scanDecimal, scanInteger]) :
    StaysInside scan where
  noQuote c rest quote := by
    have stops : Stops isNumberFront (c :: rest) := by
      rw [Stops.cons_iff]
      rcases eq_of_isQuote quote with rfl | rfl <;> decide
    obtain ⟨noDouble, noDecimal, noInteger⟩ := scans_of_stops stops
    simp only [List.mem_cons, List.not_mem_nil, or_false] at known
    rcases known with rfl | rfl | rfl <;> assumption
  splits text token rest scanned := by
    obtain ⟨whole, c, last, -⟩ := number_sound known scanned
    refine ⟨whole, ?_⟩
    rintro rfl
    cases last
  ahead word rest ends := by
    have digits := noBlank_isDecimalDigit
    simp only [List.mem_cons, List.not_mem_nil, or_false] at known
    rcases known with rfl | rfl | rfl
    · simp only [scanDouble, mantissa_split_ahead ends, exponent_split_ahead ends]
      split
      · rw [Option.map_map, Option.map_map]
        rfl
      · rfl
    · simp only [scanDecimal, mantissa_split_ahead ends]
      split <;> rfl
    · simp only [scanInteger, splitSign_ahead ends, takeWhile_ahead digits ends,
        dropWhile_ahead digits ends]
      split <;> rfl

end FactQuery.Token

/-! ## Tokens in two parts -/

namespace FactQuery.Grammar

open FactQuery.Token FactQuery.Sparql FactQuery.Turtle

theorem StaysInside.followed {scan front : Scanner} (behind : Scanner) (stays : StaysInside front)
    (parts : ∀ text, scan text = (front text).bind fun found =>
      (behind found.2).map fun more => (found.1 ++ more.1, more.2))
    (splits : ∀ text token rest, behind text = some (token, rest) → text = token ++ rest)
    (ahead : ∀ word rest, EndsToken rest →
      behind (word ++ rest) = (behind word).map fun found => (found.1, found.2 ++ rest)) :
    StaysInside scan where
  noQuote c rest quote := by
    rw [parts, stays.noQuote c rest quote]
    rfl
  splits text token rest scanned := by
    rw [parts] at scanned
    obtain ⟨⟨first, middle⟩, found, more⟩ := Option.bind_eq_some_iff.1 scanned
    obtain ⟨⟨second, last⟩, foundBehind, same⟩ := Option.map_eq_some_iff.1 more
    obtain ⟨rfl, rfl⟩ := Prod.mk.inj same
    obtain ⟨rfl, nonempty⟩ := stays.splits text first middle found
    rw [splits middle second _ foundBehind]
    exact ⟨(List.append_assoc _ _ _).symm, by simp [nonempty]⟩
  ahead word rest ends := by
    rw [parts, parts, stays.ahead word rest ends]
    cases front word with
    | none => rfl
    | some found =>
        simp only [Option.map_some, Option.bind_some, ahead found.2 rest ends, Option.map_map]
        rfl

theorem exactly_of_other {token text : List Char} (other : ∀ rest, text ≠ token ++ rest) :
    exactly token text = none := by
  cases scanned : exactly token text with
  | none => rfl
  | some found =>
      have whole := exactly_append_eq scanned
      rw [exactly_sound scanned] at whole
      exact absurd whole (other found.2)

theorem scanBlankNode_staysInside : StaysInside scanBlankNode := by
  have run : StaysInside (scanRun isNameChar) :=
    scanRun_staysInside (by decide) fun c quote => by
      rcases eq_of_isQuote quote with rfl | rfl <;> rfl
  have mark : StaysInside (exactly ['_', ':']) := exactly_staysInside rfl rfl
  refine mark.followed (scanRun isNameChar) (fun text => ?_)
    (fun text token rest scanned => (run.splits text token rest scanned).1) run.ahead
  unfold scanBlankNode
  split
  · simp [exactly]
  · rename_i other
    rw [exactly_of_other fun rest same => other rest same]
    rfl

theorem scanBlankLabel_staysInside : StaysInside scanBlankLabel := by
  let label : Scanner := fun text =>
    if (splitLocal text).1.isEmpty then none else some (splitLocal text)
  have mark : StaysInside (exactly ['_', ':']) := exactly_staysInside rfl rfl
  refine mark.followed label (fun text => ?_) (fun text token rest scanned => ?_)
    fun word rest ends => ?_
  · unfold scanBlankLabel
    split
    · simp only [exactly, label]
      split <;> simp_all
    · rename_i other
      rw [exactly_of_other fun rest same => other rest same]
      rfl
  · simp only [label] at scanned
    split at scanned
    · cases scanned
    · have whole := (splitLocal_sound text).2
      rw [Option.some.inj scanned] at whole
      exact whole.symm
  · simp only [label, splitLocal_ahead ends]
    split <;> rfl

theorem scanVariable_staysInside : StaysInside scanVariable := by
  let isMark : Char → Bool := fun c => c == '?' || c == '$'
  have name : StaysInside (scanWord isNameStart isNameChar) :=
    scanWord_staysInside (by decide) (by decide) fun c quote => by
      rcases eq_of_isQuote quote with rfl | rfl <;> rfl
  have mark : StaysInside (scanWord isMark fun _ => false) :=
    scanWord_staysInside (by decide) (by decide) fun c quote => by
      rcases eq_of_isQuote quote with rfl | rfl <;> rfl
  refine mark.followed (scanWord isNameStart isNameChar) (fun text => ?_)
    (fun text token rest scanned => (name.splits text token rest scanned).1) name.ahead
  cases text with
  | nil => rfl
  | cons c rest =>
      have nothing :
          rest.takeWhile (fun _ => false) = [] ∧ rest.dropWhile (fun _ => false) = rest := by
        cases rest <;> simp
      simp only [scanVariable, scanWord, nothing, isMark]
      split <;> rfl

end FactQuery.Grammar
