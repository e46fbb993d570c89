import FactQuery.Proofs.Grammar.Tokens
import FactQuery.Token.LiteralSuffix

/-!
# Reading names

Which texts are the inside of a full IRI, a label, a local part or a language tag, and that each of
them is read back from its written form, whatever stands behind it that cannot go on with it.
-/

set_option autoImplicit false

namespace FactQuery.Token

open FactQuery.Text FactQuery.Grammar

/-! ## Full IRIs -/

/-- A text that may stand in angle brackets. -/
def IsIriText (value : String) : Prop :=
  ∀ c ∈ value.toList, isIriChar c = true

instance (value : String) : Decidable (IsIriText value) :=
  decidable_of_iff (value.toList.all isIriChar = true) (by simp [IsIriText])

def angled (value : String) : List Char :=
  '<' :: (value.toList ++ ['>'])

theorem tab_not_mem_angled {value : String} (isText : IsIriText value) : '\t' ∉ angled value := by
  have inside : '\t' ∉ value.toList := not_mem_run isText (by decide)
  simp [angled, inside]

theorem scanIriRef_angled {value : String} (isText : IsIriText value) (rest : List Char) :
    scanIriRef (angled value ++ rest) = some (angled value, rest) := by
  have stops : Stops isIriChar ('>' :: rest) := rfl
  simp only [angled, List.cons_append, List.append_assoc, List.nil_append, scanIriRef,
    takeWhile_run isText stops, dropWhile_run isText stops]

theorem iriRef_reads {value : String} {gap rest : List Char} (blank : IsGap gap)
    (isText : IsIriText value) : Reads iriRef (gap ++ angled value) value rest := by
  have starts : Stops isLayoutStart (angled value ++ rest) := rfl
  have read : Reads iriRef (gap ++ angled value)
      (String.ofList ((angled value).drop 1).dropLast) rest :=
    (lexeme_reads blank starts (scanIriRef_angled isText rest)).bind_pure
  have inside : ((angled value).drop 1).dropLast = value.toList := by
    rw [angled, List.drop_succ_cons, List.drop_zero, List.dropLast_concat]
  rw [inside, String.ofList_toList] at read
  exact read

theorem iriRef_misses {gap text : List Char} (blank : IsGap gap)
    (starts : Stops isLayoutStart text) (noAngle : Stops (· == '<') text) :
    Misses iriRef (gap ++ text) := by
  have refused : scanIriRef text = none := by
    cases text with
    | nil => rfl
    | cons c rest =>
        rw [Stops.cons_iff, beq_eq_false_iff_ne] at noAngle
        simp [scanIriRef, noAngle]
  exact (lexeme_misses blank starts refused).bind

/-! ## Prefixed names -/

def IsLabel (label : String) : Prop :=
  (label.toList.head?.all Char.isAlpha) = true ∧ ∀ c ∈ label.toList, isLabelChar c = true

instance (label : String) : Decidable (IsLabel label) :=
  decidable_of_iff ((label.toList.head?.all Char.isAlpha) = true ∧
    label.toList.all isLabelChar = true) (by simp [IsLabel])

def IsLocal (localPart : String) : Prop :=
  (localPart.toList.head?.all isLocalStart) = true ∧ (∀ c ∈ localPart.toList, isLocalChar c = true) ∧
    localPart.toList.getLast? ≠ some '.'

instance (localPart : String) : Decidable (IsLocal localPart) :=
  decidable_of_iff ((localPart.toList.head?.all isLocalStart) = true ∧
    localPart.toList.all isLocalChar = true ∧ localPart.toList.getLast? ≠ some '.')
    (by simp [IsLocal])

theorem isLabelChar_of_isAlpha {c : Char} (letter : c.isAlpha = true) : isLabelChar c = true := by
  simp [isLabelChar, Char.isAlphanum, letter]

theorem isLocalChar_of_isLocalStart {c : Char} (starts : isLocalStart c = true) :
    isLocalChar c = true := by
  simp only [isLocalStart, isLocalChar, Bool.or_eq_true] at starts ⊢
  rcases starts with alphanumeric | underscore
  · simp [alphanumeric]
  · simp [underscore]

theorem splitLabel_append {label : String} {rest : List Char} (isLabel : IsLabel label)
    (stops : Stops isLabelChar rest) :
    splitLabel (label.toList ++ rest) = (label.toList, rest) := by
  obtain ⟨starts, inside⟩ := isLabel
  cases letters : label.toList with
  | nil =>
      have noLetter : Stops Char.isAlpha rest := stops.mono fun c => isLabelChar_of_isAlpha
      cases rest with
      | nil => rfl
      | cons c rest =>
          rw [Stops.cons_iff] at noLetter
          simp [splitLabel, noLetter]
  | cons c others =>
      rw [letters] at starts inside
      have letter : c.isAlpha = true := by simpa using starts
      have insideOthers : ∀ d ∈ others, isLabelChar d = true :=
        fun d found => inside d (List.mem_cons_of_mem c found)
      simp only [List.cons_append, splitLabel, letter, if_true, takeWhile_run insideOthers stops,
        dropWhile_run insideOthers stops]

theorem trailingStops_eq_zero {text : List Char} (noStop : text.getLast? ≠ some '.') :
    trailingStops text = 0 := by
  rw [trailingStops, List.length_eq_zero_iff]
  rw [← List.head?_reverse] at noStop
  cases reversed : text.reverse with
  | nil => rfl
  | cons c others =>
      have different : c ≠ '.' := fun same => noStop (by rw [reversed, same]; rfl)
      simp [different]

theorem splitLocal_append {localPart : String} {rest : List Char} (isLocal : IsLocal localPart)
    (stops : Stops isLocalChar rest) :
    splitLocal (localPart.toList ++ rest) = (localPart.toList, rest) := by
  obtain ⟨starts, inside, noStop⟩ := isLocal
  cases letters : localPart.toList with
  | nil =>
      have noStart : Stops isLocalStart rest := stops.mono fun c => isLocalChar_of_isLocalStart
      cases rest with
      | nil => rfl
      | cons c rest =>
          rw [Stops.cons_iff] at noStart
          simp [splitLocal, noStart]
  | cons c others =>
      rw [letters] at starts inside noStop
      have start : isLocalStart c = true := by simpa using starts
      have insideOthers : ∀ d ∈ others, isLocalChar d = true :=
        fun d found => inside d (List.mem_cons_of_mem c found)
      have noStopOthers : others.getLast? ≠ some '.' := by
        intro last
        apply noStop
        rw [List.getLast?_cons, last]
        rfl
      simp only [List.cons_append, splitLocal, start, if_true, takeWhile_run insideOthers stops,
        trailingStops_eq_zero noStopOthers, Nat.sub_zero, List.take_length, List.drop_left]

def colonJoined (label localPart : String) : List Char :=
  label.toList ++ ':' :: localPart.toList

theorem scanPrefixLabel_append {label : String} (isLabel : IsLabel label) (rest : List Char) :
    scanPrefixLabel (label.toList ++ ':' :: rest) = some (label.toList ++ [':'], rest) := by
  have split : splitLabel (label.toList ++ ':' :: rest) = (label.toList, ':' :: rest) :=
    splitLabel_append isLabel rfl
  simp only [scanPrefixLabel, split]

theorem scanPrefixedName_append {label localPart : String} {rest : List Char}
    (isLabel : IsLabel label)
    (ends : splitLocal (localPart.toList ++ rest) = (localPart.toList, rest)) :
    scanPrefixedName (colonJoined label localPart ++ rest) =
      some (colonJoined label localPart, rest) := by
  rw [colonJoined, List.append_assoc, List.cons_append]
  simp only [scanPrefixedName, scanPrefixLabel_append isLabel, ends, List.append_assoc,
    List.singleton_append]

theorem isLabel_no_colon {label : String} (isLabel : IsLabel label) :
    ∀ c ∈ label.toList, (c != ':') = true := by
  intro c found
  rw [bne_iff_ne]
  rintro rfl
  exact absurd (isLabel.2 ':' found) (by decide)

/-- A prefixed name is cut at its first colon. -/
theorem prefixedNameOf_colonJoined {label localPart : String} (isLabel : IsLabel label) :
    prefixedNameOf (colonJoined label localPart) = .prefixed label localPart := by
  have stops : Stops (· != ':') (':' :: localPart.toList) := rfl
  have noColon := isLabel_no_colon isLabel
  simp only [prefixedNameOf, colonJoined, takeWhile_run noColon stops,
    dropWhile_run noColon stops, List.drop_succ_cons, List.drop_zero, String.ofList_toList]

theorem isLabel_starts {label : String} (isLabel : IsLabel label) (rest : List Char) :
    Stops isLayoutStart (label.toList ++ ':' :: rest) := by
  cases letters : label.toList with
  | nil => rfl
  | cons c others =>
      have inside : isLabelChar c = true := isLabel.2 c (by simp [letters])
      rw [List.cons_append, Stops.cons_iff]
      exact isLayoutStart_eq_false (by decide) inside

theorem prefixLabel_reads {label : String} {gap rest : List Char} (blank : IsGap gap)
    (isLabel : IsLabel label) :
    Reads prefixLabel (gap ++ (label.toList ++ [':'])) label rest := by
  have starts : Stops isLayoutStart (label.toList ++ [':'] ++ rest) := by
    rw [List.append_assoc]
    exact isLabel_starts isLabel rest
  have scanned : scanPrefixLabel (label.toList ++ [':'] ++ rest) =
      some (label.toList ++ [':'], rest) := by
    rw [List.append_assoc]
    exact scanPrefixLabel_append isLabel rest
  have read : Reads prefixLabel (gap ++ (label.toList ++ [':']))
      (String.ofList (label.toList ++ [':']).dropLast) rest :=
    (lexeme_reads blank starts scanned).bind_pure
  rw [List.dropLast_concat, String.ofList_toList] at read
  exact read

theorem prefixedName_reads {label localPart : String} {gap rest : List Char} (blank : IsGap gap)
    (isLabel : IsLabel label)
    (ends : splitLocal (localPart.toList ++ rest) = (localPart.toList, rest)) :
    Reads prefixedName (gap ++ colonJoined label localPart) (.prefixed label localPart) rest := by
  have starts : Stops isLayoutStart (colonJoined label localPart ++ rest) := by
    rw [colonJoined, List.append_assoc, List.cons_append]
    exact isLabel_starts isLabel (localPart.toList ++ rest)
  have read : Reads prefixedName (gap ++ colonJoined label localPart)
      (prefixedNameOf (colonJoined label localPart)) rest :=
    (lexeme_reads blank starts (scanPrefixedName_append isLabel ends)).bind_pure
  rw [prefixedNameOf_colonJoined isLabel] at read
  exact read

/-! ## Names of resources -/

def isNameFront (c : Char) : Bool :=
  c == '<' || c.isAlpha || c == ':'

theorem scanIriRef_eq_none {text : List Char} (stops : Stops isNameFront text) :
    scanIriRef text = none := by
  cases text with
  | nil => rfl
  | cons c rest =>
      rw [Stops.cons_iff] at stops
      have different : c ≠ '<' := fun same => by simp [isNameFront, same] at stops
      simp [scanIriRef, different]

theorem scanPrefixLabel_eq_none {text : List Char} (stops : Stops isNameFront text) :
    scanPrefixLabel text = none := by
  cases text with
  | nil => rfl
  | cons c rest =>
      rw [Stops.cons_iff] at stops
      simp only [isNameFront, Bool.or_eq_false_iff, beq_eq_false_iff_ne] at stops
      obtain ⟨⟨_, noLetter⟩, noColon⟩ := stops
      simp [scanPrefixLabel, splitLabel, noLetter, noColon]

theorem iri_passes : PassesLayout iri := by
  refine PassesLayout.firstOf ?_
  simp only [List.forall_mem_cons]
  exact ⟨(lexeme_passes _).bind.bind, (lexeme_passes _).bind, by simp⟩

theorem iri_misses {gap text : List Char} (blank : IsGap gap) (starts : Stops isLayoutStart text)
    (stops : Stops isNameFront text) : Misses iri (gap ++ text) := by
  have fullMissed : Misses fullIri (gap ++ text) :=
    (lexeme_misses blank starts (scanIriRef_eq_none stops)).bind.bind
  have prefixedMissed : Misses prefixedName (gap ++ text) := by
    have refused : scanPrefixedName text = none := by
      rw [scanPrefixedName, scanPrefixLabel_eq_none stops]
    exact (lexeme_misses blank starts refused).bind
  refine Misses.firstOf fun parser found => ?_
  simp only [List.mem_cons, List.not_mem_nil, or_false] at found
  rcases found with rfl | rfl
  · exact fullMissed
  · exact prefixedMissed

theorem iri_reads_full {value : String} {gap rest : List Char} (blank : IsGap gap)
    (isText : IsIriText value) : Reads iri (gap ++ angled value) (.full value) rest :=
  Reads.firstOf_here (iriRef_reads blank isText).bind_pure

/-- A prefixed name is read up to where its local part ends. -/
theorem iri_reads_ending {label localPart : String} {gap rest : List Char} (blank : IsGap gap)
    (isLabel : IsLabel label)
    (ends : splitLocal (localPart.toList ++ rest) = (localPart.toList, rest)) :
    Reads iri (gap ++ colonJoined label localPart) (.prefixed label localPart) rest := by
  have starts : Stops isLayoutStart (colonJoined label localPart ++ rest) := by
    rw [colonJoined, List.append_assoc, List.cons_append]
    exact isLabel_starts isLabel (localPart.toList ++ rest)
  have notAngled : scanIriRef (colonJoined label localPart ++ rest) = none := by
    rw [colonJoined, List.append_assoc, List.cons_append]
    cases letters : label.toList with
    | nil => rfl
    | cons c others =>
        have inside : isLabelChar c = true := isLabel.2 c (by simp [letters])
        have different : c ≠ '<' := by
          rintro rfl
          exact absurd inside (by decide)
        simp [scanIriRef, different]
  have fullMissed : Misses fullIri (gap ++ colonJoined label localPart ++ rest) := by
    rw [List.append_assoc]
    exact (lexeme_misses blank starts notAngled).bind.bind
  exact (prefixedName_reads blank isLabel ends).firstOf_here.firstOf_later fullMissed

theorem iri_reads_prefixed {label localPart : String} {gap rest : List Char} (blank : IsGap gap)
    (isLabel : IsLabel label) (isLocal : IsLocal localPart) (stops : Stops isLocalChar rest) :
    Reads iri (gap ++ colonJoined label localPart) (.prefixed label localPart) rest :=
  iri_reads_ending blank isLabel (splitLocal_append isLocal stops)

/-! ## What has been read is well formed -/

theorem scanIriRef_angled_sound {text token rest : List Char}
    (found : scanIriRef text = some (token, rest)) :
    ∃ value, IsIriText value ∧ token = angled value ∧ text = token ++ rest := by
  unfold scanIriRef at found
  split at found
  case h_2 => contradiction
  case h_1 inside =>
    have whole : inside.takeWhile isIriChar ++ inside.dropWhile isIriChar = inside :=
      List.takeWhile_append_dropWhile
    split at found
    case h_2 => contradiction
    case h_1 behind closes =>
      obtain ⟨rfl, rfl⟩ := Prod.mk.inj (Option.some.inj found)
      refine ⟨String.ofList (inside.takeWhile isIriChar), ?_, ?_, ?_⟩
      · rw [IsIriText, String.toList_ofList]
        exact List.all_eq_true.1 List.all_takeWhile
      · rw [angled, String.toList_ofList]
        rfl
      · rw [closes] at whole
        simp [whole]

theorem scanIriRef_sound {text token rest : List Char}
    (found : scanIriRef text = some (token, rest)) :
    IsIriText (String.ofList (token.drop 1).dropLast) := by
  obtain ⟨value, isText, rfl, -⟩ := scanIriRef_angled_sound found
  have content : ((angled value).drop 1).dropLast = value.toList := by
    rw [angled, List.drop_succ_cons, List.drop_zero, List.dropLast_concat]
  rwa [content, String.ofList_toList]

theorem splitLabel_sound (text : List Char) :
    IsLabel (String.ofList (splitLabel text).1) ∧
      (splitLabel text).1 ++ (splitLabel text).2 = text := by
  cases text with
  | nil => simp [splitLabel, IsLabel]
  | cons c rest =>
      rw [splitLabel]
      split
      · rename_i letter
        have others : ∀ d ∈ rest.takeWhile isLabelChar, isLabelChar d = true :=
          List.all_eq_true.1 List.all_takeWhile
        refine ⟨⟨by simp [letter], ?_⟩, by simp⟩
        rw [String.toList_ofList, List.forall_mem_cons]
        exact ⟨isLabelChar_of_isAlpha letter, others⟩
      · simp [IsLabel]

theorem getLast?_take_trailingStops (run : List Char) :
    (run.take (run.length - trailingStops run)).getLast? ≠ some '.' := by
  have reversed : (run.take (run.length - trailingStops run)).reverse =
      run.reverse.dropWhile (· == '.') := by
    rw [List.reverse_take, trailingStops]
    have short : (run.reverse.takeWhile (· == '.')).length ≤ run.length := by
      have size := List.IsPrefix.length_le (List.takeWhile_prefix (· == '.') (l := run.reverse))
      rwa [List.length_reverse] at size
    have count : run.length - (run.length - (run.reverse.takeWhile (· == '.')).length) =
        (run.reverse.takeWhile (· == '.')).length := by omega
    rw [count, drop_takeWhile_length]
  have stops := Stops.dropWhile (· == '.') run.reverse
  rw [← reversed, Stops, List.head?_reverse] at stops
  intro last
  rw [last] at stops
  exact absurd stops (by decide)

theorem splitLocal_sound (text : List Char) :
    IsLocal (String.ofList (splitLocal text).1) ∧
      (splitLocal text).1 ++ (splitLocal text).2 = text := by
  cases text with
  | nil => simp [splitLocal, IsLocal]
  | cons c rest =>
      simp only [splitLocal]
      split
      · rename_i start
        generalize sizeIs : (rest.takeWhile isLocalChar).length -
          trailingStops (rest.takeWhile isLocalChar) = size
        have taken : (rest.takeWhile isLocalChar).take size = rest.take size := by
          rw [← take_takeWhile_length isLocalChar rest, List.take_take]
          congr 1
          omega
        have others : ∀ d ∈ (rest.takeWhile isLocalChar).take size, isLocalChar d = true :=
          fun d found => List.all_eq_true.1 List.all_takeWhile d (List.mem_of_mem_take found)
        have last := getLast?_take_trailingStops (rest.takeWhile isLocalChar)
        rw [sizeIs] at last
        refine ⟨⟨by simp [start], ?_, ?_⟩, ?_⟩
        · rw [String.toList_ofList, List.forall_mem_cons]
          exact ⟨isLocalChar_of_isLocalStart start, others⟩
        · rw [String.toList_ofList, List.getLast?_cons]
          cases ending : ((rest.takeWhile isLocalChar).take size).getLast? with
          | none =>
              intro same
              have stop : c = '.' := by simpa using same
              rw [stop] at start
              exact absurd start (by decide)
          | some d =>
              rw [ending] at last
              exact last
        · rw [List.cons_append, taken, List.take_append_drop]
      · simp [IsLocal]

theorem scanPrefixLabel_sound {text token rest : List Char}
    (found : scanPrefixLabel text = some (token, rest)) :
    ∃ label, IsLabel label ∧ token = label.toList ++ [':'] ∧ text = token ++ rest := by
  obtain ⟨isLabel, whole⟩ := splitLabel_sound text
  unfold scanPrefixLabel at found
  split at found
  case h_2 => contradiction
  case h_1 behind split =>
    obtain ⟨rfl, rfl⟩ := Prod.mk.inj (Option.some.inj found)
    refine ⟨String.ofList (splitLabel text).1, isLabel, ?_, ?_⟩
    · rw [String.toList_ofList]
    · rw [split] at whole
      rw [List.append_assoc, List.singleton_append, whole]

theorem scanPrefixedName_sound {text token rest : List Char}
    (found : scanPrefixedName text = some (token, rest)) :
    ∃ label localPart, IsLabel label ∧ IsLocal localPart ∧ token = colonJoined label localPart ∧
      text = token ++ rest := by
  unfold scanPrefixedName at found
  split at found
  case h_2 => contradiction
  case h_1 head behind scanned =>
    obtain ⟨label, isLabel, rfl, whole⟩ := scanPrefixLabel_sound scanned
    obtain ⟨isLocal, wholeBehind⟩ := splitLocal_sound behind
    obtain ⟨rfl, rfl⟩ := Prod.mk.inj (Option.some.inj found)
    refine ⟨label, String.ofList (splitLocal behind).1, isLabel, isLocal, ?_, ?_⟩
    · rw [colonJoined, String.toList_ofList, List.append_assoc, List.singleton_append]
    · rw [whole, List.append_assoc, List.append_assoc, List.append_assoc, wholeBehind]

theorem isIriChar_of_isAlphanum {c : Char} (inside : c.isAlphanum = true) : isIriChar c = true := by
  have range := toNat_of_isAlphanum inside
  have noWhite : isWhite c = false := by
    simp only [isWhite, isSeparatorControl, Bool.or_eq_false_iff, Bool.and_eq_false_iff,
      decide_eq_false_iff_not, beq_eq_false_iff_ne]
    omega
  cases letter : isIriChar c with
  | true => rfl
  | false =>
      simp only [isIriChar, noWhite, Bool.or_false, Bool.not_eq_false', Bool.or_eq_true,
        beq_iff_eq] at letter
      rcases letter with (((((((rfl | rfl) | rfl) | rfl) | rfl) | rfl) | rfl) | rfl) | rfl <;>
        exact absurd inside (by decide)

theorem isIriChar_of_isLocalChar {c : Char} (inside : isLocalChar c = true) :
    isIriChar c = true := by
  simp only [isLocalChar, Bool.or_eq_true, beq_iff_eq] at inside
  rcases inside with ((alphanumeric | rfl) | rfl) | rfl
  · exact isIriChar_of_isAlphanum alphanumeric
  · decide
  · decide
  · decide

theorem isLocalChar_of_isLabelChar {c : Char} (inside : isLabelChar c = true) :
    isLocalChar c = true := by
  simp only [isLabelChar, isLocalChar, Bool.or_eq_true, beq_iff_eq] at inside ⊢
  rcases inside with (alphanumeric | underscore) | hyphen
  · simp [alphanumeric]
  · simp [underscore]
  · simp [hyphen]

theorem isIriText_colonJoined {label localPart : String} (isLabel : IsLabel label)
    (isLocal : IsLocal localPart) : IsIriText (label ++ ":" ++ localPart) := by
  intro c found
  rw [String.toList_append, String.toList_append, List.mem_append, List.mem_append] at found
  rcases found with (inLabel | colon) | inLocal
  · exact isIriChar_of_isLocalChar (isLocalChar_of_isLabelChar (isLabel.2 c inLabel))
  · have same : c = ':' := List.mem_singleton.1 colon
    rw [same]
    decide
  · exact isIriChar_of_isLocalChar (isLocal.2.1 c inLocal)

end FactQuery.Token
