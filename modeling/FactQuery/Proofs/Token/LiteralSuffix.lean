import FactQuery.Proofs.Token.Names
import FactQuery.Proofs.Token.QuotedText

/-!
# Reading language tags and datatypes

What a quoted string carries is read back, and a text that neither `@` nor `^` begins carries
nothing.  A quoted string is read together with what it carries.
-/

set_option autoImplicit false

namespace FactQuery.Token

open FactQuery.Text FactQuery.Grammar

/-! ## Language tags -/

def isTagChar (c : Char) : Bool :=
  c.isAlphanum || c == '-'

/-- Letters, digits and hyphens, with a letter or a digit behind each hyphen. -/
def areTagParts : List Char → Bool
  | '-' :: c :: rest => c.isAlphanum && areTagParts rest
  | c :: rest => c.isAlphanum && areTagParts rest
  | [] => true

/-- Letters, and behind them nothing or parts of which a hyphen is the first character. -/
def IsTag (tag : String) : Prop :=
  ∃ letters parts : List Char, tag.toList = letters ++ parts ∧ letters ≠ [] ∧
    (∀ c ∈ letters, c.isAlpha = true) ∧ (parts.head?.all (· == '-')) = true ∧
    areTagParts parts = true

theorem isTagChar_of_areTagParts {parts : List Char} (areParts : areTagParts parts = true) :
    ∀ c ∈ parts, isTagChar c = true := by
  fun_induction areTagParts parts with
  | case1 c others inductionHypothesis =>
      rw [Bool.and_eq_true] at areParts
      have later := inductionHypothesis areParts.2
      simp only [List.forall_mem_cons]
      exact ⟨rfl, by simp [isTagChar, areParts.1], later⟩
  | case2 c others notHyphen inductionHypothesis =>
      rw [Bool.and_eq_true] at areParts
      have later := inductionHypothesis areParts.2
      simp only [List.forall_mem_cons]
      exact ⟨by simp [isTagChar, areParts.1], later⟩
  | case3 => simp

theorem IsTag.isTagChar {tag : String} (isTag : IsTag tag) :
    ∀ c ∈ tag.toList, isTagChar c = true := by
  obtain ⟨letters, parts, written, _, areLetters, _, areParts⟩ := isTag
  rw [written, List.forall_mem_append]
  refine ⟨fun c found => ?_, isTagChar_of_areTagParts areParts⟩
  have letter := areLetters c found
  simp [Token.isTagChar, Char.isAlphanum, letter]

theorem splitTagParts_of_stops {rest : List Char} (stops : Stops isTagChar rest) :
    splitTagParts rest = ([], rest) := by
  cases rest with
  | nil => rfl
  | cons c rest =>
      rw [Stops.cons_iff, isTagChar, Bool.or_eq_false_iff, beq_eq_false_iff_ne] at stops
      obtain ⟨noAlphanumeric, noHyphen⟩ := stops
      rw [splitTagParts.eq_def]
      simp [noHyphen, noAlphanumeric]

theorem splitTagParts_append {parts rest : List Char} (areParts : areTagParts parts = true)
    (stops : Stops isTagChar rest) : splitTagParts (parts ++ rest) = (parts, rest) := by
  fun_induction areTagParts parts with
  | case1 c others inductionHypothesis =>
      rw [Bool.and_eq_true] at areParts
      simp [splitTagParts, areParts.1, inductionHypothesis areParts.2]
  | case2 c others notHyphen inductionHypothesis =>
      rw [Bool.and_eq_true] at areParts
      have noHyphen : c ≠ '-' := by
        rintro rfl
        exact absurd areParts.1 (by decide)
      rw [List.cons_append, splitTagParts.eq_def]
      simp [noHyphen, areParts.1, inductionHypothesis areParts.2]
  | case3 => exact splitTagParts_of_stops stops

theorem splitTagParts_sound (text : List Char) :
    areTagParts (splitTagParts text).1 = true ∧
      (splitTagParts text).1 ++ (splitTagParts text).2 = text := by
  fun_induction splitTagParts text with
  | case1 c rest alphanumeric parts behind found inductionHypothesis =>
      rw [found] at inductionHypothesis
      simpa [areTagParts, alphanumeric] using inductionHypothesis
  | case2 c rest other => simp [areTagParts]
  | case3 c rest notHyphen alphanumeric parts behind found inductionHypothesis =>
      rw [found] at inductionHypothesis
      have noHyphen : c ≠ '-' := by
        rintro rfl
        exact absurd alphanumeric (by decide)
      refine ⟨?_, ?_⟩
      · rw [areTagParts.eq_def]
        simp [noHyphen, alphanumeric, inductionHypothesis.1]
      · simpa using inductionHypothesis.2
  | case4 c rest notHyphen other => simp [areTagParts]
  | case5 => simp [areTagParts]

theorem scanLanguageTag_append {tag : String} {rest : List Char} (isTag : IsTag tag)
    (stops : Stops isTagChar rest) :
    scanLanguageTag ('@' :: tag.toList ++ rest) = some ('@' :: tag.toList, rest) := by
  obtain ⟨letters, parts, written, nonempty, areLetters, hyphen, areParts⟩ := isTag
  have whole : '@' :: tag.toList ++ rest = '@' :: (letters ++ (parts ++ rest)) := by
    rw [written, List.cons_append, List.append_assoc]
  have stopsLetters : Stops Char.isAlpha (parts ++ rest) := by
    cases parts with
    | nil =>
        exact stops.mono fun c letter => by simp [isTagChar, Char.isAlphanum, letter]
    | cons c others =>
        have same : c = '-' := by simpa using hyphen
        subst same
        rfl
  rw [whole]
  simp only [scanLanguageTag, takeWhile_run areLetters stopsLetters,
    dropWhile_run areLetters stopsLetters, List.isEmpty_iff, nonempty, if_false]
  cases parts with
  | nil =>
      rw [List.nil_append, written, List.append_nil]
      cases rest with
      | nil => rfl
      | cons c rest =>
          rw [Stops.cons_iff, isTagChar, Bool.or_eq_false_iff, beq_eq_false_iff_ne] at stops
          simp [stops.2]
  | cons c others =>
      have same : c = '-' := by simpa using hyphen
      subst same
      have split := splitTagParts_append areParts stops
      rw [List.cons_append] at split ⊢
      simp only [split, written, List.cons_append]

theorem scanLanguageTag_sound {text token rest : List Char}
    (found : scanLanguageTag text = some (token, rest)) : IsTag (String.ofList (token.drop 1)) := by
  unfold scanLanguageTag at found
  split at found
  case h_2 => contradiction
  case h_1 behind =>
    have areLetters : ∀ c ∈ behind.takeWhile Char.isAlpha, c.isAlpha = true :=
      List.all_eq_true.1 List.all_takeWhile
    simp only [List.isEmpty_iff] at found
    split at found
    · contradiction
    · rename_i nonempty
      split at found
      · rename_i more split
        obtain ⟨rfl, rfl⟩ := Prod.mk.inj (Option.some.inj found)
        have sound := splitTagParts_sound ('-' :: more)
        refine ⟨behind.takeWhile Char.isAlpha, (splitTagParts ('-' :: more)).1, ?_, nonempty,
          areLetters, ?_, sound.1⟩
        · simp
        · cases parts : (splitTagParts ('-' :: more)).1 with
          | nil => rfl
          | cons c others =>
              rw [parts, List.cons_append, List.cons.injEq] at sound
              simp [sound.2.1]
      · obtain ⟨rfl, rfl⟩ := Prod.mk.inj (Option.some.inj found)
        exact ⟨behind.takeWhile Char.isAlpha, [], by simp, nonempty, areLetters, rfl, rfl⟩

theorem languageTag_reads {tag : String} {rest : List Char} (isTag : IsTag tag)
    (stops : Stops isTagChar rest) : Reads languageTag ('@' :: tag.toList) tag rest := by
  have starts : Stops isLayoutStart ('@' :: tag.toList ++ rest) := rfl
  have read : Reads languageTag ([] ++ '@' :: tag.toList)
      (String.ofList (('@' :: tag.toList).drop 1)) rest :=
    (lexeme_reads IsGap.nil starts (scanLanguageTag_append isTag stops)).bind_pure
  rw [List.drop_succ_cons, List.drop_zero, String.ofList_toList] at read
  exact read

/-! ## What a string carries -/

theorem literalSuffix_reads_tag {tag : String} {rest : List Char} (isTag : IsTag tag)
    (stops : Stops isTagChar rest) :
    Reads literalSuffix ('@' :: tag.toList) (.language tag) rest :=
  Reads.firstOf_here (languageTag_reads isTag stops).bind_pure

theorem literalSuffix_reads_name {name : Iri} {text rest : List Char}
    (reads : Reads iri text name rest) :
    Reads literalSuffix ("^^".toList ++ text) (.datatype name) rest := by
  have mark : Reads (symbol "^^") ([] ++ "^^".toList) () (text ++ rest) :=
    symbol_reads IsGap.nil rfl
  have read : Reads datatype ("^^".toList ++ text) name rest := mark.bind reads
  have starts : Stops isLayoutStart ("^^".toList ++ text ++ rest) := rfl
  have noTag : Misses languageTag ([] ++ ("^^".toList ++ text ++ rest)) :=
    (lexeme_misses IsGap.nil starts rfl).bind
  exact (Reads.firstOf_here read.bind_pure).firstOf_later noTag.map

theorem literalSuffix_reads_datatype {name : String} (isText : IsIriText name)
    (rest : List Char) :
    Reads literalSuffix ("^^".toList ++ angled name) (.datatype (.full name)) rest := by
  have read : Reads iri ([] ++ angled name) (.full name) rest := iri_reads_full IsGap.nil isText
  rw [List.nil_append] at read
  exact literalSuffix_reads_name read

def isSuffixFront (c : Char) : Bool :=
  c == '@' || c == '^'

theorem literalSuffix_passes : PassesLayout literalSuffix := by
  refine PassesLayout.firstOf ?_
  simp only [List.forall_mem_cons]
  exact ⟨(lexeme_passes _).bind.map _, (lexeme_passes _).bind.bind.map _, by simp⟩

theorem literalSuffix_misses {gap text : List Char} (blank : IsGap gap)
    (starts : Stops isLayoutStart text) (stops : Stops isSuffixFront text) :
    Misses literalSuffix (gap ++ text) := by
  have noTag : scanLanguageTag text = none := by
    cases text with
    | nil => rfl
    | cons c rest =>
        rw [Stops.cons_iff, isSuffixFront, Bool.or_eq_false_iff, beq_eq_false_iff_ne] at stops
        simp [scanLanguageTag, stops.1]
  have noMark : exactly "^^".toList text = none := by
    cases text with
    | nil => rfl
    | cons c rest =>
        rw [Stops.cons_iff, isSuffixFront, Bool.or_eq_false_iff, beq_eq_false_iff_ne,
          beq_eq_false_iff_ne] at stops
        exact exactly_eq_none ['^'] rest (Ne.symm stops.2)
  refine Misses.firstOf fun parser found => ?_
  simp only [List.mem_cons, List.not_mem_nil, or_false] at found
  rcases found with rfl | rfl
  · exact (lexeme_misses blank starts noTag).bind.map
  · exact (symbol_misses blank starts noMark).bind.map

/-! ## Quoted strings with what they carry -/

/-- What may stand behind a literal: nothing that could be taken for a part of it. -/
structure EndsLiteral (rest : List Char) : Prop where
  noTag : Stops isTagChar rest
  noQuote : rest.head? ≠ some '\x22'
  noSuffix : Misses literalSuffix rest

structure EndsTerm (rest : List Char) : Prop where
  name : Stops isLocalChar rest
  noQuote : rest.head? ≠ some '\x22'
  noSuffix : Misses literalSuffix rest

theorem EndsTerm.space {rest : List Char} (starts : Stops isLayoutStart rest)
    (noSuffix : Stops isSuffixFront rest) : EndsTerm (' ' :: rest) := by
  refine ⟨rfl, ?_, literalSuffix_misses IsGap.space starts noSuffix⟩
  simp

theorem EndsTerm.bracket (rest : List Char) : EndsTerm (')' :: rest) := by
  have starts : Stops isLayoutStart (')' :: rest) := rfl
  refine ⟨rfl, ?_, literalSuffix_misses IsGap.nil starts rfl⟩
  simp

theorem isLocalChar_of_isTagChar {c : Char} (inside : isTagChar c = true) :
    isLocalChar c = true := by
  simp only [isTagChar, isLocalChar, Bool.or_eq_true] at inside ⊢
  rcases inside with alphanumeric | hyphen
  · simp [alphanumeric]
  · simp [hyphen]

theorem EndsTerm.literal {rest : List Char} (ends : EndsTerm rest) : EndsLiteral rest :=
  ⟨ends.name.mono fun _ => isLocalChar_of_isTagChar, ends.noQuote, ends.noSuffix⟩

/-- What a string carries, written with a full name of the datatype. -/
def writeSuffix : Option LiteralSuffix → List Char
  | none => []
  | some (.language tag) => '@' :: tag.toList
  | some (.datatype name) => '^' :: '^' :: angled name.written

def IsFullSuffix : Option LiteralSuffix → Prop
  | none => True
  | some (.language tag) => IsTag tag
  | some (.datatype (.full name)) => IsIriText name
  | some (.datatype (.prefixed _ _)) => False

theorem optionalSuffix_reads {suffix : Option LiteralSuffix} {rest : List Char}
    (isFull : IsFullSuffix suffix) (ends : EndsLiteral rest) :
    Reads (Parser.optional literalSuffix) (writeSuffix suffix) suffix rest := by
  cases suffix with
  | none => exact ends.noSuffix.optional_none
  | some suffix =>
      cases suffix with
      | language tag =>
          exact (literalSuffix_reads_tag isFull ends.noTag).optional_some
      | datatype name =>
          cases name with
          | full value => exact (literalSuffix_reads_datatype isFull rest).optional_some
          | «prefixed» label localPart => exact isFull.elim

/-- A literal is read up to its end, and the parts that have been read decide what it is. -/
theorem literal_reads {α : Type} {next : String → Option LiteralSuffix → Parser α} {result : α}
    {gap rest : List Char} {text : String} {suffix : Option LiteralSuffix} (blank : IsGap gap)
    (isFull : IsFullSuffix suffix) (ends : EndsLiteral rest)
    (decided : next text suffix = pure result) :
    Reads (do
      let value ← quotedText
      let found ← Parser.optional literalSuffix
      next value found) (gap ++ (quote text.toList ++ writeSuffix suffix)) result rest := by
  have noQuote : (writeSuffix suffix ++ rest).head? ≠ some '\x22' := by
    cases suffix with
    | none => exact ends.noQuote
    | some suffix => cases suffix <;> simp [writeSuffix]
  have quoted : Reads quotedText (gap ++ quote text.toList) (String.ofList text.toList)
      (writeSuffix suffix ++ rest) :=
    quotedText_reads blank noQuote
  rw [String.ofList_toList] at quoted
  rw [← List.append_assoc]
  refine quoted.bind ((optionalSuffix_reads isFull ends).bind_end ?_)
  rw [decided]
  exact Reads.pure result rest

theorem tab_not_mem_writeSuffix {suffix : Option LiteralSuffix} (isFull : IsFullSuffix suffix) :
    '\t' ∉ writeSuffix suffix := by
  cases suffix with
  | none => simp [writeSuffix]
  | some suffix =>
      cases suffix with
      | language tag =>
          have inside : '\t' ∉ tag.toList := not_mem_run (IsTag.isTagChar isFull) (by decide)
          simp [writeSuffix, inside]
      | datatype name =>
          cases name with
          | full value =>
              have inside : '\t' ∉ angled value := tab_not_mem_angled isFull
              simp [writeSuffix, Iri.written, inside]
          | «prefixed» label localPart => exact isFull.elim

end FactQuery.Token
