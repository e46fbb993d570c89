import FactQuery.Proofs.Sparql.QueryText
import FactQuery.Proofs.Token.Progress
import Mathlib.Data.List.Basic

/-!
# Literals that are read back

A literal is written with its value between quotes as it is, without any escape.  It is read back
unchanged exactly if nothing in the value would have needed an escape and what follows the quotes
can be written.  Decoding never adds to the characters that can be seen, and so a value that is read
from its own text was not escaped.
-/

set_option autoImplicit false

namespace FactQuery.Sparql

open FactQuery.Text FactQuery.Grammar FactQuery.Token

/-! ## Visible characters -/

/-- The number of characters other than spaces and tabs. -/
def ink (text : List Char) : Nat :=
  text.countP fun c => c != ' ' && c != '\t'

@[simp]
theorem ink_nil : ink [] = 0 := rfl

@[simp]
theorem ink_append (front back : List Char) : ink (front ++ back) = ink front + ink back :=
  List.countP_append

theorem ink_cons (c : Char) (rest : List Char) :
    ink (c :: rest) = ink rest + if c != ' ' && c != '\t' then 1 else 0 :=
  List.countP_cons

theorem ink_expandTabsFrom (column : Nat) (text : List Char) :
    ink (expandTabsFrom column text) = ink text := by
  induction text generalizing column with
  | nil => rfl
  | cons c rest inductionHypothesis =>
      have spaces : ∀ width, ink (List.replicate width ' ') = 0 := by
        intro width
        simp [ink, List.countP_replicate]
      rw [expandTabsFrom]
      split
      · rename_i isTab
        rw [beq_iff_eq] at isTab
        rw [ink_append, spaces, inductionHypothesis, ink_cons, isTab, Nat.zero_add]
        rfl
      · split
        · rw [ink_cons, ink_cons, inductionHypothesis]
        · rw [ink_cons, ink_cons, inductionHypothesis]

theorem tab_not_mem_expandTabsFrom (column : Nat) (text : List Char) :
    '\t' ∉ expandTabsFrom column text := by
  induction text generalizing column with
  | nil => simp [expandTabsFrom]
  | cons c rest inductionHypothesis =>
      rw [expandTabsFrom]
      split
      · simp [inductionHypothesis]
      · rename_i notTab
        rw [beq_iff_eq] at notTab
        split
        · simp [inductionHypothesis, Ne.symm notTab]
        · simp [inductionHypothesis, Ne.symm notTab]

/-! ## Decoding -/

/-- What decoding keeps: the visible characters do not become more, and they become fewer unless
there is no escape. -/
structure Decodes (body text : List Char) : Prop where
  le : ink text ≤ ink body
  lt : '\\' ∈ body.dropLast → ink text < ink body
  same : '\\' ∉ body.dropLast → text = body

theorem map_eq_ok {α : Type} {change : List α → List α} {result : Except EscapeError (List α)}
    {text : List α} (mapped : result.map change = .ok text) :
    ∃ rest, result = .ok rest ∧ change rest = text := by
  cases result with
  | error error => cases mapped
  | ok rest => exact ⟨rest, rfl, Except.ok.inj mapped⟩

theorem ink_cons_le (c : Char) (rest : List Char) : ink (c :: rest) ≤ ink rest + 1 := by
  rw [ink_cons]
  split <;> omega

/-- An escape is at least two visible characters for one. -/
theorem Decodes.escape {letter plain : Char} {digits more rest : List Char}
    (visible : (letter != ' ' && letter != '\t') = true) (le : ink rest ≤ ink more) :
    Decodes ('\\' :: letter :: (digits ++ more)) (plain :: rest) := by
  have fewer : ink (plain :: rest) < ink ('\\' :: letter :: (digits ++ more)) := by
    have one := ink_cons_le plain rest
    rw [ink_cons '\\', ink_cons letter, ink_append, if_pos visible]
    simp only [show ('\\' != ' ' && '\\' != '\t') = true from rfl, if_true]
    omega
  exact ⟨Nat.le_of_lt fewer, fun _ => fewer, fun noEscape => absurd (by simp) noEscape⟩

theorem Decodes.plain {c : Char} {body text : List Char} (notBackslash : c ≠ '\\')
    (decodes : Decodes body text) : Decodes (c :: body) (c :: text) := by
  obtain ⟨le, lt, same⟩ := decodes
  have inFront : '\\' ∈ (c :: body).dropLast ↔ '\\' ∈ body.dropLast := by
    cases body with
    | nil => simp
    | cons d others => simp [Ne.symm notBackslash]
  refine ⟨?_, fun escaped => ?_, fun noEscape => ?_⟩
  · rw [ink_cons, ink_cons]
    omega
  · have fewer := lt (inFront.1 escaped)
    rw [ink_cons, ink_cons]
    omega
  · rw [same fun escaped => noEscape (inFront.2 escaped)]

theorem decodes_of_unescape {body text : List Char} (decoded : unescape body = .ok text) :
    Decodes body text := by
  induction body using unescape.induct generalizing text with
  | case1 =>
      cases decoded
      exact ⟨Nat.le_refl _, by simp, fun _ => rfl⟩
  | case2 c isBackslash =>
      rw [unescape.eq_def] at decoded
      simp only [isBackslash, if_true] at decoded
      cases decoded
      exact ⟨Nat.le_refl _, by simp, fun _ => rfl⟩
  | case3 c isBackslash d₁ d₂ d₃ d₄ more codePoint value inductionHypothesis =>
      rw [beq_iff_eq.1 isBackslash] at decoded ⊢
      simp only [unescape, beq_self_eq_true, if_true, value] at decoded
      obtain ⟨rest, run, rfl⟩ := map_eq_ok decoded
      exact @Decodes.escape 'u' _ [d₁, d₂, d₃, d₄] more rest rfl (inductionHypothesis run).le
  | case5 c isBackslash d₁ d₂ d₃ d₄ d₅ d₆ d₇ d₈ more codePoint value inRange
      inductionHypothesis =>
      rw [beq_iff_eq.1 isBackslash] at decoded ⊢
      simp only [unescape, beq_self_eq_true, if_true, value, inRange] at decoded
      obtain ⟨rest, run, rfl⟩ := map_eq_ok decoded
      exact @Decodes.escape 'U' _ [d₁, d₂, d₃, d₄, d₅, d₆, d₇, d₈] more rest rfl
        (inductionHypothesis run).le
  | case8 c isBackslash letter more noShort noLong plain found inductionHypothesis =>
      rw [beq_iff_eq.1 isBackslash] at decoded ⊢
      rw [unescape] at decoded
      · simp only [beq_self_eq_true, if_true, found] at decoded
        obtain ⟨rest, run, rfl⟩ := map_eq_ok decoded
        have visible : (letter != ' ' && letter != '\t') = true := by
          rw [Bool.and_eq_true, bne_iff_ne, bne_iff_ne]
          constructor
          · rintro rfl
            contradiction
          · rintro rfl
            contradiction
        exact @Decodes.escape letter plain [] more rest visible (inductionHypothesis run).le
      · exact noShort
      · exact noLong
  | case10 c rest notBackslash inductionHypothesis =>
      rw [unescape.eq_def] at decoded
      simp only [notBackslash] at decoded
      obtain ⟨text, run, rfl⟩ := map_eq_ok decoded
      have different : c ≠ '\\' := fun same => notBackslash (beq_iff_eq.2 same)
      exact (inductionHypothesis run).plain different
  | case6 c isBackslash d₁ d₂ d₃ d₄ d₅ d₆ d₇ d₈ more codePoint value outOfRange =>
      rw [unescape.eq_def] at decoded
      simp only [isBackslash, if_true, value, if_neg outOfRange] at decoded
      contradiction
  | _ =>
      rw [unescape.eq_def] at decoded
      simp_all

/-! ## Where a string ends -/

theorem quotedText_eq_matched {place next : Cursor} {value : String}
    (run : quotedText place = .matched value next) :
    ∃ style : QuoteStyle, ∃ body, style.split? place.skipLayout.rest = some (body, next.rest) ∧
      unescape body = .ok value.toList := by
  have each : Ensures (· = place) quotedText fun value next =>
      ∃ style : QuoteStyle, ∃ body, style.split? place.skipLayout.rest = some (body, next.rest) ∧
        unescape body = .ok value.toList := by
    refine Ensures.firstOf fun parser inside => ?_
    obtain ⟨style, _, rfl⟩ := List.mem_map.1 inside
    rintro _ rfl value next run
    simp only [quotedIn] at run
    split at run
    · contradiction
    · rename_i body behind split
      split at run
      · rename_i text decoded
        cases run
        exact ⟨style, body, split, by rw [String.toList_ofList]; exact decoded⟩
      · contradiction
  exact each place rfl value next run

/-- The last quote of a text decides how much stands in front of it. -/
theorem eq_of_last_quote {front behind value tail : List Char} (noQuote : '\x22' ∉ tail)
    (same : front ++ '\x22' :: behind = value ++ '\x22' :: tail) :
    ink front ≤ ink value ∧ (ink front = ink value → front = value ∧ behind = tail) := by
  rcases List.append_eq_append_iff.1 same with ⟨more, rfl, split⟩ | ⟨more, rfl, split⟩
  · cases more with
    | nil =>
        obtain ⟨-, rfl⟩ := List.cons.inj split
        simp
    | cons c others =>
        obtain ⟨rfl, -⟩ := List.cons.inj split
        rw [ink_append, ink_cons]
        exact ⟨by omega, fun same => by simp at same⟩
  · cases more with
    | nil =>
        obtain ⟨-, rfl⟩ := List.cons.inj split
        simp
    | cons c others =>
        obtain ⟨rfl, rfl⟩ := List.cons.inj split
        exact absurd (by simp) noQuote

/-- With its tabs expanded, a quoted value has the same visible characters, and what stands behind
it is unchanged. -/
theorem expandTabs_quoted (column : Nat) (value : List Char) {tail : List Char}
    (noTab : '\t' ∉ tail) :
    ∃ shown, expandTabsFrom column ('\x22' :: (value ++ '\x22' :: tail)) =
        '\x22' :: (shown ++ '\x22' :: tail) ∧ ink shown = ink value ∧ '\t' ∉ shown := by
  have free : '\t' ∉ '\x22' :: tail := by simp [noTab]
  have expanded := expandTabsFrom_append (column + 1) value ('\x22' :: tail)
  rw [expandTabsFrom_eq_self free] at expanded
  exact ⟨expandTabsFrom (column + 1) value, congrArg ('\x22' :: ·) expanded,
    ink_expandTabsFrom (column + 1) value, tab_not_mem_expandTabsFrom (column + 1) value⟩

/-- Two ways to split one text, of which the second leaves at least as much. -/
theorem exists_between {front behind taken rest : List Char}
    (same : front ++ behind = taken ++ rest) (left : behind.length ≤ rest.length) :
    ∃ middle, front = taken ++ middle ∧ rest = middle ++ behind := by
  rcases List.append_eq_append_iff.1 same with ⟨beyond, rfl, rfl⟩ | ⟨middle, rfl, rfl⟩
  · rw [List.length_append] at left
    have nothing : beyond = [] := List.length_eq_zero_iff.1 (by omega)
    exact ⟨[], by simp [nothing], by simp [nothing]⟩
  · exact ⟨middle, rfl, rfl⟩

/-- A value between quotes that is read as itself, up to its tail at most, holds nothing that needs
an escape. -/
theorem plain_of_quotedText {place next : Cursor} {value shown tail more : List Char}
    (noQuote : '\x22' ∉ tail) (sameInk : ink shown = ink value) (tabless : '\t' ∉ shown)
    (ahead : place.skipLayout.rest = '\x22' :: (shown ++ '\x22' :: tail) ++ more)
    (left : more.length ≤ next.rest.length)
    (run : quotedText place = .matched (String.ofList value) next) :
    next.rest = tail ++ more ∧
      ∀ c ∈ value, c ≠ '\\' ∧ c ≠ '\x22' ∧ c ≠ '\n' ∧ c ≠ '\r' ∧ c ≠ '\t' := by
  obtain ⟨style, body, split, decoded⟩ := quotedText_eq_matched run
  rw [String.toList_ofList] at decoded
  obtain ⟨le, lt, same⟩ := decodes_of_unescape decoded
  rw [ahead] at split
  obtain ⟨rest, whole, found⟩ := split?_sound split
  cases style with
  | short mark =>
      obtain ⟨rfl, rfl⟩ := List.cons.inj whole
      obtain ⟨ends, plain⟩ := splitShortBody_sound found
      rw [List.append_cons body '\x22' next.rest] at ends
      obtain ⟨middle, opens, behind⟩ := exists_between ends left
      rw [List.append_assoc, List.cons_append, List.nil_append] at opens
      obtain ⟨less, determined⟩ := eq_of_last_quote noQuote opens.symm
      have noEscape : '\\' ∉ body.dropLast := by
        intro escaped
        have fewer := lt escaped
        omega
      obtain ⟨rfl, rfl⟩ := determined (by omega)
      rw [same noEscape]
      refine ⟨behind, fun c inside => ?_⟩
      obtain ⟨noBackslash, noMark, noFeed, noReturn⟩ := plain noEscape c inside
      refine ⟨noBackslash, noMark, noFeed, noReturn, ?_⟩
      rintro rfl
      exact tabless inside
  | long mark =>
      obtain ⟨rfl, opens⟩ := List.cons.inj whole
      rw [splitLongBody_sound found] at opens
      have last : (shown ++ '\x22' :: tail) ++ more =
          ('\x22' :: '\x22' :: (body ++ ['\x22', '\x22', '\x22'])) ++ next.rest :=
        opens.trans (by simp)
      obtain ⟨middle, closes, -⟩ := exists_between last left
      have quoted : ('\x22' :: '\x22' :: (body ++ ['\x22', '\x22'])) ++ '\x22' :: middle =
          shown ++ '\x22' :: tail := by
        rw [closes]
        simp
      have less := (eq_of_last_quote noQuote quoted).1
      have two : ∀ rest, ink ('\x22' :: rest) = ink rest + 1 := fun rest => ink_cons '\x22' rest
      rw [two, two, ink_append] at less
      omega

/-! ## Literals -/

/-- Where the text of the literal is a text of its own, it is read as the literal. -/
def Term.ReadsBack (term : Term) : Prop :=
  ∃ last, quotedLiteral (Cursor.start (expandTabs term.text.toList)) = .matched term ⟨last, []⟩

def tailText (language datatype : Option String) : List Char :=
  match Term.written? language, Term.written? datatype with
  | some tag, _ => '@' :: tag.toList
  | none, some name => '^' :: '^' :: angled name
  | none, none => []

theorem text_literal_tail (value : String) (language datatype : Option String) :
    (Term.literal value language datatype).text.toList =
      '\x22' :: (value.toList ++ '\x22' :: tailText language datatype) := by
  cases tag : Term.written? language with
  | some tag' => simp [Term.text, tailText, tag]
  | none =>
      cases name : Term.written? datatype with
      | some name' => simp [Term.text, tailText, tag, name, angled]
      | none => simp [Term.text, tailText, tag, name]

theorem not_mem_tailText {value : String} {language datatype : Option String}
    (wellFormed : (Term.literal value language datatype).IsWellFormed) :
    '\x22' ∉ tailText language datatype ∧ '\t' ∉ tailText language datatype := by
  obtain ⟨isTag, isText, _⟩ := wellFormed
  have outside : ∀ {belongs : Char → Bool} {run : List Char}, (∀ c ∈ run, belongs c = true) →
      belongs '\x22' = false ∧ belongs '\t' = false → '\x22' ∉ run ∧ '\t' ∉ run :=
    fun inside outside => ⟨not_mem_run inside outside.1, not_mem_run inside outside.2⟩
  rw [tailText]
  split
  · rename_i tag isWritten
    have known : language = some tag := (Option.filter_eq_some_iff.1 isWritten).1
    have good := outside (isTag tag known).isTagChar (by decide)
    simp [good]
  · rename_i name _ isWritten
    have known : datatype = some name := (Option.filter_eq_some_iff.1 isWritten).1
    have good := outside (isText name known) (by decide)
    simp [angled, good]
  · simp

theorem endsTerm_nil : EndsTerm [] :=
  ⟨rfl, by simp, @literalSuffix_misses [] [] IsGap.nil rfl rfl⟩

theorem quotedLiteral_eq_matched {place next : Cursor} {value : String}
    {language datatype : Option String}
    (run : quotedLiteral place = .matched (.literal value language datatype) next) :
    ∃ middle suffix, quotedText place = .matched value middle ∧
      Parser.optional literalSuffix middle = .matched suffix next ∧
      (suffix = none → datatype = none) := by
  obtain ⟨text, middle, quotedRun, suffixRun⟩ := andThen_eq_matched run
  obtain ⟨suffix, behind, optionalRun, done⟩ := andThen_eq_matched suffixRun
  cases suffix with
  | none =>
      cases done
      exact ⟨middle, none, quotedRun, optionalRun, fun _ => rfl⟩
  | some suffix =>
      cases suffix <;> cases done <;> exact ⟨middle, _, quotedRun, optionalRun, by simp⟩

theorem Term.ReadsBack.isWellFormed {term : Term} (readsBack : term.ReadsBack) :
    term.IsWellFormed := by
  obtain ⟨last, run⟩ := readsBack
  exact (quotedLiteral_yields _ _ _ run).1

/-- A literal that is read from its own text, with all that stands behind it left, holds nothing
that needs an escape, and its datatype has a name. -/
theorem isPlain_of_read {place next : Cursor} {value : String} {language datatype : Option String}
    {column : Nat} {more : List Char}
    (wellFormed : (Term.literal value language datatype).IsWellFormed)
    (ahead : place.skipLayout.rest =
      expandTabsFrom column (Term.literal value language datatype).text.toList ++ more)
    (noSuffix : Misses literalSuffix more) (left : next.rest = more)
    (run : quotedLiteral place = .matched (.literal value language datatype) next) :
    (Term.literal value language datatype).isPlain = true := by
  obtain ⟨noQuote, noTab⟩ := not_mem_tailText wellFormed
  obtain ⟨middle, suffix, quotedRun, suffixRun, noDatatype⟩ := quotedLiteral_eq_matched run
  have least : more.length ≤ middle.rest.length := by
    have within : next.rest.length < middle.rest.length + 1 :=
      (literalSuffix_takes.shrinks.optional _).leaves middle (Nat.lt_succ_self _) suffix next suffixRun
    rw [left] at within
    omega
  obtain ⟨shown, expanded, sameInk, tabless⟩ := expandTabs_quoted column value.toList noTab
  rw [text_literal_tail, expanded] at ahead
  rw [← String.ofList_toList (s := value)] at quotedRun
  obtain ⟨atTail, plain⟩ := plain_of_quotedText noQuote sameInk tabless ahead least quotedRun
  have named : datatype ≠ some "" := by
    rintro rfl
    have noLanguage : language = none := wellFormed.2.2.resolve_right (by simp)
    rw [noLanguage] at atTail
    obtain ⟨before, rest⟩ := middle
    cases atTail
    obtain ⟨last, missed⟩ := noSuffix.optional_none before
    cases suffixRun.symm.trans missed
    exact absurd (noDatatype rfl) (by simp)
  rw [Term.isPlain, Bool.and_eq_true, List.all_eq_true, bne_iff_ne]
  refine ⟨fun c inside => ?_, named⟩
  simp only [Bool.and_eq_true, bne_iff_ne]
  obtain ⟨noBackslash, noMark, noFeed, noReturn, notTab⟩ := plain c inside
  exact ⟨⟨⟨⟨noBackslash, noMark⟩, noFeed⟩, noReturn⟩, notTab⟩

theorem Term.ReadsBack.isPlain {value : String} {language datatype : Option String}
    (readsBack : (Term.literal value language datatype).ReadsBack) :
    (Term.literal value language datatype).isPlain = true := by
  have wellFormed := readsBack.isWellFormed
  obtain ⟨last, run⟩ := readsBack
  obtain ⟨shown, expanded, -⟩ := expandTabs_quoted 0 value.toList (not_mem_tailText wellFormed).2
  rw [← text_literal_tail] at expanded
  have starts : Stops isLayoutStart
      (expandTabs (Term.literal value language datatype).text.toList) := by
    rw [expandTabs, expanded]
    rfl
  refine @isPlain_of_read _ _ _ _ _ 0 [] wellFormed ?_ endsTerm_nil.noSuffix rfl run
  rw [List.append_nil]
  exact congrArg Cursor.rest (skipLayout_of_stops starts none)

/-- The literals that are read back are those whose parts are well formed and of whose value nothing
needs an escape. -/
theorem readsBack_iff {value : String} {language datatype : Option String} :
    (Term.literal value language datatype).ReadsBack ↔
      (Term.literal value language datatype).IsWellFormed ∧
        (Term.literal value language datatype).isPlain = true := by
  constructor
  · exact fun readsBack => ⟨readsBack.isWellFormed, readsBack.isPlain⟩
  · rintro ⟨wellFormed, plain⟩
    have noTab := tab_not_mem_term wellFormed plain
    obtain ⟨last, run⟩ := quotedLiteral_reads IsGap.nil wellFormed plain endsTerm_nil.literal none
    rw [List.nil_append, List.append_nil] at run
    refine ⟨last, ?_⟩
    rw [expandTabs, expandTabsFrom_eq_self noTab 0]
    exact run

end FactQuery.Sparql
