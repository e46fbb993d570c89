import FactQuery.Proofs.Grammar.Amid
import FactQuery.Proofs.Layout.Terms

/-!
# More text behind the last line

A text that ends its last line is read by itself, and once more with another text behind it.  Most
places of the first reading are left in the same way in the second.  Two kinds of places are not.
Where nothing but layout is left, the second reading may find a token; and three quotes that open no
string in the first text may open one that ends in the second.

So a run may slip.  What follows a slip is only looked at in the first reading: a match may be
loose, and a miss doubtful.  The sites that loose matches lead to and those of doubtful misses are
described by predicates, and pass through the combinators one by one.
-/

set_option autoImplicit false

namespace FactQuery.Grammar

open FactQuery.Text FactQuery.Token

def Cursor.extend (more : List Char) (place : Cursor) : Cursor :=
  ⟨place.before, place.rest ++ more⟩

def Cursor.EndsLine (place : Cursor) : Prop :=
  ∃ front, place.rest = front ++ ['\n']

abbrev Site : Type :=
  Cursor → Prop

def nowhere : Site := fun _ => False

def anywhere : Site := fun _ => True

def atEnd : Site := fun place => place.skipLayout.rest = []

variable {α β : Type} {more : List Char}

/-! ## Layout -/

/-- Layout ends where it ended before, or runs through the whole of the first text. -/
theorem skipLayoutFrom_extend (commented : Bool) (before : Option Char) (front more : List Char) :
    ((skipLayoutFrom commented before (front ++ ['\n'])).rest = [] ∧
        skipLayoutFrom commented before (front ++ '\n' :: more) =
          skipLayoutFrom false (some '\n') more) ∨
      ∃ before' left,
        skipLayoutFrom commented before (front ++ ['\n']) = ⟨before', left ++ ['\n']⟩ ∧
          skipLayoutFrom commented before (front ++ '\n' :: more) =
            ⟨before', left ++ '\n' :: more⟩ := by
  induction front generalizing commented before with
  | nil =>
      left
      cases commented <;> simp [skipLayoutFrom, isLayoutBlank]
  | cons c front inductionHypothesis =>
      simp only [List.cons_append, skipLayoutFrom]
      split
      · exact inductionHypothesis _ _
      · split
        · exact inductionHypothesis _ _
        · split
          · exact inductionHypothesis _ _
          · exact Or.inr ⟨before, c :: front, rfl, rfl⟩

theorem Cursor.EndsLine.skipLayout {place : Cursor} (endsLine : place.EndsLine)
    (more : List Char) :
    (atEnd place ∧ (place.extend more).skipLayout = skipLayoutFrom false (some '\n') more) ∨
      ∃ before left, place.skipLayout = ⟨before, left ++ ['\n']⟩ ∧
        (place.extend more).skipLayout = ⟨before, left ++ '\n' :: more⟩ := by
  obtain ⟨front, same⟩ := endsLine
  have whole : place.rest ++ more = front ++ '\n' :: more := by simp [same]
  simp only [atEnd, Cursor.skipLayout, Cursor.extend, whole]
  rw [same]
  exact skipLayoutFrom_extend false place.before front more

/-! ## Runs -/

/-- The run leads to a loose place, or misses where that is in doubt. -/
def Slips (loose : Site) (doubt : Prop) : Outcome α → Prop
  | .matched _ next => loose next
  | .missed => doubt
  | .aborted _ _ => True

/-- The run on the longer text is the same, or the run on the first text slips. -/
inductive Extends (more : List Char) (loose : Site) (doubt : Prop) : Outcome α → Outcome α → Prop
  | matched {value : α} {next : Cursor} (endsLine : next.EndsLine) :
      Extends more loose doubt (.matched value next) (.matched value (next.extend more))
  | missed : Extends more loose doubt .missed .missed
  | slipped {outcome other : Outcome α} (slips : Slips loose doubt outcome) :
      Extends more loose doubt outcome other

/-- At every place of the first text the parser does the same with more text behind, or slips. -/
def Withstands (more : List Char) (parser : Parser α) (loose doubtful : Site) : Prop :=
  ∀ place, place.EndsLine →
    Extends more loose (doubtful place) (parser place) (parser (place.extend more))

variable {loose loose' doubtful doubtful' : Site}

theorem Slips.mono {doubt doubt' : Prop} {outcome : Outcome α} (slips : Slips loose doubt outcome)
    (looser : ∀ place, loose place → loose' place) (weaker : doubt → doubt') :
    Slips loose' doubt' outcome := by
  cases outcome with
  | matched value next => exact looser next slips
  | missed => exact weaker slips
  | aborted error stop => trivial

theorem Extends.andThen {doubt doubt' : Prop} {one other : Outcome α}
    {step : α → Cursor → Outcome β} (first : Extends more loose doubt one other)
    (second : ∀ value next, one = .matched value next → next.EndsLine →
      Extends more loose' doubt' (step value next) (step value (next.extend more)))
    (slips : Slips loose doubt one → Slips loose' doubt' (one.andThen step)) :
    Extends more loose' doubt' (one.andThen step) (other.andThen step) := by
  cases first with
  | matched endsLine => exact second _ _ rfl endsLine
  | missed => exact .missed
  | slipped isSlip => exact .slipped (slips isSlip)

namespace Withstands

theorem mono {parser : Parser α} (withstands : Withstands more parser loose doubtful)
    (looser : ∀ place, loose place → loose' place)
    (weaker : ∀ place, doubtful place → doubtful' place) :
    Withstands more parser loose' doubtful' := by
  intro place endsLine
  have run := withstands place endsLine
  generalize parser place = one at run ⊢
  generalize parser (place.extend more) = other at run ⊢
  cases run with
  | matched nextEnds => exact .matched nextEnds
  | missed => exact .missed
  | slipped slips => exact .slipped (slips.mono looser (weaker place))

/-! ## Sequences and choices -/

theorem pure (value : α) : Withstands more (Pure.pure value : Parser α) loose nowhere :=
  fun _ endsLine => .matched endsLine

/-- What follows a slip, and what leads to one, has to be a slip too. -/
theorem bind {parser : Parser α} {next : α → Parser β}
    (first : Withstands more parser loose doubtful)
    (second : ∀ value, Withstands more (next value) loose' doubtful')
    {either : Site} (weaker : ∀ place, doubtful place → either place)
    (leads : ∀ place value behind, parser place = .matched value behind → doubtful' behind →
      either place)
    (slips : ∀ place value behind, parser place = .matched value behind → loose behind →
      Slips loose' (either place) (next value behind)) :
    Withstands more (parser >>= next) loose' either := by
  intro place endsLine
  refine (first place endsLine).andThen ?_ ?_
  · intro value behind run behindEnds
    have later := second value behind behindEnds
    generalize next value behind = one at later ⊢
    generalize next value (behind.extend more) = other at later ⊢
    cases later with
    | matched lastEnds => exact .matched lastEnds
    | missed => exact .missed
    | slipped isSlip =>
        exact .slipped (isSlip.mono (fun _ => id) (leads place value behind run))
  · intro isSlip
    cases run : parser place with
    | matched value behind =>
        rw [run] at isSlip
        exact slips place value behind run isSlip
    | missed =>
        rw [run] at isSlip
        exact weaker place isSlip
    | aborted error stop => trivial

theorem bind_tight {parser : Parser α} {next : α → Parser β}
    (first : Withstands more parser nowhere doubtful)
    (second : ∀ value, Withstands more (next value) loose' doubtful')
    {either : Site} (weaker : ∀ place, doubtful place → either place)
    (leads : ∀ place value behind, parser place = .matched value behind → doubtful' behind →
      either place) : Withstands more (parser >>= next) loose' either :=
  first.bind second weaker leads fun _ _ _ _ isLoose => isLoose.elim

theorem map {parser : Parser α} (change : α → β)
    (withstands : Withstands more parser loose doubtful) :
    Withstands more (change <$> parser) loose doubtful := by
  refine bind withstands (fun value => pure (change value)) (fun _ => id) ?_ ?_
  · exact fun _ _ _ _ isDoubtful => isDoubtful.elim
  · exact fun _ _ _ _ isLoose => isLoose

theorem firstOf_nil : Withstands more (Parser.firstOf ([] : List (Parser α))) loose doubtful :=
  fun _ _ => .missed

/-- Behind a doubtful miss the later alternatives have to slip. -/
theorem firstOf_cons {parser : Parser α} {others : List (Parser α)}
    (first : Withstands more parser loose doubtful')
    (later : Withstands more (Parser.firstOf others) loose doubtful)
    (slips : ∀ place, parser place = .missed → doubtful' place →
      Slips loose (doubtful place) (Parser.firstOf others place)) :
    Withstands more (Parser.firstOf (parser :: others)) loose doubtful := by
  intro place endsLine
  have run := first place endsLine
  have behind := later place endsLine
  have slipsHere := slips place
  simp only [Parser.firstOf]
  generalize parser place = one at run slipsHere ⊢
  generalize parser (place.extend more) = other at run ⊢
  cases run with
  | matched nextEnds => exact .matched nextEnds
  | missed => exact behind
  | slipped isSlip =>
      cases one with
      | matched value next => exact .slipped isSlip
      | missed => exact .slipped (slipsHere rfl isSlip)
      | aborted error stop => exact .slipped isSlip

theorem firstOf_token {parser : Parser α} {others : List (Parser α)}
    (first : Withstands more parser loose atEnd)
    (later : Withstands more (Parser.firstOf others) loose doubtful)
    (ends : MissesEnd (Parser.firstOf others)) (weaker : ∀ place, atEnd place → doubtful place) :
    Withstands more (Parser.firstOf (parser :: others)) loose doubtful := by
  refine firstOf_cons first later fun place _ ended => ?_
  rw [ends place ended]
  exact weaker place ended

theorem firstOf_tokens {parsers : List (Parser α)}
    (each : ∀ parser ∈ parsers, Withstands more parser loose atEnd ∧ MissesEnd parser) :
    Withstands more (Parser.firstOf parsers) loose atEnd := by
  induction parsers with
  | nil => exact firstOf_nil
  | cons parser others inductionHypothesis =>
      rw [List.forall_mem_cons] at each
      exact firstOf_token each.1.1 (inductionHypothesis each.2)
        (MissesEnd.firstOf fun other inside => (each.2 other inside).2) fun _ => id

/-! ## Optional and repeated parts -/

/-- A part that may be left out never misses, so a doubtful miss makes a loose match. -/
theorem optional {parser : Parser α} (withstands : Withstands more parser loose doubtful)
    (stays : ∀ place, doubtful place → loose place) :
    Withstands more (Parser.optional parser) loose nowhere := by
  intro place endsLine
  have run := withstands place endsLine
  simp only [Parser.optional]
  generalize parser place = one at run ⊢
  generalize parser (place.extend more) = other at run ⊢
  cases run with
  | matched nextEnds => exact .matched nextEnds
  | missed => exact .matched endsLine
  | slipped isSlip =>
      cases one with
      | matched value next => exact .slipped isSlip
      | missed => exact .slipped (stays place isSlip)
      | aborted error stop => exact .slipped trivial

/-- A row ends behind a loose match, where its parser has to refuse, and at a doubtful miss. -/
theorem many {parser : Parser α} (advances : Advances parser)
    (withstands : Withstands more parser loose doubtful)
    (refuses : ∀ place, loose place → parser place = .missed)
    (looser : ∀ place, loose place → loose' place)
    (stays : ∀ place, doubtful place → loose' place) :
    Withstands more (Parser.many parser) loose' nowhere := by
  have within : ∀ bound, Withstands more (Parser.manyWithin parser bound) loose' nowhere := by
    intro bound
    induction bound with
    | zero => exact pure []
    | succ bound inductionHypothesis =>
        intro place endsLine
        have run := withstands place endsLine
        simp only [Parser.manyWithin]
        generalize parser place = one at run ⊢
        generalize parser (place.extend more) = other at run ⊢
        cases run with
        | matched nextEnds => exact (inductionHypothesis.map _) _ nextEnds
        | missed => exact .matched endsLine
        | slipped isSlip =>
            cases one with
            | matched value next =>
                have halted := manyWithin_missed (refuses next isSlip) bound
                simp only [halted, Outcome.andThen]
                exact .slipped (looser next isSlip)
            | missed => exact .slipped (stays place isSlip)
            | aborted error stop => exact .slipped trivial
  intro place endsLine
  have enough : place.rest.length ≤ (place.extend more).rest.length := by simp [Cursor.extend]
  rw [Parser.many, Parser.many, manyWithin_eq advances (Nat.le_refl _) enough]
  exact within _ place endsLine

/-- What follows never misses where the part before it may be loose. -/
theorem bind_onward {parser : Parser α} {next : α → Parser β}
    (first : Withstands more parser loose doubtful)
    (second : ∀ value, Withstands more (next value) loose' nowhere)
    (stays : ∀ value behind, loose behind → ∃ found last, next value behind = .matched found last ∧
      loose' last) : Withstands more (parser >>= next) loose' doubtful := by
  refine first.bind second (fun _ => id) (fun _ _ _ _ isDoubtful => isDoubtful.elim) ?_
  intro place value behind _ isLoose
  obtain ⟨found, last, run, isLooseToo⟩ := stays value behind isLoose
  rw [run]
  exact isLooseToo

/-- A rule that refers to itself withstands more text if each level does, given the levels inside.
What else is known of the levels is carried along. -/
theorem nested {rule : Parser α → Parser α} {carried : Parser α → Prop}
    (narrows : AgreeWithin.Narrows rule) (ground : carried fun _ => .missed)
    (carries : ∀ inner, carried inner → carried (rule inner))
    (level : ∀ inner, carried inner → Withstands more inner loose doubtful →
      Withstands more (rule inner) loose doubtful) :
    Withstands more (Parser.nested rule) loose doubtful := by
  have within : ∀ levels, carried (Parser.nestedWithin rule levels) ∧
      Withstands more (Parser.nestedWithin rule levels) loose doubtful := by
    intro levels
    induction levels with
    | zero => exact ⟨ground, fun _ _ => .missed⟩
    | succ levels inductionHypothesis =>
        exact ⟨carries _ inductionHypothesis.1,
          level _ inductionHypothesis.1 inductionHypothesis.2⟩
  intro place endsLine
  have fewer : place.rest.length < (place.extend more).rest.length + 1 := by
    simp only [Cursor.extend, List.length_append]
    omega
  have same := (AgreeWithin.nested narrows _).same place fewer
  rw [← same]
  exact (within _).2 place endsLine

/-! ## Tokens -/

/-- No token goes over the end of a line, except for strings. -/
theorem lexeme {scan : Scanner} (stays : StaysInside scan) :
    Withstands more (Grammar.lexeme scan) nowhere atEnd := by
  intro place endsLine
  rcases endsLine.skipLayout more with ⟨ended, -⟩ | ⟨before, left, here, there⟩
  · have nothing : scan [] = none := by
      cases scanned : scan [] with
      | none => rfl
      | some found =>
          obtain ⟨whole, nonempty⟩ := stays.splits [] found.1 found.2 scanned
          exact absurd (List.append_eq_nil_iff.1 whole.symm).1 nonempty
    rw [lexeme_missesEnd nothing place ended]
    exact .slipped ended
  · have blank : ∀ more, EndsToken ('\n' :: more) := fun more => EndsToken.cons_iff.2 rfl
    simp only [Grammar.lexeme, here, there, stays.ahead left _ (blank _)]
    cases scan left with
    | none => exact .missed
    | some found =>
        have same : ∀ front, front ++ '\n' :: more = (front ++ ['\n']) ++ more := by simp
        simp only [Option.map_some, same]
        exact .matched ⟨found.2, rfl⟩

theorem symbol {text : String} (isSymbol : isSymbol text = true) :
    Withstands more (symbol text) nowhere atEnd :=
  (lexeme (scansTokens_exactly isSymbol).toStaysInside).map _

theorem foldedWord {fold : Char → Char} {word : String} (tame : IsTame fold)
    (isKeyword : IsKeyword fold word) :
    Withstands more (foldedWord fold word) nowhere atEnd := by
  intro place endsLine
  rcases endsLine.skipLayout more with ⟨ended, -⟩ | ⟨before, left, here, there⟩
  · rw [foldedWord_missesEnd isKeyword.1 place ended]
    exact .slipped ended
  · have sameBefore : (place.extend more).skipLayout.before = place.skipLayout.before := by
      rw [here, there]
    have run : Withstands more (Grammar.lexeme (scanRun (foldsToIdentifier fold))) nowhere atEnd :=
      lexeme (scansTokens_scanRun tame).toStaysInside
    rw [foldedWord_eq isKeyword, foldedWord_eq isKeyword, sameBefore]
    split
    · refine (run place endsLine).andThen ?_ ?_
      · intro token next _ nextEnds
        split
        · exact .matched nextEnds
        · exact .missed
      · intro isSlip
        generalize Grammar.lexeme (scanRun (foldsToIdentifier fold)) place = outcome at isSlip ⊢
        cases outcome with
        | matched token next => exact isSlip.elim
        | missed => exact isSlip
        | aborted error stop => trivial
    · exact .missed

end Withstands

end FactQuery.Grammar
