import FactQuery.Proofs.Grammar.Levels
import FactQuery.Proofs.Layout.Words

/-!
# Two readings of the same words

Two places are alike if the same words are ahead of both, each with layout of its own.  A parser
respects layout if at places that are alike it does the same: both runs match with one value and
leave places that are alike again, or both miss, or both abort with one error.  What the words ahead
are like is said by conditions on them, before and after, and passes through the combinators one by
one.
-/

set_option autoImplicit false

namespace FactQuery.Grammar

open FactQuery.Text FactQuery.Token

/-- A condition on the words ahead. -/
abbrev Outlook : Type :=
  List (List Char) → Prop

/-- A word may begin behind the one character exactly if it may behind the other: they are the same,
or blanks, or there is none. -/
def SameNeighbour (one other : Option Char) : Prop :=
  one = other ∨ (one.all isLayoutBlank = true ∧ other.all isLayoutBlank = true)

structure FaceSame (words : List (List Char)) (place again : Cursor) : Prop where
  areWords : ∀ word ∈ words, IsWord word
  here : IsSpaced words place.rest
  there : IsSpaced words again.rest
  neighbour : words ≠ [] → SameNeighbour place.skipLayout.before again.skipLayout.before

structure GoOn (words : List (List Char)) (rest other : List Char) : Prop where
  areWords : ∀ word ∈ words, IsWord word
  here : IsSpaced words rest
  endsHere : EndsToken rest
  there : IsSpaced words other
  endsThere : EndsToken other

def Alike (outlook : Outlook) (place again : Cursor) : Prop :=
  ∃ words, outlook words ∧ FaceSame words place again

/-- Two runs with the same result, apart from the places where they end. -/
inductive SameOutcome {α : Type} (post : Outlook) : Outcome α → Outcome α → Prop where
  | matched {value : α} {next again : Cursor} (alike : Alike post next again) :
      SameOutcome post (.matched value next) (.matched value again)
  | missed : SameOutcome post .missed .missed
  | aborted {error : EscapeError} {place again : Cursor} :
      SameOutcome post (.aborted error place) (.aborted error again)

def Respects {α : Type} (pre : Outlook) (parser : Parser α) (post : Outlook) : Prop :=
  ∀ place again, Alike pre place again → SameOutcome post (parser place) (parser again)

variable {α β : Type} {pre middle post stronger weaker : Outlook}

/-! ## Places -/

theorem Alike.mono {place again : Cursor} (alike : Alike pre place again)
    (implies : ∀ words, pre words → post words) : Alike post place again := by
  obtain ⟨words, fulfilled, face⟩ := alike
  exact ⟨words, implies words fulfilled, face⟩

theorem IsSpaced.ahead {words : List (List Char)} {place : Cursor}
    (spaced : IsSpaced words place.rest) (areWords : ∀ word ∈ words, IsWord word) :
    match words with
    | [] => place.skipLayout.rest = []
    | word :: others => ∃ gap rest, IsLayout gap ∧ EndsToken rest ∧ IsSpaced others rest ∧
        place.rest = gap ++ (word ++ rest) ∧
        place.skipLayout = ⟨gap.getLast?.or place.before, word ++ rest⟩ := by
  obtain ⟨before, text⟩ := place
  cases spaced with
  | nil layout =>
      have passed := layout.skip before []
      rw [List.append_nil] at passed
      rw [Cursor.skipLayout, passed]
      rfl
  | @cons gap word rest others layout ends later =>
      refine ⟨gap, rest, layout, ends, later, rfl, ?_⟩
      obtain ⟨c, more, same, noLayout⟩ := (areWords word List.mem_cons_self).exists_front
      have stops : Stops isLayoutStart (word ++ rest) := by
        rw [same]
        exact Stops.cons_iff.2 noLayout
      exact (layout.skip before (word ++ rest)).trans (skipLayout_of_stops stops _)

/-- Behind a word, the next word has a blank in front of it. -/
theorem isBlank_neighbour {words : List (List Char)} {before : Option Char} {rest : List Char}
    (spaced : IsSpaced words rest) (ends : EndsToken rest)
    (areWords : ∀ word ∈ words, IsWord word) (more : words ≠ []) :
    (Cursor.mk before rest).skipLayout.before.all isLayoutBlank = true := by
  obtain ⟨word, others, rfl⟩ := List.exists_cons_of_ne_nil more
  have spacedAhead : IsSpaced (word :: others) (Cursor.mk before rest).rest := spaced
  obtain ⟨gap, behind, layout, -, -, same, skipped⟩ := spacedAhead.ahead areWords
  rw [skipped]
  obtain ⟨c, letters, rfl, noLayout⟩ := (areWords word List.mem_cons_self).exists_front
  cases gap with
  | nil =>
      have front : rest = c :: (letters ++ behind) := same
      rw [front] at ends
      rw [isLayoutStart, EndsToken.cons_iff.1 ends] at noLayout
      contradiction
  | cons d gap =>
      have blank := layout.isLayoutBlank_getLast
      rw [List.getLast?_cons] at blank ⊢
      exact blank

theorem FaceSame.ahead_nil {place again : Cursor} (face : FaceSame [] place again) :
    place.skipLayout.rest = [] ∧ again.skipLayout.rest = [] :=
  ⟨face.here.ahead face.areWords, face.there.ahead face.areWords⟩

theorem FaceSame.ahead_cons {word : List Char} {others : List (List Char)} {place again : Cursor}
    (face : FaceSame (word :: others) place again) :
    ∃ before before' rest other, GoOn others rest other ∧
      place.skipLayout = ⟨before, word ++ rest⟩ ∧ again.skipLayout = ⟨before', word ++ other⟩ := by
  obtain ⟨gap, rest, -, endsHere, here, -, skipped⟩ := face.here.ahead face.areWords
  obtain ⟨gap', other, -, endsThere, there, -, skipped'⟩ := face.there.ahead face.areWords
  have areWords : ∀ word ∈ others, IsWord word :=
    fun next inside => face.areWords next (List.mem_cons_of_mem word inside)
  exact ⟨_, _, rest, other, ⟨areWords, here, endsHere, there, endsThere⟩, skipped, skipped'⟩

/-- Two places behind whole words are alike. -/
theorem GoOn.behind {words : List (List Char)} {before before' : Option Char}
    {rest other : List Char} (goOn : GoOn words rest other) :
    FaceSame words ⟨before, rest⟩ ⟨before', other⟩ :=
  ⟨goOn.areWords, goOn.here, goOn.there, fun more =>
    Or.inr ⟨isBlank_neighbour goOn.here goOn.endsHere goOn.areWords more,
      isBlank_neighbour goOn.there goOn.endsThere goOn.areWords more⟩⟩

/-- Two places inside of the same word are alike. -/
theorem GoOn.inside {left : List Char} {others : List (List Char)} {before : Option Char}
    {rest other : List Char} (goOn : GoOn others rest other) (isPlain : IsPlain left) :
    FaceSame (left :: others) ⟨before, left ++ rest⟩ ⟨before, left ++ other⟩ := by
  have stops : ∀ rest, Stops isLayoutStart (left ++ rest) := by
    intro rest
    obtain ⟨c, more, rfl⟩ := List.exists_cons_of_ne_nil isPlain.nonempty
    have plain := isPlain.isPlainChar c List.mem_cons_self
    exact Stops.cons_iff.2 (isPlainChar_iff.1 plain).1
  refine ⟨?_, .cons .nil goOn.endsHere goOn.here, .cons .nil goOn.endsThere goOn.there,
    fun _ => Or.inl ?_⟩
  · rw [List.forall_mem_cons]
    exact ⟨.plain isPlain, goOn.areWords⟩
  · rw [skipLayout_of_stops (stops rest), skipLayout_of_stops (stops other)]

theorem FaceSame.start {tokens : List (List Char)} {text again : List Char}
    (areWords : ∀ token ∈ tokens, IsWord token) (here : IsSpaced tokens text)
    (there : IsSpaced tokens again) :
    FaceSame tokens (Cursor.start text) (Cursor.start again) := by
  have free : ∀ text, IsSpaced tokens text → tokens ≠ [] →
      (Cursor.start text).skipLayout.before.all isLayoutBlank = true := by
    intro text spaced more
    obtain ⟨word, others, rfl⟩ := List.exists_cons_of_ne_nil more
    have spacedAhead : IsSpaced (word :: others) (Cursor.start text).rest := spaced
    obtain ⟨gap, rest, layout, -, -, -, skipped⟩ := spacedAhead.ahead areWords
    have noFront : gap.getLast?.or (Cursor.start text).before = gap.getLast? := Option.or_none
    rw [skipped, noFront]
    exact layout.isLayoutBlank_getLast
  exact ⟨areWords, here, there, fun more => Or.inr ⟨free text here more, free again there more⟩⟩

/-! ## Sequences and choices -/

theorem SameOutcome.mono {one other : Outcome α} (same : SameOutcome pre one other)
    (implies : ∀ words, pre words → post words) : SameOutcome post one other := by
  cases same with
  | matched alike => exact .matched (alike.mono implies)
  | missed => exact .missed
  | aborted => exact .aborted

theorem SameOutcome.andThen {one other : Outcome α} {next : α → Cursor → Outcome β}
    (same : SameOutcome middle one other)
    (later : ∀ value place again, Alike middle place again →
      SameOutcome post (next value place) (next value again)) :
    SameOutcome post (one.andThen next) (other.andThen next) := by
  cases same with
  | matched alike => exact later _ _ _ alike
  | missed => exact .missed
  | aborted => exact .aborted

namespace Respects

theorem mono {parser : Parser α} (respects : Respects pre parser post)
    (before : ∀ words, stronger words → pre words) (after : ∀ words, post words → weaker words) :
    Respects stronger parser weaker :=
  fun place again alike => (respects place again (alike.mono before)).mono after

theorem pure (value : α) : Respects pre (Pure.pure value : Parser α) pre :=
  fun _ _ alike => .matched alike

theorem bind {parser : Parser α} {next : α → Parser β} (first : Respects pre parser middle)
    (second : ∀ value, Respects middle (next value) post) :
    Respects pre (parser >>= next) post :=
  fun place again alike =>
    (first place again alike).andThen fun value next later => second value next later

theorem map {parser : Parser α} (change : α → β) (respects : Respects pre parser post) :
    Respects pre (change <$> parser) post :=
  respects.bind fun value => pure (change value)

theorem firstOf_nil : Respects pre (Parser.firstOf ([] : List (Parser α))) post :=
  fun _ _ _ => .missed

theorem firstOf_cons {parser : Parser α} {others : List (Parser α)}
    (first : Respects pre parser post) (later : Respects pre (Parser.firstOf others) post) :
    Respects pre (Parser.firstOf (parser :: others)) post := by
  intro place again alike
  have same := first place again alike
  have behind := later place again alike
  simp only [Parser.firstOf]
  generalize parser place = one at same ⊢
  generalize parser again = other at same ⊢
  cases same with
  | matched next => exact .matched next
  | missed => exact behind
  | aborted => exact .aborted

theorem firstOf {parsers : List (Parser α)}
    (each : ∀ parser ∈ parsers, Respects pre parser post) :
    Respects pre (Parser.firstOf parsers) post := by
  induction parsers with
  | nil => exact firstOf_nil
  | cons parser others inductionHypothesis =>
      rw [List.forall_mem_cons] at each
      exact firstOf_cons each.1 (inductionHypothesis each.2)

/-! ## Optional and repeated parts -/

theorem optional {parser : Parser α} (respects : Respects pre parser post)
    (stays : ∀ words, pre words → post words) :
    Respects pre (Parser.optional parser) post := by
  intro place again alike
  have same := respects place again alike
  simp only [Parser.optional]
  generalize parser place = one at same ⊢
  generalize parser again = other at same ⊢
  cases same with
  | matched next => exact .matched next
  | missed => exact .matched (alike.mono stays)
  | aborted => exact .aborted

end Respects

def MissesEnd (parser : Parser α) : Prop :=
  ∀ place : Cursor, place.skipLayout.rest = [] → parser place = .missed

theorem MissesEnd.bind {parser : Parser α} (ends : MissesEnd parser) (next : α → Parser β) :
    MissesEnd (parser >>= next) := by
  intro place ended
  rw [Parser.bind_apply, ends place ended]
  rfl

theorem MissesEnd.map {parser : Parser α} (ends : MissesEnd parser) (change : α → β) :
    MissesEnd (change <$> parser) :=
  ends.bind fun value => pure (change value)

theorem MissesEnd.firstOf {parsers : List (Parser α)}
    (each : ∀ parser ∈ parsers, MissesEnd parser) : MissesEnd (Parser.firstOf parsers) := by
  induction parsers with
  | nil => exact fun _ _ => rfl
  | cons parser others inductionHypothesis =>
      rw [List.forall_mem_cons] at each
      intro place ended
      simp only [Parser.firstOf, each.1 place ended]
      exact inductionHypothesis each.2 place ended

structure Advances (parser : Parser α) : Prop where
  takes : Takes parser
  ends : MissesEnd parser

theorem Advances.bind {parser : Parser α} {next : α → Parser β} (first : Advances parser)
    (second : ∀ value, Shrinks (next value)) : Advances (parser >>= next) :=
  ⟨first.takes.bind second, first.ends.bind next⟩

/-- A bound on the number of matches that is as large as the text ahead is no bound. -/
theorem manyWithin_eq {parser : Parser α} (advances : Advances parser)
    {place : Cursor} {bound more : Nat} (enough : place.rest.length ≤ bound)
    (enoughToo : place.rest.length ≤ more) :
    Parser.manyWithin parser bound place = Parser.manyWithin parser more place := by
  induction bound generalizing place more with
  | zero =>
      have nothing : place.rest = [] := List.length_eq_zero_iff.1 (Nat.le_zero.1 enough)
      have missed : parser place = .missed := by
        refine advances.ends place ?_
        rw [Cursor.skipLayout, nothing]
        rfl
      cases more with
      | zero => rfl
      | succ more => simp only [Parser.manyWithin, missed]
  | succ bound inductionHypothesis =>
      cases more with
      | zero =>
          have nothing : place.rest = [] := List.length_eq_zero_iff.1 (Nat.le_zero.1 enoughToo)
          have missed : parser place = .missed := by
            refine advances.ends place ?_
            rw [Cursor.skipLayout, nothing]
            rfl
          simp only [Parser.manyWithin, missed]
      | succ more =>
          simp only [Parser.manyWithin]
          cases run : parser place with
          | matched value next =>
              have here : Below (place.rest.length + 1) place := Nat.lt_succ_self _
              have fewer : next.rest.length < place.rest.length :=
                (advances.takes _).leaves place here value next run
              simp only [inductionHypothesis (by omega : next.rest.length ≤ bound)
                (by omega : next.rest.length ≤ more)]
          | missed => rfl
          | aborted error stop => rfl

namespace Respects

theorem many {parser : Parser α} (advances : Advances parser)
    (respects : Respects pre parser pre) : Respects pre (Parser.many parser) pre := by
  have within : ∀ bound, Respects pre (Parser.manyWithin parser bound) pre := by
    intro bound
    induction bound with
    | zero => exact pure []
    | succ bound inductionHypothesis =>
        intro place again alike
        have same := respects place again alike
        simp only [Parser.manyWithin]
        generalize parser place = one at same ⊢
        generalize parser again = other at same ⊢
        cases same with
        | matched next =>
            exact (inductionHypothesis _ _ next).andThen fun values _ _ last => .matched last
        | missed => exact .matched alike
        | aborted => exact .aborted
  intro place again alike
  have enough := Nat.le_max_left place.rest.length again.rest.length
  have enoughToo := Nat.le_max_right place.rest.length again.rest.length
  rw [Parser.many, Parser.many, manyWithin_eq advances (Nat.le_refl _) enough,
    manyWithin_eq advances (Nat.le_refl _) enoughToo]
  exact within _ place again alike

/-- Items with separators between them: the separators lead to places where items begin. -/
theorem separated1 {separator : Parser Unit} {parser : Parser α}
    (advances : Advances separator) (shrinks : Shrinks parser)
    (separators : Respects post separator pre) (respects : Respects pre parser post) :
    Respects pre (Parser.separated1 separator parser) post :=
  respects.bind fun _ =>
    (many (advances.bind fun _ => shrinks)
      (separators.bind fun _ => respects)).bind fun _ => pure _

theorem leftChain {operator : Parser β} {combine : β → α → α → α} {operand : Parser α}
    (advances : Advances operator) (shrinks : Shrinks operand)
    (operators : Respects post operator pre) (respects : Respects pre operand post) :
    Respects pre (Parser.leftChain operator combine operand) post :=
  respects.bind fun _ =>
    (many (advances.bind fun _ => shrinks.bind fun _ => Shrinks.pure _)
      (operators.bind fun _ => respects.bind fun _ => pure _)).bind fun _ => pure _

/-! ## Rules inside of themselves -/

/-- A rule that refers to itself in several surroundings respects layout in all of them if each
level does, given that the levels inside do.  What else is known of the levels is carried along. -/
theorem nested {ι : Type} {pre post : ι → Outlook} {rule : Parser α → Parser α}
    {carried : Parser α → Prop} (narrows : AgreeWithin.Narrows rule)
    (ground : carried fun _ => .missed) (carries : ∀ inner, carried inner → carried (rule inner))
    (level : ∀ inner, carried inner → (∀ i, Respects (pre i) inner (post i)) →
      ∀ i, Respects (pre i) (rule inner) (post i)) (i : ι) :
    Respects (pre i) (Parser.nested rule) (post i) := by
  have within : ∀ levels, carried (Parser.nestedWithin rule levels) ∧
      ∀ i, Respects (pre i) (Parser.nestedWithin rule levels) (post i) := by
    intro levels
    induction levels with
    | zero => exact ⟨ground, fun _ _ _ _ => .missed⟩
    | succ levels inductionHypothesis =>
        exact ⟨carries _ inductionHypothesis.1,
          level _ inductionHypothesis.1 inductionHypothesis.2⟩
  intro place again alike
  generalize count : max place.rest.length again.rest.length + 1 = levels
  have counted : ∀ place : Cursor, place.rest.length < levels →
      Parser.nested rule place = Parser.nestedWithin rule levels place := by
    intro place enough
    exact ((AgreeWithin.nested narrows levels).same place enough).symm
  rw [counted place (by omega), counted again (by omega)]
  exact (within levels).2 i place again alike

end Respects

/-! ## The end of the text -/

theorem Alike.isEmpty_eq {outlook : Outlook} {place again : Cursor}
    (alike : Alike outlook place again) :
    place.skipLayout.rest.isEmpty = again.skipLayout.rest.isEmpty := by
  obtain ⟨words, -, face⟩ := alike
  cases words with
  | nil => rw [face.ahead_nil.1, face.ahead_nil.2]
  | cons word others =>
      obtain ⟨_, _, _, _, -, skipped, skipped'⟩ := face.ahead_cons
      obtain ⟨c, more, rfl, -⟩ := (face.areWords word List.mem_cons_self).exists_front
      rw [skipped, skipped']
      rfl

theorem endOfText_respects : Respects pre endOfText fun _ => True := by
  rintro place again ⟨words, -, face⟩
  cases words with
  | nil =>
      obtain ⟨here, there⟩ := face.ahead_nil
      have alike : Alike (fun _ => True) place.skipLayout again.skipLayout := by
        refine ⟨[], trivial, by simp, ?_, ?_, fun more => absurd rfl more⟩
        · rw [here]
          exact .nil .nil
        · rw [there]
          exact .nil .nil
      simp only [endOfText, here, there]
      exact .matched alike
  | cons word others =>
      obtain ⟨_, _, _, _, -, skipped, skipped'⟩ := face.ahead_cons
      obtain ⟨c, more, rfl, -⟩ := (face.areWords word List.mem_cons_self).exists_front
      simp only [endOfText, skipped, skipped']
      exact .missed

end FactQuery.Grammar
