import FactQuery.Proofs.Grammar.Levels

/-!
# One item among others

A list of items is read item by item.  Here one of them is singled out: what is read in front of it
and what is read behind it are given by the runs of the parser, and the item itself may then be
anything that is read from its place to the place behind it.
-/

set_option autoImplicit false

namespace FactQuery.Grammar

variable {α β : Type} {parser : Parser α} {start inner behind middle last : Cursor} {value : α}
  {before after : List α}

/-! ## Runs of the combinators -/

theorem map_missed {change : α → β} (missed : parser start = .missed) :
    (change <$> parser) start = .missed := by
  show (parser start).andThen _ = .missed
  rw [missed]
  rfl

theorem map_matched {change : α → β} (matched : parser start = .matched value last) :
    (change <$> parser) start = .matched (change value) last := by
  show (parser start).andThen _ = .matched (change value) last
  rw [matched]
  rfl

theorem bind_missed {next : α → Parser β} (missed : parser start = .missed) :
    (parser >>= next) start = .missed := by
  rw [Parser.bind_apply, missed]
  rfl

theorem firstOf_missed {others : List (Parser α)} (missed : parser start = .missed) :
    Parser.firstOf (parser :: others) start = Parser.firstOf others start := by
  simp only [Parser.firstOf, missed]

theorem firstOf_matched {others : List (Parser α)} (matched : parser start = .matched value last) :
    Parser.firstOf (parser :: others) start = .matched value last := by
  simp only [Parser.firstOf, matched]

theorem optional_matched (matched : parser start = .matched value last) :
    Parser.optional parser start = .matched (some value) last := by
  simp only [Parser.optional, matched]

theorem optional_missed (missed : parser start = .missed) :
    Parser.optional parser start = .matched none start := by
  simp only [Parser.optional, missed]

theorem manyWithin_missed (missed : parser start = .missed) (bound : Nat) :
    Parser.manyWithin parser bound start = .matched [] start := by
  cases bound with
  | zero => rfl
  | succ bound => simp only [Parser.manyWithin, missed]

theorem many_missed (missed : parser start = .missed) :
    Parser.many parser start = .matched [] start :=
  manyWithin_missed missed start.rest.length

inductive Runs (parser : Parser α) : Cursor → List α → Cursor → Prop where
  | stay (place : Cursor) : Runs parser place [] place
  | step {place middle last : Cursor} {value : α} {values : List α}
      (run : parser place = .matched value middle) (later : Runs parser middle values last) :
      Runs parser place (value :: values) last

/-- The parser matches several times in a row, and then not once more. -/
structure RunsOut (parser : Parser α) (start : Cursor) (values : List α) (last : Cursor) : Prop where
  runs : Runs parser start values last
  ended : parser last = .missed

theorem Runs.length_le (takes : Takes parser) (runs : Runs parser start before last) :
    before.length + last.rest.length ≤ start.rest.length := by
  induction runs with
  | stay place => simp
  | @step place middle last value values run later inductionHypothesis =>
      have fewer : middle.rest.length < place.rest.length :=
        (takes place.rest.length).leaves place (Nat.lt_succ_self _) value middle run
      rw [List.length_cons]
      omega

theorem RunsOut.many (takes : Takes parser) (runs : RunsOut parser start before last) :
    Parser.many parser start = .matched before last := by
  have within : ∀ {start values bound}, Runs parser start values last → values.length ≤ bound →
      Parser.manyWithin parser bound start = .matched values last := by
    intro start values bound each enough
    induction each generalizing bound with
    | stay place =>
        have ended := runs.ended
        cases bound with
        | zero => rfl
        | succ bound => simp only [Parser.manyWithin, ended]
    | step run later inductionHypothesis =>
        cases bound with
        | zero => simp at enough
        | succ bound =>
            have further := inductionHypothesis runs (Nat.le_of_succ_le_succ enough)
            simp only [Parser.manyWithin, run, further, Outcome.andThen]
  have short := runs.runs.length_le takes
  exact within runs.runs (by omega)

theorem Runs.more (runs : Runs parser start before middle)
    (run : parser middle = .matched value behind) (later : RunsOut parser behind after last) :
    RunsOut parser start (before ++ value :: after) last := by
  induction runs with
  | stay place => exact ⟨.step run later.runs, later.ended⟩
  | step earlier _ inductionHypothesis =>
      have further := inductionHypothesis run
      exact ⟨.step earlier further.runs, further.ended⟩

/-! ## Rows -/

/-- In a row of items one stands from `inner` to `behind`. -/
structure AmidMany (item : Parser α) (start : Cursor) (before : List α) (inner behind : Cursor)
    (after : List α) (last : Cursor) : Prop where
  earlier : Runs item start before inner
  later : RunsOut item behind after last

theorem AmidMany.run (takes : Takes parser)
    (amid : AmidMany parser start before inner behind after last)
    (here : parser inner = .matched value behind) :
    Parser.many parser start = .matched (before ++ value :: after) last :=
  (amid.earlier.more here amid.later).many takes

/-! ## Lists with separators -/

/-- In a list of items with separators between them one item stands from `inner` to `behind`. -/
inductive AmidSeparated (separator : Parser Unit) (item : Parser α) :
    Cursor → List α → Cursor → Cursor → List α → Cursor → Prop where
  | first {inner behind last : Cursor} {after : List α}
      (later : RunsOut (do separator; item) behind after last) :
      AmidSeparated separator item inner [] inner behind after last
  | later {start middle gap inner behind last : Cursor} {value : α} {before after : List α}
      (first : item start = .matched value middle)
      (earlier : Runs (do separator; item) middle before gap)
      (separated : separator gap = .matched () inner)
      (later : RunsOut (do separator; item) behind after last) :
      AmidSeparated separator item start (value :: before) inner behind after last

theorem AmidSeparated.run {separator : Parser Unit} {item : Parser α} (takes : Takes separator)
    (shrinks : Shrinks item)
    (amid : AmidSeparated separator item start before inner behind after last)
    (here : item inner = .matched value behind) :
    Parser.separated1 separator item start = .matched (before ++ value :: after) last := by
  have step : Takes (do separator; item) := takes.bind fun _ => shrinks
  cases amid with
  | first later =>
      simp only [Parser.separated1, Parser.bind_apply, here, Outcome.andThen, later.many step]
      rfl
  | later first earlier separated later =>
      rename_i middle gap front others
      have next : (do separator; item : Parser α) gap = .matched value behind := by
        rw [Parser.bind_apply, separated]
        exact here
      have others := (earlier.more next later).many step
      simp only [Parser.separated1, Parser.bind_apply, first, Outcome.andThen, others]
      rfl

/-! ## Chains of operators -/

def chainStep (operator : Parser β) (operand : Parser α) : Parser (β × α) := do
  let sign ← operator
  let next ← operand
  return (sign, next)

def joinAll (combine : β → α → α → α) (first : α) (steps : List (β × α)) : α :=
  steps.foldl (fun left step => combine step.1 left step.2) first

/-- In a chain of operands one stands from `inner` to `behind`; `join` is what the chain makes of
it. -/
inductive AmidChain (operator : Parser β) (combine : β → α → α → α) (operand : Parser α) :
    Cursor → Cursor → Cursor → (α → α) → Cursor → Prop where
  | first {inner behind last : Cursor} {steps : List (β × α)}
      (later : RunsOut (chainStep operator operand) behind steps last) :
      AmidChain operator combine operand inner inner behind (joinAll combine · steps) last
  | later {start middle gap inner behind last : Cursor} {value : α} {sign : β}
      {steps others : List (β × α)} (first : operand start = .matched value middle)
      (earlier : Runs (chainStep operator operand) middle steps gap)
      (signed : operator gap = .matched sign inner)
      (later : RunsOut (chainStep operator operand) behind others last) :
      AmidChain operator combine operand start inner behind
        (fun right => joinAll combine (combine sign (joinAll combine value steps) right) others) last

theorem AmidChain.run {operator : Parser β} {combine : β → α → α → α} {operand : Parser α}
    {join : α → α} (takes : Takes operator) (shrinks : Shrinks operand)
    (amid : AmidChain operator combine operand start inner behind join last)
    (here : operand inner = .matched value behind) :
    Parser.leftChain operator combine operand start = .matched (join value) last := by
  have step : Takes (chainStep operator operand) :=
    takes.bind fun _ => shrinks.bind fun _ => Shrinks.pure _
  have whole : Parser.leftChain operator combine operand = operand >>= fun first =>
      Parser.many (chainStep operator operand) >>= fun others =>
        pure (joinAll combine first others) := rfl
  cases amid with
  | first later =>
      simp only [whole, Parser.bind_apply, here, Outcome.andThen, later.many step]
      rfl
  | later first earlier signed later =>
      rename_i middle gap front sign steps others
      have next : chainStep operator operand gap = .matched (sign, value) behind := by
        simp only [chainStep, Parser.bind_apply, signed, here, Outcome.andThen]
        rfl
      have row := (earlier.more next later).many step
      simp only [whole, Parser.bind_apply, first, Outcome.andThen, row]
      simp [joinAll, Parser.pure_apply]

end FactQuery.Grammar
