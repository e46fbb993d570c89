import FactQuery.Proofs.Join.BruteForce

/-!
# The order of filters

The filters of a row are asked from left to right, and the first that is not true decides.  Two
orders that both come to an end keep the same rows.  But a filter that is false hides the faults of
all filters behind it, so an order that comes to an end does not vouch for the others.  It does on
rows where no filter faults, and on rows where no filter is false.
-/

set_option autoImplicit false

namespace FactQuery.Filter

open FactQuery.Sparql

variable {row : Row} {first second conditions : List Node}

/-- No condition faults on the row, or none is false of it. -/
def IsSettled (row : Row) (conditions : List Node) : Prop :=
  (∀ condition ∈ conditions, ∃ verdict, holds row condition = .ok verdict) ∨
    ∀ condition ∈ conditions, holds row condition ≠ .ok false

/-! ## One row -/

theorem allTrue_perm (same : first.Perm second) : AllTrue first row ↔ AllTrue second row := by
  constructor
  · intro all condition inside
    exact all condition (same.mem_iff.2 inside)
  · intro all condition inside
    exact all condition (same.mem_iff.1 inside)

theorem isSettled_perm (same : first.Perm second) (settled : IsSettled row first) :
    IsSettled row second := by
  rcases settled with evaluated | noneFalse
  · exact Or.inl fun condition inside => evaluated condition (same.mem_iff.2 inside)
  · exact Or.inr fun condition inside => noneFalse condition (same.mem_iff.2 inside)

theorem allHold_of_allTrue (all : AllTrue conditions row) :
    allHold row conditions = .ok true := by
  induction conditions with
  | nil => rfl
  | cons condition others inductionHypothesis =>
      have later : AllTrue others row :=
        fun other inside => all other (List.mem_cons_of_mem condition inside)
      simp [allHold, all condition List.mem_cons_self, inductionHypothesis later]

theorem allHold_of_evaluated
    (evaluated : ∀ condition ∈ conditions, ∃ verdict, holds row condition = .ok verdict) :
    ∃ verdict, allHold row conditions = .ok verdict := by
  induction conditions with
  | nil => exact ⟨true, rfl⟩
  | cons condition others inductionHypothesis =>
      rw [List.forall_mem_cons] at evaluated
      obtain ⟨⟨verdict, here⟩, areEvaluated⟩ := evaluated
      cases verdict with
      | false => exact ⟨false, by rw [allHold, here]; rfl⟩
      | true => simpa [allHold, here] using inductionHypothesis areEvaluated

theorem allTrue_of_allHold {verdict : Bool}
    (noneFalse : ∀ condition ∈ conditions, holds row condition ≠ .ok false)
    (evaluated : allHold row conditions = .ok verdict) : AllTrue conditions row := by
  induction conditions generalizing verdict with
  | nil => simp [AllTrue]
  | cons condition others inductionHypothesis =>
      rw [List.forall_mem_cons] at noneFalse
      obtain ⟨here, holdsHere, later⟩ := bind_eq_ok_iff.mp evaluated
      cases here with
      | false => exact absurd holdsHere noneFalse.1
      | true =>
          have others := inductionHypothesis noneFalse.2 later
          exact List.forall_mem_cons.2 ⟨holdsHere, others⟩

theorem allHold_perm {verdict other : Bool} (same : first.Perm second)
    (firstRun : allHold row first = .ok verdict) (secondRun : allHold row second = .ok other) :
    verdict = other := by
  rw [Bool.eq_iff_iff, allHold_iff firstRun, allHold_iff secondRun]
  exact allTrue_perm same

theorem allHold_of_settled {verdict : Bool} (same : first.Perm second)
    (settled : IsSettled row first) (decided : allHold row first = .ok verdict) :
    ∃ other, allHold row second = .ok other := by
  rcases settled with evaluated | noneFalse
  · exact allHold_of_evaluated fun condition inside =>
      evaluated condition (same.mem_iff.2 inside)
  · have all := allTrue_of_allHold noneFalse decided
    exact ⟨true, allHold_of_allTrue ((allTrue_perm same).1 all)⟩

/-! ## All rows -/

/-- Filtering succeeds if every row is decided, and keeps the rows of which all is true. -/
theorem apply_eq_ok_iff {rows kept : List Row} :
    apply conditions rows = .ok kept ↔
      (∀ row ∈ rows, ∃ verdict, allHold row conditions = .ok verdict) ∧
        kept = rows.filter fun row => AllTrue conditions row := by
  have decidedEach : ∀ {rows kept : List Row}, apply conditions rows = .ok kept →
      ∀ row ∈ rows, ∃ verdict, allHold row conditions = .ok verdict := by
    intro rows
    induction rows with
    | nil => simp
    | cons row others inductionHypothesis =>
        intro kept run
        obtain ⟨verdict, decided, run⟩ := bind_eq_ok_iff.mp run
        obtain ⟨rest, later, _⟩ := bind_eq_ok_iff.mp run
        exact List.forall_mem_cons.2 ⟨⟨verdict, decided⟩, inductionHypothesis later⟩
  constructor
  · intro run
    have decided := decidedEach run
    rw [apply_eq_filter decided] at run
    exact ⟨decided, (Except.ok.inj run).symm⟩
  · rintro ⟨decided, rfl⟩
    exact apply_eq_filter decided

theorem filter_perm (same : first.Perm second) (rows : List Row) :
    (rows.filter fun row => AllTrue first row) = rows.filter fun row => AllTrue second row := by
  refine List.filter_congr fun row _ => ?_
  rw [decide_eq_decide]
  exact allTrue_perm same

/-- An order that comes to an end vouches for every other order where the rows are settled. -/
theorem apply_of_settled {rows kept : List Row} (same : first.Perm second)
    (settled : ∀ row ∈ rows, IsSettled row first) (run : apply first rows = .ok kept) :
    apply second rows = .ok kept := by
  obtain ⟨decided, rfl⟩ := apply_eq_ok_iff.1 run
  rw [filter_perm same, apply_eq_ok_iff]
  refine ⟨fun row inside => ?_, rfl⟩
  obtain ⟨verdict, here⟩ := decided row inside
  exact allHold_of_settled same (settled row inside) here

theorem apply_eq_of_perm {rows kept other : List Row} (same : first.Perm second)
    (firstRun : apply first rows = .ok kept) (secondRun : apply second rows = .ok other) :
    kept = other := by
  rw [(apply_eq_ok_iff.1 firstRun).2, (apply_eq_ok_iff.1 secondRun).2]
  exact filter_perm same rows

theorem toOption_apply_of_settled {rows : List Row} (same : first.Perm second)
    (settled : ∀ row ∈ rows, IsSettled row first) :
    (apply first rows).toOption = (apply second rows).toOption := by
  have back : ∀ row ∈ rows, IsSettled row second :=
    fun row inside => isSettled_perm same (settled row inside)
  cases firstRun : apply first rows with
  | ok kept => rw [apply_of_settled same settled firstRun]
  | error fault =>
      cases secondRun : apply second rows with
      | ok kept =>
          rw [apply_of_settled same.symm back secondRun] at firstRun
          contradiction
      | error other => rfl

/-- Two orders of the same filters keep the same rows if both come to an end.  Where on each row no
filter faults or none is false, both come to an end or neither does. -/
theorem apply_perm {rows : List Row} (same : first.Perm second) :
    (∀ kept other, apply first rows = .ok kept → apply second rows = .ok other → kept = other) ∧
      ((∀ row ∈ rows, IsSettled row first) →
        (apply first rows).toOption = (apply second rows).toOption) :=
  ⟨fun _ _ => apply_eq_of_perm same, toOption_apply_of_settled same⟩

/-- Two bounds on a number, in both orders. -/
theorem apply_perm_numbers :
    let name : Node := .term (.variable "y")
    let above : Node := .binary ">" name (.term (.literal "1900" none none))
    let below : Node := .binary "<" name (.term (.literal "1950" none none))
    let rows : List Row := [.ofList [("y", some "1949")], .ofList [("y", some "1965")]]
    (apply [above, below] rows).toOption = some [.ofList [("y", some "1949")]] ∧
      (apply [above, below] rows).toOption = (apply [below, above] rows).toOption := by
  intro name above below rows
  have settled : ∀ row ∈ rows, IsSettled row [above, below] := by
    intro row inside
    have evaluated : ∀ row ∈ rows, ∀ condition ∈ [above, below],
        (holds row condition).toOption.isSome = true := by decide +kernel
    refine Or.inl fun condition known => ?_
    have here := evaluated row inside condition known
    cases verdict : holds row condition with
    | ok value => exact ⟨value, rfl⟩
    | error fault =>
        rw [verdict] at here
        contradiction
  exact ⟨by decide +kernel, (apply_perm (List.Perm.swap below above [])).2 settled⟩

/-! ## Where the order shows -/

/-- A fault and a refusal on one row: the order of the two decides whether filtering fails. -/
theorem not_isSettled_iff :
    ¬IsSettled row conditions ↔
      ∃ faulty ∈ conditions, ∃ refusing ∈ conditions,
        (∀ verdict, holds row faulty ≠ .ok verdict) ∧ holds row refusing = .ok false := by
  unfold IsSettled
  push Not
  constructor
  · rintro ⟨⟨faulty, known, fault⟩, refusing, inside, refuses⟩
    exact ⟨faulty, known, refusing, inside, fault, refuses⟩
  · rintro ⟨faulty, known, refusing, inside, fault, refuses⟩
    exact ⟨⟨faulty, known, fault⟩, refusing, inside, refuses⟩

/-- A row is settled exactly if every order of the filters deals with it alike. -/
theorem isSettled_iff :
    IsSettled row conditions ↔
      ∀ other, other.Perm conditions →
        (apply other [row]).toOption = (apply conditions [row]).toOption := by
  constructor
  · intro settled other same
    exact toOption_apply_of_settled same (by simpa using isSettled_perm same.symm settled)
  · intro alike
    by_contra unsettled
    obtain ⟨faulty, known, refusing, inside, fault, refuses⟩ := not_isSettled_iff.1 unsettled
    have moved : ∀ condition ∈ conditions, ∃ others, (condition :: others).Perm conditions := by
      intro condition found
      obtain ⟨before, behind, split⟩ := List.append_of_mem found
      exact ⟨before ++ behind, split ▸ List.perm_middle.symm⟩
    -- The filter that faults comes first in one order, and the one that is false in another.
    obtain ⟨behindFaulty, faultyFirst⟩ := moved faulty known
    obtain ⟨behindRefusing, refusingFirst⟩ := moved refusing inside
    have fails : (apply (faulty :: behindFaulty) [row]).toOption = none := by
      cases verdict : holds row faulty with
      | ok value => exact absurd verdict (fault value)
      | error error =>
          simp only [apply, allHold, verdict, error_bind]
          rfl
    have drops : (apply (refusing :: behindRefusing) [row]).toOption = some [] := by
      simp only [apply, allHold, refuses, ok_bind]
      rfl
    rw [alike _ faultyFirst] at fails
    rw [alike _ refusingFirst, fails] at drops
    contradiction

/-- The order shows: a comparison that is false hides a variable without a value, and does not hide
it from in front of it. -/
theorem apply_depends_on_order :
    ¬∀ (rows : List Row) (first second : List Node), first.Perm second →
      (apply first rows).toOption = (apply second rows).toOption := by
  intro always
  let refusing : Node := .binary "=" (.term (.variable "o")) (.term (.literal "b" none none))
  let unbound : Node := .binary "=" (.term (.variable "z")) (.term (.literal "c" none none))
  let row : Row := .ofList [("o", some "a")]
  have drops : (apply [refusing, unbound] [row]).toOption = some [] := by decide +kernel
  have fails : (apply [unbound, refusing] [row]).toOption = none := by decide +kernel
  have swapped : [refusing, unbound].Perm [unbound, refusing] := List.Perm.swap unbound refusing []
  have alike := always [row] [refusing, unbound] [unbound, refusing] swapped
  rw [drops, fails] at alike
  contradiction

end FactQuery.Filter
