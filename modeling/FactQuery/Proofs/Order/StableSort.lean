/-!
# Stable sorting

A list is sorted stably if nothing is lost or added, no item stands behind one that it compares less
than, and items that tie stay in the order that they had.  For a comparison that is transitive these
three say which list it is, so two ways to arrive at them lead to the same list.
-/

set_option autoImplicit false

namespace FactQuery

open Std

variable {α : Type} {compare : α → α → Ordering}

/-- The items that tie with one item, in order. -/
def tiesWith (compare : α → α → Ordering) (item : α) (items : List α) : List α :=
  items.filter fun other => compare item other == .eq

structure IsStableSort (compare : α → α → Ordering) (items sorted : List α) : Prop where
  perm : sorted.Perm items
  ascends : sorted.Pairwise fun earlier later => (compare earlier later).isLE = true
  keeps : ∀ item, tiesWith compare item sorted = tiesWith compare item items

theorem mem_tiesWith_self [ReflCmp compare] {item : α} {items : List α} :
    item ∈ tiesWith compare item items ↔ item ∈ items := by
  simp [tiesWith, ReflCmp.compare_self]

/-! ## The stable sort is determined -/

/-- Lists that ascend and have the same ties begin with the same item. -/
theorem head_eq_of_ties [TransCmp compare] {first second : α} {others more : List α}
    (ascends : (first :: others).Pairwise fun earlier later => (compare earlier later).isLE = true)
    (ascendsToo : (second :: more).Pairwise fun earlier later =>
      (compare earlier later).isLE = true)
    (same : ∀ item, tiesWith compare item (first :: others) =
      tiesWith compare item (second :: more)) : first = second := by
  have atMost : ∀ {front item : α} {behind : List α},
      (front :: behind).Pairwise (fun earlier later => (compare earlier later).isLE = true) →
      item ∈ front :: behind → (compare front item).isLE = true := by
    intro front item behind ordered inside
    rcases List.mem_cons.1 inside with rfl | later
    · have self : compare item item = .eq := ReflCmp.compare_self
      rw [self]
      rfl
    · exact (List.pairwise_cons.1 ordered).1 item later
  have inSecond : first ∈ second :: more := by
    have tied : first ∈ tiesWith compare first (first :: others) :=
      mem_tiesWith_self.2 List.mem_cons_self
    rwa [same first, mem_tiesWith_self] at tied
  have inFirst : second ∈ first :: others := by
    have tied : second ∈ tiesWith compare second (second :: more) :=
      mem_tiesWith_self.2 List.mem_cons_self
    rwa [← same second, mem_tiesWith_self] at tied
  have tie : compare first second = .eq :=
    OrientedCmp.isLE_antisymm (atMost ascends inFirst) (atMost ascendsToo inSecond)
  have whole := same first
  rw [tiesWith, tiesWith, List.filter_cons_of_pos (by simp [ReflCmp.compare_self]),
    List.filter_cons_of_pos (by simp [tie])] at whole
  exact (List.cons.inj whole).1

theorem eq_of_ties [TransCmp compare] {first second : List α}
    (ascends : first.Pairwise fun earlier later => (compare earlier later).isLE = true)
    (ascendsToo : second.Pairwise fun earlier later => (compare earlier later).isLE = true)
    (same : ∀ item, tiesWith compare item first = tiesWith compare item second) :
    first = second := by
  induction first generalizing second with
  | nil =>
      cases second with
      | nil => rfl
      | cons item more =>
          have inside : item ∈ tiesWith compare item (item :: more) :=
            mem_tiesWith_self.2 List.mem_cons_self
          rw [← same item] at inside
          exact absurd inside List.not_mem_nil
  | cons item others inductionHypothesis =>
      cases second with
      | nil =>
          have inside : item ∈ tiesWith compare item (item :: others) :=
            mem_tiesWith_self.2 List.mem_cons_self
          rw [same item] at inside
          exact absurd inside List.not_mem_nil
      | cons other more =>
          obtain rfl : item = other := head_eq_of_ties ascends ascendsToo same
          have sameBehind : ∀ tied, tiesWith compare tied others = tiesWith compare tied more := by
            intro tied
            have whole := same tied
            simp only [tiesWith, List.filter_cons] at whole
            split at whole
            · exact (List.cons.inj whole).2
            · exact whole
          rw [inductionHypothesis (List.pairwise_cons.1 ascends).2
            (List.pairwise_cons.1 ascendsToo).2 sameBehind]

/-- There is one stable sort of a list. -/
theorem IsStableSort.unique [TransCmp compare] {items first second : List α}
    (sorts : IsStableSort compare items first) (sortsToo : IsStableSort compare items second) :
    first = second :=
  eq_of_ties sorts.ascends sortsToo.ascends fun item => by rw [sorts.keeps, sortsToo.keeps]

theorem tiesWith_of_tie [TransCmp compare] {first second : α} (tie : compare first second = .eq)
    (items : List α) : tiesWith compare first items = tiesWith compare second items := by
  refine List.filter_congr fun other _ => ?_
  rw [TransCmp.congr_left tie]

theorem IsStableSort.of_forall_mem [TransCmp compare] {items sorted : List α}
    (perm : sorted.Perm items)
    (ascends : sorted.Pairwise fun earlier later => (compare earlier later).isLE = true)
    (keeps : ∀ item ∈ items, tiesWith compare item sorted = tiesWith compare item items) :
    IsStableSort compare items sorted := by
  refine ⟨perm, ascends, fun item => ?_⟩
  by_cases tied : ∃ other ∈ items, compare item other = .eq
  · obtain ⟨other, inside, tie⟩ := tied
    rw [tiesWith_of_tie tie, tiesWith_of_tie tie, keeps other inside]
  · have noTie : ∀ others : List α, others ⊆ items → tiesWith compare item others = [] := by
      intro others subset
      rw [tiesWith, List.filter_eq_nil_iff]
      intro other inside tie
      exact tied ⟨other, subset inside, by simpa using tie⟩
    rw [noTie sorted perm.subset, noTie items (List.Subset.refl items)]

/-! ## Merge sort is a stable sort -/

theorem mergeSort_isStableSort [TransCmp compare] (items : List α) :
    IsStableSort compare items
      (items.mergeSort fun earlier later => (compare earlier later).isLE) := by
  have trans : ∀ a b c : α, (compare a b).isLE = true → (compare b c).isLE = true →
      (compare a c).isLE = true :=
    fun _ _ _ => TransCmp.isLE_trans
  have total : ∀ a b : α, ((compare a b).isLE || (compare b a).isLE) = true := by
    intro a b
    have swapped : compare b a = (compare a b).swap := OrientedCmp.eq_swap
    rw [swapped]
    cases compare a b <;> rfl
  have perm := List.mergeSort_perm items fun earlier later => (compare earlier later).isLE
  refine ⟨perm, List.pairwise_mergeSort trans total items, fun item => ?_⟩
  -- The items that tie are an ascending part of the list, and such a part stays a part.
  have ascends : (tiesWith compare item items).Pairwise fun earlier later =>
      (compare earlier later).isLE = true := by
    refine List.pairwise_of_forall_mem_list fun earlier isEarlier later isLater => ?_
    have left : compare item earlier = .eq := by simpa using (List.mem_filter.1 isEarlier).2
    have right : compare item later = .eq := by simpa using (List.mem_filter.1 isLater).2
    rw [TransCmp.eq_trans (OrientedCmp.eq_symm left) right]
    rfl
  have part := (List.sublist_mergeSort trans total ascends List.filter_sublist).filter
    fun other => compare item other == .eq
  rw [tiesWith, List.filter_filter] at part
  simp only [Bool.and_self] at part
  exact (part.eq_of_length (perm.filter _).length_eq.symm).symm

/-! ## Two passes -/

theorem tiesWith_compareLex (first second : α → α → Ordering) (item : α) (items : List α) :
    tiesWith (compareLex first second) item items =
      tiesWith second item (tiesWith first item items) := by
  rw [tiesWith, tiesWith, tiesWith, List.filter_filter]
  refine List.filter_congr fun other _ => ?_
  rw [compareLex]
  cases first item other <;> cases second item other <;> rfl

theorem tiesWith_comm (first second : α → α → Ordering) (item : α) (items : List α) :
    tiesWith second item (tiesWith first item items) =
      tiesWith first item (tiesWith second item items) := by
  simp only [tiesWith, List.filter_filter, Bool.and_comm]

/-- Items that are sorted by one comparison, and the result by another, are sorted by the latter
with the former for its ties. -/
theorem IsStableSort.then {first second : α → α → Ordering} [ReflCmp first]
    {items middle sorted : List α} (sorts : IsStableSort second items middle)
    (sortsAgain : IsStableSort first middle sorted) :
    IsStableSort (compareLex first second) items sorted where
  perm := sortsAgain.perm.trans sorts.perm
  ascends := by
    rw [List.pairwise_iff_forall_sublist]
    intro earlier later pair
    have atMost := List.pairwise_iff_forall_sublist.1 sortsAgain.ascends pair
    rw [compareLex]
    cases order : first earlier later with
    | lt => rfl
    | gt =>
        rw [order] at atMost
        cases atMost
    | eq =>
        have tied := pair.filter fun other => first earlier other == .eq
        rw [List.filter_cons_of_pos (by simp [ReflCmp.compare_self]),
          List.filter_cons_of_pos (by simp [order]), List.filter_nil] at tied
        have kept : [earlier, later].Sublist (tiesWith first earlier middle) :=
          sortsAgain.keeps earlier ▸ tied
        exact List.pairwise_iff_forall_sublist.1 sorts.ascends (kept.trans List.filter_sublist)
  keeps item := by
    rw [tiesWith_compareLex, tiesWith_compareLex, sortsAgain.keeps, tiesWith_comm, sorts.keeps,
      tiesWith_comm]

/-! ## Without repetitions -/

section Repetitions

variable [BEq α]

/-- Induction along the removal of repetitions: behind an item stand the others that are not equal
to it. -/
theorem eraseDups_induction {holds : List α → Prop} (nil : holds [])
    (cons : ∀ item others, holds (others.filter fun other => !other == item) →
      holds (item :: others)) (items : List α) : holds items := by
  induction size : items.length using Nat.strongRecOn generalizing items with
  | ind bound inductionHypothesis =>
      cases items with
      | nil => exact nil
      | cons item others =>
          have shorter := List.length_filter_le (fun other => !other == item) others
          rw [List.length_cons] at size
          exact cons item others (inductionHypothesis _ (by omega) _ rfl)

theorem eraseDups_sublist (items : List α) : items.eraseDups.Sublist items := by
  induction items using eraseDups_induction with
  | nil => exact List.Sublist.slnil
  | cons item others inductionHypothesis =>
      rw [List.eraseDups_cons]
      exact (inductionHypothesis.trans List.filter_sublist).cons_cons item

variable [LawfulBEq α]

theorem filter_eraseDups (keep : α → Bool) (items : List α) :
    items.eraseDups.filter keep = (items.filter keep).eraseDups := by
  induction items using eraseDups_induction with
  | nil => rfl
  | cons item others inductionHypothesis =>
      rw [List.eraseDups_cons, List.filter_cons, List.filter_cons, inductionHypothesis,
        List.filter_filter]
      split
      · rw [List.eraseDups_cons, List.filter_filter]
        simp only [Bool.and_comm]
      · rename_i dropped
        refine congrArg List.eraseDups (List.filter_congr fun other _ => ?_)
        cases kept : keep other with
        | false => rfl
        | true =>
            have different : other ≠ item := fun same => dropped (same ▸ kept)
            simp [different]

theorem nodup_eraseDups (items : List α) : items.eraseDups.Nodup := by
  induction items using eraseDups_induction with
  | nil => exact List.nodup_nil
  | cons item others inductionHypothesis =>
      rw [List.eraseDups_cons, List.nodup_cons]
      exact ⟨by simp, inductionHypothesis⟩

/-- Items that are freed of repetitions after they were sorted are sorted as if they had been freed
of them before. -/
theorem IsStableSort.eraseDups {items sorted : List α} (sorts : IsStableSort compare items sorted) :
    IsStableSort compare items.eraseDups sorted.eraseDups := by
  refine ⟨?_, sorts.ascends.sublist (eraseDups_sublist sorted), fun item => ?_⟩
  · refine (List.perm_ext_iff_of_nodup (nodup_eraseDups sorted) (nodup_eraseDups items)).2 ?_
    intro item
    rw [List.mem_eraseDups, List.mem_eraseDups, sorts.perm.mem_iff]
  · have same := sorts.keeps item
    rw [tiesWith, tiesWith] at same ⊢
    rw [filter_eraseDups, filter_eraseDups, same]

end Repetitions

end FactQuery
