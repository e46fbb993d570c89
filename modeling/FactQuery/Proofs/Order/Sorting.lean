import FactQuery.Evaluation.Select
import FactQuery.Proofs.Order.StableSort
import FactQuery.Proofs.Order.Standing

/-!
# Sorted rows

Where every column that is ordered by is uniform, the rows can be sorted, and the result is their
stable sort by their standings.  A stable sort by one condition keeps what sorts by later conditions
have done, so the rows can also be sorted by one condition at a time.  Which rows are repetitions
does not depend on their order, so it does not matter whether repetitions are removed before the
rows are sorted or after.
-/

set_option autoImplicit false

namespace FactQuery

open FactQuery.Sparql FactQuery.Number

namespace Order

theorem isReadable_of_areUniform {conditions : List OrderCondition} {rows : List Row}
    (uniform : AreUniform conditions rows) : rows.all (isReadable conditions) = true := by
  rw [List.all_eq_true]
  intro row inside
  unfold isReadable
  rw [List.all_eq_true]
  intro condition asked
  cases found : Row.value? row condition.variableName with
  | none => rfl
  | some value =>
      have present := mem_column inside found
      rw [Option.all_some]
      rcases uniform condition asked with numerals | texts
      · exact (numerals value present).2
      · rw [coerce_of_not_isNumeral (texts value present)]
        rfl

theorem sort_eq {conditions : List OrderCondition} {rows : List Row}
    (uniform : AreUniform conditions rows) :
    sort conditions rows =
      .ok (rows.mergeSort fun left right => (byStandings conditions left right).isLE) := by
  have same : rows.mergeSort (comesFirst conditions) =
      rows.mergeSort fun left right => (byStandings conditions left right).isLE := by
    have agree : ∀ left ∈ rows, ∀ right ∈ rows, comesFirst conditions left right =
        (byStandings conditions left right).isLE := by
      intro left isLeft right isRight
      rw [comesFirst, compareRows_eq uniform isLeft isRight]
      cases byStandings conditions left right <;> rfl
    have mapped : (rows.mergeSort (comesFirst conditions)).map id =
        (rows.map id).mergeSort fun left right => (byStandings conditions left right).isLE :=
      List.map_mergeSort agree
    rwa [List.map_id, List.map_id] at mapped
  rw [sort, isReadable_of_areUniform uniform, same]
  rfl

theorem isStableSort_of_sort {conditions : List OrderCondition} {rows sorted : List Row}
    (uniform : AreUniform conditions rows) (sorts : sort conditions rows = .ok sorted) :
    IsStableSort (byStandings conditions) rows sorted := by
  rw [sort_eq uniform] at sorts
  rw [← Except.ok.inj sorts]
  exact mergeSort_isStableSort rows

/-- Sorting loses and adds no row, puts none in front of one that it is behind under the conditions
taken from left to right, and keeps the order of those that tie on all of them. -/
theorem sort_isStableSort {conditions : List OrderCondition} {rows : List Row}
    (uniform : AreUniform conditions rows) :
    ∃ sorted, sort conditions rows = .ok sorted ∧
      IsStableSort (byStandings conditions) rows sorted :=
  ⟨_, sort_eq uniform, isStableSort_of_sort uniform (sort_eq uniform)⟩

/-- Rows of which two tie as numbers and differ as texts, and one has no number. -/
def countedRows : List Row :=
  [.ofList [("n", some "10"), ("t", some "a")], .ofList [("n", some "1.0"), ("t", some "b")],
    .ofList [("n", none), ("t", some "c")], .ofList [("n", some " 1"), ("t", some "b")],
    .ofList [("n", some "10"), ("t", some "a")]]

theorem sort_isStableSort_counted :
    let conditions : List OrderCondition := [⟨"n", true⟩, ⟨"t", false⟩]
    let sorted : List Row :=
      [.ofList [("n", some "10"), ("t", some "a")], .ofList [("n", some "10"), ("t", some "a")],
        .ofList [("n", some "1.0"), ("t", some "b")], .ofList [("n", some " 1"), ("t", some "b")],
        .ofList [("n", none), ("t", some "c")]]
    AreUniform conditions countedRows ∧ sort conditions countedRows = .ok sorted ∧
      IsStableSort (byStandings conditions) countedRows sorted := by
  intro conditions sorted
  have uniform : AreUniform conditions countedRows := by decide +kernel
  have known : IsStableSort (byStandings conditions) countedRows sorted :=
    .of_forall_mem (by decide +kernel) (by decide +kernel) (by decide +kernel)
  obtain ⟨found, sorts, isSort⟩ := sort_isStableSort uniform
  obtain rfl : found = sorted := isSort.unique known
  exact ⟨uniform, sorts, known⟩

/-! ## One condition at a time -/

/-- The rows sorted by each condition alone, one after the other, from the last to the first. -/
def sortByEach (conditions : List OrderCondition) (rows : List Row) : Evaluation (List Row) :=
  conditions.foldrM (fun condition sorted => sort [condition] sorted) rows

theorem areUniform_of_subset {conditions : List OrderCondition} {rows fewer : List Row}
    (subset : fewer ⊆ rows) (uniform : AreUniform conditions rows) :
    AreUniform conditions fewer := by
  intro condition asked
  have fewerValues : ∀ value ∈ column fewer condition.variableName,
      value ∈ column rows condition.variableName := by
    intro value present
    obtain ⟨row, inside, found⟩ := List.mem_filterMap.1 present
    exact mem_column (subset inside) found
  rcases uniform condition asked with numerals | texts
  · exact Or.inl fun value present => numerals value (fewerValues value present)
  · exact Or.inr fun value present => texts value (fewerValues value present)

theorem byStandings_singleton (condition : OrderCondition) :
    byStandings [condition] = byStanding condition := by
  funext left right
  exact Ordering.then_eq

theorem isStableSort_nil (rows : List Row) : IsStableSort (byStandings []) rows rows where
  perm := .refl rows
  ascends := List.pairwise_of_forall fun _ _ => rfl
  keeps _ := rfl

/-- Each pass keeps the order that the passes before it have made for its own ties. -/
theorem sortByEach_isStableSort {conditions : List OrderCondition} {rows : List Row}
    (uniform : AreUniform conditions rows) :
    ∃ sorted, sortByEach conditions rows = .ok sorted ∧
      IsStableSort (byStandings conditions) rows sorted := by
  induction conditions with
  | nil => exact ⟨rows, rfl, isStableSort_nil rows⟩
  | cons condition others inductionHypothesis =>
      obtain ⟨here, later⟩ := List.forall_mem_cons.1 uniform
      obtain ⟨middle, passes, sortsOthers⟩ := inductionHypothesis later
      have stillUniform : AreUniform [condition] middle :=
        areUniform_of_subset sortsOthers.perm.subset (List.forall_mem_singleton.2 here)
      obtain ⟨sorted, pass⟩ : ∃ sorted, sort [condition] middle = .ok sorted :=
        ⟨_, sort_eq stillUniform⟩
      have sorts := isStableSort_of_sort stillUniform pass
      rw [byStandings_singleton] at sorts
      refine ⟨sorted, ?_, sortsOthers.then sorts⟩
      rw [sortByEach, List.foldrM_cons]
      exact bind_eq_ok_iff.2 ⟨middle, passes, pass⟩

/-- Sorting by several conditions is sorting by one at a time, the last one first. -/
theorem sort_eq_sortByEach {conditions : List OrderCondition} {rows : List Row}
    (uniform : AreUniform conditions rows) :
    ∃ sorted, sort conditions rows = .ok sorted ∧ sortByEach conditions rows = .ok sorted := by
  obtain ⟨sorted, passes, isSort⟩ := sortByEach_isStableSort uniform
  have sorts := sort_eq uniform
  rw [(isStableSort_of_sort uniform sorts).unique isSort] at sorts
  exact ⟨sorted, sorts, passes⟩

/-- Four passes, two of them by the same variable in either direction and one by a variable that no
row has. -/
theorem sort_eq_sortByEach_counted :
    let conditions : List OrderCondition :=
      [⟨"t", true⟩, ⟨"n", true⟩, ⟨"absent", true⟩, ⟨"n", false⟩]
    let sorted : List Row :=
      [.ofList [("n", none), ("t", some "c")], .ofList [("n", some "1.0"), ("t", some "b")],
        .ofList [("n", some " 1"), ("t", some "b")], .ofList [("n", some "10"), ("t", some "a")],
        .ofList [("n", some "10"), ("t", some "a")]]
    AreUniform conditions countedRows ∧ sort conditions countedRows = .ok sorted ∧
      sortByEach conditions countedRows = .ok sorted := by
  intro conditions sorted
  have uniform : AreUniform conditions countedRows := by decide +kernel
  have known : IsStableSort (byStandings conditions) countedRows sorted :=
    .of_forall_mem (by decide +kernel) (by decide +kernel) (by decide +kernel)
  obtain ⟨found, sorts, passes⟩ := sort_eq_sortByEach uniform
  obtain rfl : found = sorted := (isStableSort_of_sort uniform sorts).unique known
  exact ⟨uniform, sorts, passes⟩

/-! ## Without repetitions -/

theorem areUniform_eraseDups {conditions : List OrderCondition} {rows : List Row}
    (uniform : AreUniform conditions rows) : AreUniform conditions rows.eraseDups :=
  areUniform_of_subset (fun _ => List.mem_eraseDups.1) uniform

end Order

/-- What a query that asks for distinct rows makes of its sorted rows is what sorting makes of the
distinct rows: each row once, all of them, and in order. -/
theorem Sparql.Select.thinOut_sort {select : Select} (asksDistinct : select.distinct = true)
    {rows : List Row} (uniform : Order.AreUniform select.order rows) :
    ∃ sorted unique, Order.sort select.order rows = .ok sorted ∧
      Order.sort select.order rows.eraseDups = .ok unique ∧
      sorted.eraseDups = unique ∧
      select.thinOut sorted = select.page unique ∧
      unique.Nodup ∧
      (∀ row, row ∈ unique ↔ row ∈ rows) ∧
      unique.Pairwise fun earlier later =>
        (Order.byStandings select.order earlier later).isLE = true := by
  have uniformToo := Order.areUniform_eraseDups uniform
  obtain ⟨sorted, sorts⟩ : ∃ sorted, Order.sort select.order rows = .ok sorted :=
    ⟨_, Order.sort_eq uniform⟩
  obtain ⟨unique, sortsUnique⟩ : ∃ unique, Order.sort select.order rows.eraseDups = .ok unique :=
    ⟨_, Order.sort_eq uniformToo⟩
  have isSort := Order.isStableSort_of_sort uniform sorts
  have isSortOfUnique := Order.isStableSort_of_sort uniformToo sortsUnique
  have same : sorted.eraseDups = unique := isSort.eraseDups.unique isSortOfUnique
  refine ⟨sorted, unique, sorts, sortsUnique, same, ?_, ?_, fun row => ?_, isSortOfUnique.ascends⟩
  · rw [Select.thinOut, asksDistinct, if_pos rfl, same]
  · rw [← same]
    exact nodup_eraseDups sorted
  · rw [isSortOfUnique.perm.mem_iff, List.mem_eraseDups]

/-- A query for distinct rows in order of their numbers. -/
def distinctSelect : Select :=
  { variableNames := ["n", "t"], group := [], distinct := true, order := [⟨"n", false⟩] }

theorem thinOut_sort_counted :
    let sorted : List Row :=
      [.ofList [("n", none), ("t", some "c")], .ofList [("n", some "1.0"), ("t", some "b")],
        .ofList [("n", some " 1"), ("t", some "b")], .ofList [("n", some "10"), ("t", some "a")],
        .ofList [("n", some "10"), ("t", some "a")]]
    let unique := sorted.take 4
    Order.AreUniform distinctSelect.order Order.countedRows ∧
      Order.sort distinctSelect.order Order.countedRows = .ok sorted ∧
      Order.sort distinctSelect.order Order.countedRows.eraseDups = .ok unique ∧
      sorted.eraseDups = unique ∧
      distinctSelect.thinOut sorted = distinctSelect.page unique ∧
      unique.Nodup ∧
      (∀ row, row ∈ unique ↔ row ∈ Order.countedRows) ∧
      unique.Pairwise fun earlier later =>
        (Order.byStandings distinctSelect.order earlier later).isLE = true := by
  intro sorted unique
  have uniform : Order.AreUniform distinctSelect.order Order.countedRows := by decide +kernel
  have known : IsStableSort (Order.byStandings distinctSelect.order) Order.countedRows sorted :=
    .of_forall_mem (by decide +kernel) (by decide +kernel) (by decide +kernel)
  have uniqueKnown : sorted.eraseDups = unique := by decide +kernel
  obtain ⟨found, fewer, sorts, sortsUnique, same, thinned, rest⟩ :=
    Sparql.Select.thinOut_sort rfl uniform
  obtain rfl : found = sorted := (Order.isStableSort_of_sort uniform sorts).unique known
  obtain rfl : fewer = unique := same.symm.trans uniqueKnown
  exact ⟨uniform, sorts, sortsUnique, same, thinned, rest⟩

end FactQuery
