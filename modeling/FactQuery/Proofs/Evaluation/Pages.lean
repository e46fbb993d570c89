import Mathlib
import FactQuery.Proofs.Evaluation.Faults
import FactQuery.Proofs.Store.Values

/-!
# Pages of a result

A query with a limit and an offset shows one page of what it shows without them.  The rows are the
same rows in the same order in every run, since repetitions are removed before the result is cut
and the cut to the largest result comes last.  The pages, one after the other, are thus the whole
result.
-/

set_option autoImplicit false

namespace FactQuery

open FactQuery.Sparql

/-! ## Cutting a list into pages -/

section Lists

variable {α : Type}

/-- The rows of one page, where pages are numbered from zero. -/
def pageOfRows (size number : Nat) (rows : List α) : List α :=
  (rows.drop (number * size)).take size

theorem length_pageOfRows_le (size number : Nat) (rows : List α) :
    (pageOfRows size number rows).length ≤ size :=
  List.length_take_le _ _

theorem pageOfRows_eq_nil_iff {size : Nat} (positive : 1 ≤ size) (number : Nat) (rows : List α) :
    pageOfRows size number rows = [] ↔ rows.length ≤ number * size := by
  unfold pageOfRows
  rw [List.take_eq_nil_iff, List.drop_eq_nil_iff]
  omega

/-- The next page starts where the pages before it end. -/
theorem flatMap_pageOfRows (size : Nat) (rows : List α) (count : Nat) :
    ((List.range count).flatMap fun number => pageOfRows size number rows) =
      rows.take (count * size) := by
  induction count with
  | zero => simp
  | succ count inductionHypothesis =>
      rw [List.range_succ, List.flatMap_append, inductionHypothesis, Nat.succ_mul, List.take_add]
      simp [pageOfRows]

end Lists

/-! ## A page of a query -/

def Sparql.Select.pageQuery (select : Select) (size number : Nat) : Select :=
  { select with limit := some (size : Int), offset := some ((number * size : Nat) : Int) }

theorem dropRows_natCast {α : Type} (count : Nat) (rows : List α) :
    dropRows (count : Int) rows = rows.drop count := by
  simp [dropRows]

theorem takeRows_natCast {α : Type} (count : Nat) (rows : List α) :
    takeRows (count : Int) rows = rows.take count := by
  simp [takeRows]

theorem Engine.cutRows_of_le {α : Type} {maxResults : Option Int} {size : Nat} {rows : List α}
    (fits : ∀ count, maxResults = some count → (size : Int) ≤ count) (few : rows.length ≤ size) :
    Engine.cutRows maxResults rows = rows := by
  unfold Engine.cutRows
  cases maxResults with
  | none => rfl
  | some count =>
      have atLeast := fits count rfl
      have few : ¬count < (rows.length : Int) := by omega
      simp only [if_neg few]

section Pages

variable {select : Select} {prefixes : PrefixTable} {facts : List Fact} {result : QueryResult}
variable {engine : Engine} {size : Nat}

theorem thinOut_unlimited (unlimited : select.limit = none) (unshifted : select.offset = none)
    (rows : List Row) :
    select.thinOut rows = if select.distinct then rows.eraseDups else rows := by
  simp [Select.thinOut, Select.page, unlimited, unshifted, dropRows]

theorem thinOut_pageQuery (unlimited : select.limit = none) (unshifted : select.offset = none)
    (number : Nat) (rows : List Row) :
    (select.pageQuery size number).thinOut rows =
      pageOfRows size number (select.thinOut rows) := by
  rw [thinOut_unlimited unlimited unshifted]
  show takeRows (size : Int) (dropRows ((number * size : Nat) : Int) _) = _
  rw [takeRows_natCast, dropRows_natCast]
  rfl

/-- Everything up to the cut is the same run. -/
theorem execute_pageQuery (unlimited : select.limit = none) (unshifted : select.offset = none)
    (completes : execute facts ⟨prefixes, .select select⟩ = .ok result) (number : Nat) :
    ∃ page, execute facts ⟨prefixes, .select (select.pageQuery size number)⟩ = .ok page ∧
      page.variableNames = result.variableNames ∧
        page.rows = pageOfRows size number result.rows := by
  have sameNames : result.variableNames = select.shown := variableNames_of_execute completes
  obtain ⟨plan, known, completes⟩ := bind_eq_ok_iff.mp completes
  obtain ⟨found, joined, completes⟩ := bind_eq_ok_iff.mp completes
  obtain ⟨kept, filtered, completes⟩ := bind_eq_ok_iff.mp completes
  obtain ⟨sorted, ordered, completes⟩ := bind_eq_ok_iff.mp completes
  have planned : planOf select.group = .ok plan := by
    cases isPlan : planOf select.group with
    | ok found =>
        rw [isPlan] at known
        rw [Except.ok.inj known]
    | error fault =>
        rw [isPlan] at known
        cases known
  have executed : ∃ page, execute facts ⟨prefixes, .select (select.pageQuery size number)⟩ =
      .ok page ∧ page.rows = (select.pageQuery size number).thinOut sorted :=
    exists_run planned joined filtered ordered
  obtain ⟨page, executed, rows⟩ := executed
  refine ⟨page, executed, (variableNames_of_execute executed).trans sameNames.symm, ?_⟩
  rw [rows, thinOut_pageQuery unlimited unshifted, ← Except.ok.inj completes]

/-- A run of a text that asks for one page. -/
theorem Engine.run_pageQuery (ready : engine.store.isReady = true)
    (unlimited : select.limit = none) (unshifted : select.offset = none)
    (completes : FactQuery.execute engine.store.contents ⟨prefixes, .select select⟩ = .ok result)
    (fits : ∀ count, engine.maxResults = some count → (size : Int) ≤ count)
    {number : Nat} {text : String}
    (asks : Query.ofText text = .ok ⟨prefixes, .select (select.pageQuery size number)⟩) :
    ∃ page, engine.run text = .ok page ∧ page.variableNames = result.variableNames ∧
      page.rows = pageOfRows size number result.rows := by
  obtain ⟨page, executed, sameNames, rows⟩ :=
    execute_pageQuery unlimited unshifted completes number
  have uncut : cutRows engine.maxResults page.rows = page.rows := by
    apply cutRows_of_le fits
    rw [rows]
    exact length_pageOfRows_le size number result.rows
  refine ⟨page, ?_, sameNames, rows⟩
  rw [Engine.run_of_ofText ready asks, executed]
  simp only [Except.mapError, ok_bind, uncut]

end Pages

/-! ## All pages -/

theorem exists_pages {texts : List String} {size : Nat} {rows : List Row}
    {run : String → Except Engine.Error QueryResult}
    (each : ∀ number text, texts[number]? = some text →
      ∃ page, run text = .ok page ∧ page.rows = pageOfRows size number rows) :
    ∃ pages : List QueryResult, texts.map run = pages.map .ok ∧
      ∀ number page, pages[number]? = some page → page.rows = pageOfRows size number rows := by
  induction texts using List.reverseRecOn with
  | nil => exact ⟨[], rfl, by simp⟩
  | append_singleton texts last inductionHypothesis =>
      have eachBefore : ∀ number text, texts[number]? = some text →
          ∃ page, run text = .ok page ∧ page.rows = pageOfRows size number rows := by
        intro number text inside
        apply each number text
        rw [List.getElem?_append_left (List.getElem?_eq_some_iff.1 inside).1]
        exact inside
      obtain ⟨pages, runs, areRows⟩ := inductionHypothesis eachBefore
      obtain ⟨page, isRun, isRows⟩ := each texts.length last (by simp)
      have sameLength : texts.length = pages.length := by
        simpa using congrArg List.length runs
      refine ⟨pages ++ [page], by simp [runs, isRun], ?_⟩
      intro number found isFound
      by_cases early : number < pages.length
      · rw [List.getElem?_append_left early] at isFound
        exact areRows number found isFound
      · obtain ⟨rfl, rfl⟩ : number = pages.length ∧ found = page := by
          rw [List.getElem?_append_right (by omega), List.getElem?_singleton] at isFound
          split at isFound
          · exact ⟨by omega, (Option.some.inj isFound).symm⟩
          · contradiction
        rw [← sameLength]
        exact isRows

theorem flatMap_rows {pages : List QueryResult} {size : Nat} {rows : List Row}
    (areRows : ∀ number page, pages[number]? = some page →
      page.rows = pageOfRows size number rows) :
    (pages.flatMap fun page => page.rows) = rows.take (pages.length * size) := by
  rw [← flatMap_pageOfRows]
  have byNumber : pages.map (fun page => page.rows) =
      (List.range pages.length).map fun number => pageOfRows size number rows := by
    apply List.ext_getElem (by simp)
    intro number inside _
    simp only [List.length_map] at inside
    simpa using areRows number pages[number] (List.getElem?_eq_getElem inside)
  rw [List.flatMap_def, List.flatMap_def, byNumber]

/-- On a store that is ready, every page of a query without limit and offset is read as a page of
its rows, if the page is no larger than the largest result.  The first pages, one after the other,
are the first rows, and all rows once there are enough pages; behind an empty page every page is
empty. -/
theorem Engine.pages_partition {engine : Engine} {select : Select} {prefixes : PrefixTable}
    {result : QueryResult} {size : Nat} {texts : List String} (ready : engine.store.isReady = true)
    (unlimited : select.limit = none) (unshifted : select.offset = none)
    (completes : FactQuery.execute engine.store.contents ⟨prefixes, .select select⟩ = .ok result)
    (positive : 1 ≤ size)
    (fits : ∀ count, engine.maxResults = some count → (size : Int) ≤ count)
    (asks : ∀ number text, texts[number]? = some text →
      Query.ofText text = .ok ⟨prefixes, .select (select.pageQuery size number)⟩) :
    (∀ number text,
      Query.ofText text = .ok ⟨prefixes, .select (select.pageQuery size number)⟩ →
        ∃ page, engine.run text = .ok page ∧ page.variableNames = result.variableNames ∧
          page.rows = (result.rows.drop (number * size)).take size) ∧
      ∃ pages : List QueryResult, texts.map engine.run = pages.map .ok ∧
        (pages.flatMap fun page => page.rows) = result.rows.take (texts.length * size) ∧
          (result.rows.length ≤ texts.length * size →
            (pages.flatMap fun page => page.rows) = result.rows) ∧
            ∀ (first later : Nat) (page other : QueryResult), first ≤ later →
              pages[first]? = some page → pages[later]? = some other →
                page.rows = [] → other.rows = [] := by
  have single : ∀ number text,
      Query.ofText text = .ok ⟨prefixes, .select (select.pageQuery size number)⟩ →
        ∃ page, engine.run text = .ok page ∧ page.variableNames = result.variableNames ∧
          page.rows = pageOfRows size number result.rows := by
    intro number text reads
    exact Engine.run_pageQuery ready unlimited unshifted completes fits reads
  have each : ∀ number text, texts[number]? = some text →
      ∃ page, engine.run text = .ok page ∧ page.rows = pageOfRows size number result.rows := by
    intro number text inside
    obtain ⟨page, run, -, rows⟩ := single number text (asks number text inside)
    exact ⟨page, run, rows⟩
  obtain ⟨pages, runs, rows⟩ := exists_pages each
  have sameLength : pages.length = texts.length := by
    simpa using (congrArg List.length runs).symm
  have concatenated :
      (pages.flatMap fun page => page.rows) = result.rows.take (texts.length * size) := by
    rw [← sameLength]
    exact flatMap_rows rows
  refine ⟨single, pages, runs, concatenated, ?_, ?_⟩
  · intro enough
    rw [concatenated, List.take_of_length_le enough]
  · intro first later page other before isFirst isLater empty
    rw [rows first page isFirst, pageOfRows_eq_nil_iff positive] at empty
    rw [rows later other isLater, pageOfRows_eq_nil_iff positive]
    exact Nat.le_trans empty (Nat.mul_le_mul_right size before)

/-- Three values are a page of two, a page of one and an empty page, and so is any later page. -/
theorem Engine.pages_partition_values :
    let engine : Engine := ⟨⟨[⟨"s", "p", "b", none, none⟩, ⟨"s", "p", "a", none, none⟩,
      ⟨"t", "p", "b", none, none⟩, ⟨"t", "p", "c", none, none⟩], [], .ready⟩, none, some 2⟩
    let texts := ["SELECT DISTINCT ?o WHERE \x7b ?s <p> ?o \x7d LIMIT 2 OFFSET 0",
      "SELECT DISTINCT ?o WHERE \x7b ?s <p> ?o \x7d LIMIT 2 OFFSET 2",
      "SELECT DISTINCT ?o WHERE \x7b ?s <p> ?o \x7d LIMIT 2 OFFSET 4"]
    ∃ pages : List QueryResult, texts.map engine.run = pages.map .ok ∧
      (pages.flatMap fun page => page.rows) = ["b", "a", "c"].map objectRow ∧
        ∃ page, engine.run "SELECT DISTINCT ?o WHERE \x7b ?s <p> ?o \x7d LIMIT 2 OFFSET 10" =
          .ok page ∧ page.rows = [] := by
  intro engine texts
  let select : Select :=
    { variableNames := ["o"]
      group := [.triples [⟨.term (.variable "s"), .term (.iri (.full "p")),
        .term (.variable "o")⟩]]
      distinct := true }
  have asks : ∀ number text, texts[number]? = some text →
      Query.ofText text = .ok ⟨.empty, .select (select.pageQuery 2 number)⟩ := by
    intro number text isText
    match number with
    | 0 => cases isText; cbv
    | 1 => cases isText; cbv
    | 2 => cases isText; cbv
    | _ + 3 => contradiction
  have fits : ∀ count, engine.maxResults = some count → ((2 : Nat) : Int) ≤ count := by
    intro count isCount
    cases isCount
    decide
  obtain ⟨result, completes, rows⟩ := execute_valuesQuery engine.store.contents .empty "p"
  have values : result.rows = ["b", "a", "c"].map objectRow := rows.trans rfl
  obtain ⟨single, pages, runs, -, whole, -⟩ :=
    Engine.pages_partition (by decide) rfl rfl completes (by decide) fits asks
  have asksLater : Query.ofText "SELECT DISTINCT ?o WHERE \x7b ?s <p> ?o \x7d LIMIT 2 OFFSET 10" =
      .ok ⟨.empty, .select (select.pageQuery 2 5)⟩ := by cbv
  obtain ⟨page, run, -, isRows⟩ := single 5 _ asksLater
  refine ⟨pages, runs, ?_, page, run, ?_⟩
  · have enough : result.rows.length ≤ texts.length * 2 := by
      rw [values]
      decide
    rw [whole enough, values]
  · rw [isRows, values]
    decide

end FactQuery
