import FactQuery.OrderedMap

/-!
# Maps filled from lists

An insertion keeps the keys or adds one to them.  A map that is filled from a list holds pairs of
the list, and the pairs of a map fill the map that they come from.
-/

set_option autoImplicit false

namespace FactQuery

variable {α β : Type} [DecidableEq α]

theorem mem_insertPair {key : α} {value : β} {pairs : List (α × β)} {pair : α × β}
    (inside : pair ∈ insertPair key value pairs) : pair = (key, value) ∨ pair ∈ pairs := by
  induction pairs with
  | nil => exact Or.inl (List.mem_singleton.1 inside)
  | cons first others inductionHypothesis =>
      rw [insertPair] at inside
      split at inside
      · rcases List.mem_cons.1 inside with here | later
        · exact Or.inl here
        · exact Or.inr (List.mem_cons_of_mem first later)
      · rcases List.mem_cons.1 inside with here | later
        · exact Or.inr (here ▸ List.mem_cons_self)
        · rcases inductionHypothesis later with new | old
          · exact Or.inl new
          · exact Or.inr (List.mem_cons_of_mem first old)

theorem insertPair_of_not_mem {key : α} {value : β} {pairs : List (α × β)}
    (new : key ∉ pairs.map Prod.fst) : insertPair key value pairs = pairs ++ [(key, value)] := by
  induction pairs with
  | nil => rfl
  | cons first others inductionHypothesis =>
      rw [List.map_cons, List.mem_cons, not_or] at new
      rw [insertPair, if_neg (Ne.symm new.1), inductionHypothesis new.2, List.cons_append]

theorem keys_insertPair_of_mem {key : α} {value : β} {pairs : List (α × β)}
    (known : key ∈ pairs.map Prod.fst) :
    (insertPair key value pairs).map Prod.fst = pairs.map Prod.fst := by
  induction pairs with
  | nil => cases known
  | cons first others inductionHypothesis =>
      rw [insertPair]
      by_cases same : first.1 = key
      · rw [if_pos same, List.map_cons, List.map_cons, same]
      · have later : key ∈ others.map Prod.fst :=
          (List.mem_cons.1 known).resolve_left (Ne.symm same)
        rw [if_neg same, List.map_cons, List.map_cons, inductionHypothesis later]

namespace OrderedMap

theorem keys_insert (map : OrderedMap α β) (key : α) (value : β) :
    (map.insert key value).keys = if key ∈ map.keys then map.keys else map.keys ++ [key] := by
  by_cases known : key ∈ map.keys
  · rw [if_pos known]
    exact keys_insertPair_of_mem known
  · rw [if_neg known]
    have pairs : (map.insert key value).pairs = map.pairs ++ [(key, value)] :=
      insertPair_of_not_mem known
    simp [keys, pairs]

theorem find?_eq_none_of_not_mem {map : OrderedMap α β} {key : α} (absent : key ∉ map.keys) :
    map.find? key = none := by
  have noPair : ∀ pair ∈ map.pairs, ¬ pair.1 = key := by
    rintro pair inside rfl
    exact absent (List.mem_map_of_mem inside)
  rw [find?, Option.map_eq_none_iff, List.find?_eq_none]
  simpa using noPair

theorem find?_ofList_map (valueOf : α → β) {keys : List α} {key : α} (known : key ∈ keys) :
    (ofList (keys.map fun key => (key, valueOf key))).find? key = some (valueOf key) := by
  have filled : ∀ (keys : List α) (map : OrderedMap α β),
      ((keys.map fun key => (key, valueOf key)).foldl
          (fun map pair => map.insert pair.1 pair.2) map).find? key =
        if key ∈ keys then some (valueOf key) else map.find? key := by
    intro keys
    induction keys with
    | nil => intro map; rfl
    | cons first others inductionHypothesis =>
        intro map
        rw [List.map_cons, List.foldl_cons, inductionHypothesis, find?_insert]
        by_cases here : key = first <;> by_cases later : key ∈ others <;> simp [here, later]
  rw [ofList, filled, if_pos known]

theorem mem_foldl_insert {pairs : List (α × β)} {map : OrderedMap α β} {pair : α × β}
    (inside : pair ∈ (pairs.foldl (fun map pair => map.insert pair.1 pair.2) map).pairs) :
    pair ∈ map.pairs ∨ pair ∈ pairs := by
  induction pairs generalizing map with
  | nil => exact Or.inl inside
  | cons first others inductionHypothesis =>
      rcases inductionHypothesis inside with before | later
      · rcases mem_insertPair before with new | old
        · exact Or.inr (new ▸ List.mem_cons_self)
        · exact Or.inl old
      · exact Or.inr (List.mem_cons_of_mem first later)

theorem mem_of_mem_ofList {pairs : List (α × β)} {pair : α × β}
    (inside : pair ∈ (ofList pairs).pairs) : pair ∈ pairs := by
  rcases mem_foldl_insert inside with before | inserted
  · cases before
  · exact inserted

theorem mem_of_find? {map : OrderedMap α β} {key : α} {value : β}
    (found : map.find? key = some value) : (key, value) ∈ map.pairs := by
  obtain ⟨pair, first, rfl⟩ := Option.map_eq_some_iff.1 found
  have same : pair.1 = key := by simpa using List.find?_some first
  rw [← same]
  exact List.mem_of_find?_eq_some first

theorem pairs_foldl_insert {pairs : List (α × β)} {map : OrderedMap α β}
    (distinct : ((map.pairs ++ pairs).map Prod.fst).Nodup) :
    (pairs.foldl (fun map pair => map.insert pair.1 pair.2) map).pairs = map.pairs ++ pairs := by
  induction pairs generalizing map with
  | nil => rw [List.append_nil]; rfl
  | cons first others inductionHypothesis =>
      have new : first.1 ∉ map.pairs.map Prod.fst := by
        intro inside
        rw [List.map_append, List.nodup_append] at distinct
        exact distinct.2.2 first.1 inside first.1 (by simp) rfl
      have appended : (map.insert first.1 first.2).pairs = map.pairs ++ [first] :=
        insertPair_of_not_mem new
      have whole : map.pairs ++ first :: others = map.pairs ++ [first] ++ others := by
        rw [List.append_assoc, List.singleton_append]
      rw [List.foldl_cons, whole, ← appended]
      apply inductionHypothesis
      rw [appended, ← whole]
      exact distinct

theorem ofList_pairs (map : OrderedMap α β) : ofList map.pairs = map := by
  apply ext
  have distinct : (((empty : OrderedMap α β).pairs ++ map.pairs).map Prod.fst).Nodup :=
    map.keys_nodup
  exact pairs_foldl_insert distinct

end OrderedMap

end FactQuery
