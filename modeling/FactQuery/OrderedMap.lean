/-!
# Maps that remember the order of their keys

A key keeps the place of its first insertion; a later insertion replaces the value only.  No key
occurs twice, and the type says so.
-/

set_option autoImplicit false

namespace FactQuery

def insertPair {α β : Type} [DecidableEq α] (key : α) (value : β) : List (α × β) → List (α × β)
  | [] => [(key, value)]
  | pair :: others =>
    if pair.1 = key then (key, value) :: others else pair :: insertPair key value others

theorem mem_keys_insertPair {α β : Type} [DecidableEq α] {key : α} {value : β}
    {pairs : List (α × β)} {other : α} :
    other ∈ (insertPair key value pairs).map Prod.fst ↔
      other = key ∨ other ∈ pairs.map Prod.fst := by
  induction pairs with
  | nil => simp [insertPair]
  | cons pair others inductionHypothesis =>
      by_cases same : pair.1 = key
      · simp [insertPair, same]
      · simp only [insertPair, same, if_false, List.map_cons, List.mem_cons, inductionHypothesis]
        grind

theorem nodup_keys_insertPair {α β : Type} [DecidableEq α] (key : α) (value : β)
    {pairs : List (α × β)} (distinct : (pairs.map Prod.fst).Nodup) :
    ((insertPair key value pairs).map Prod.fst).Nodup := by
  induction pairs with
  | nil => simp [insertPair]
  | cons pair others inductionHypothesis =>
      rw [List.map_cons, List.nodup_cons] at distinct
      by_cases same : pair.1 = key
      · simp only [insertPair, same, if_true, List.map_cons, List.nodup_cons]
        exact ⟨same ▸ distinct.1, distinct.2⟩
      · simp only [insertPair, same, if_false, List.map_cons, List.nodup_cons,
          mem_keys_insertPair]
        exact ⟨by simp [distinct.1], inductionHypothesis distinct.2⟩

/-- Pairs of a key and a value, in the order in which the keys first came. -/
structure OrderedMap (α β : Type) where
  pairs : List (α × β)
  keys_nodup : (pairs.map Prod.fst).Nodup

namespace OrderedMap

variable {α β : Type}

@[ext]
theorem ext {first second : OrderedMap α β} (same : first.pairs = second.pairs) :
    first = second := by
  cases first; cases second; simp_all

instance [DecidableEq α] [DecidableEq β] : DecidableEq (OrderedMap α β) := fun first second =>
  decidable_of_iff (first.pairs = second.pairs) ⟨ext, fun same => same ▸ rfl⟩

def empty : OrderedMap α β :=
  ⟨[], List.nodup_nil⟩

instance : Inhabited (OrderedMap α β) :=
  ⟨empty⟩

def keys (map : OrderedMap α β) : List α :=
  map.pairs.map Prod.fst

variable [DecidableEq α]

def find? (map : OrderedMap α β) (key : α) : Option β :=
  (map.pairs.find? fun pair => pair.1 = key).map Prod.snd

def contains (map : OrderedMap α β) (key : α) : Bool :=
  (map.find? key).isSome

def insert (map : OrderedMap α β) (key : α) (value : β) : OrderedMap α β :=
  ⟨insertPair key value map.pairs, nodup_keys_insertPair key value map.keys_nodup⟩

def ofList (pairs : List (α × β)) : OrderedMap α β :=
  pairs.foldl (fun map pair => map.insert pair.1 pair.2) empty

theorem find?_empty (key : α) : (empty : OrderedMap α β).find? key = none := rfl

theorem find?_insert (map : OrderedMap α β) (key other : α) (value : β) :
    (map.insert key value).find? other = if other = key then some value else map.find? other := by
  obtain ⟨pairs, distinct⟩ := map
  simp only [find?, insert]
  clear distinct
  induction pairs with
  | nil => by_cases same : other = key <;> simp [insertPair, same, eq_comm]
  | cons pair others inductionHypothesis =>
      by_cases same : other = key <;> by_cases here : pair.1 = key <;>
        by_cases there : pair.1 = other <;> simp_all [insertPair]

end OrderedMap

end FactQuery
