/-!
# Tab stops

Text is read with every tab replaced by the spaces that reach the next stop.  Stops lie eight
columns apart, and the column starts again after a line feed and after a carriage return.
-/

set_option autoImplicit false

namespace FactQuery.Text

def tabWidth : Nat := 8

/-- Expansion of a text whose first character stands at a column. -/
def expandTabsFrom : Nat → List Char → List Char
  | _, [] => []
  | column, c :: rest =>
    if c == '\t' then
      let width := tabWidth - column % tabWidth
      List.replicate width ' ' ++ expandTabsFrom (column + width) rest
    else if c == '\n' || c == '\r' then c :: expandTabsFrom 0 rest
    else c :: expandTabsFrom (column + 1) rest

def expandTabs (text : List Char) : List Char :=
  expandTabsFrom 0 text

theorem expandTabsFrom_eq_self {text : List Char} (free : '\t' ∉ text) (column : Nat) :
    expandTabsFrom column text = text := by
  induction text generalizing column with
  | nil => rfl
  | cons c rest inductionHypothesis =>
      have notTab : (c == '\t') = false := by
        rw [beq_eq_false_iff_ne]
        exact fun same => free (same ▸ List.mem_cons_self)
      have restFree : '\t' ∉ rest := fun inside => free (List.mem_cons_of_mem _ inside)
      simp [expandTabsFrom, notTab, inductionHypothesis restFree]

def columnBehind : Nat → List Char → Nat
  | column, [] => column
  | column, c :: rest =>
    if c == '\t' then columnBehind (column + (tabWidth - column % tabWidth)) rest
    else if c == '\n' || c == '\r' then columnBehind 0 rest
    else columnBehind (column + 1) rest

/-- The text in front decides the column of the text behind. -/
theorem expandTabsFrom_append (column : Nat) (front back : List Char) :
    expandTabsFrom column (front ++ back) =
      expandTabsFrom column front ++ expandTabsFrom (columnBehind column front) back := by
  induction front generalizing column with
  | nil => rfl
  | cons c rest inductionHypothesis =>
      rw [List.cons_append, expandTabsFrom, expandTabsFrom, columnBehind]
      split
      · simp only [inductionHypothesis, List.append_assoc]
      · split
        · rw [inductionHypothesis, List.cons_append]
        · rw [inductionHypothesis, List.cons_append]

/-- A piece without tabs is kept, with what the tabs around it become. -/
theorem expandTabs_around {piece : List Char} (free : '\t' ∉ piece) (front back : List Char) :
    expandTabs (front ++ (piece ++ back)) =
      expandTabs front ++ (piece ++ expandTabsFrom (columnBehind 0 (front ++ piece)) back) := by
  rw [expandTabs, ← List.append_assoc, expandTabsFrom_append, expandTabsFrom_append,
    expandTabsFrom_eq_self free, List.append_assoc, expandTabs]

end FactQuery.Text
