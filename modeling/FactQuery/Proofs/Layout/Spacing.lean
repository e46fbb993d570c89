import FactQuery.Proofs.Grammar.Tokens
import FactQuery.Text.TabStop

/-!
# Tokens with layout between them

Layout is a run of blanks and of comments, each of which goes to the end of its line.  A text that
spaces tokens has layout in front of each of them and at its end, and the layout behind a token
begins with a blank: a comment right behind a token could be a part of it.
-/

set_option autoImplicit false

namespace FactQuery.Grammar

open FactQuery.Text

inductive IsLayout : List Char → Prop where
  | nil : IsLayout []
  | blank {c : Char} {rest : List Char} (isBlank : isLayoutBlank c = true)
      (later : IsLayout rest) : IsLayout (c :: rest)
  | comment {text rest : List Char} (line : '\n' ∉ text) (later : IsLayout rest) :
      IsLayout ('#' :: (text ++ '\n' :: rest))

/-- A token may end in front of this text: a blank follows, or nothing at all. -/
def EndsToken (text : List Char) : Prop :=
  Stops (fun c => !isLayoutBlank c) text

/-- The text writes these tokens in this order, with layout around them. -/
inductive IsSpaced : List (List Char) → List Char → Prop where
  | nil {gap : List Char} (layout : IsLayout gap) : IsSpaced [] gap
  | cons {gap token rest : List Char} {tokens : List (List Char)} (layout : IsLayout gap)
      (ends : EndsToken rest) (later : IsSpaced tokens rest) :
      IsSpaced (token :: tokens) (gap ++ (token ++ rest))

theorem IsSpaced.each {c : Char} {gap : List Char} (isBlank : isLayoutBlank c = true)
    (layout : IsLayout gap) (tokens : List (List Char)) :
    IsSpaced tokens (tokens.flatMap fun token => (c :: gap) ++ token) := by
  induction tokens with
  | nil => exact .nil .nil
  | cons token others inductionHypothesis =>
      rw [List.flatMap_cons, List.append_assoc]
      refine .cons (.blank isBlank layout) ?_ inductionHypothesis
      cases others with
      | nil => rfl
      | cons other others => exact Stops.cons_iff.2 (by rw [isBlank]; rfl)

/-! ## What ends a token -/

theorem EndsToken.nil : EndsToken [] := rfl

theorem EndsToken.cons_iff {c : Char} {rest : List Char} :
    EndsToken (c :: rest) ↔ isLayoutBlank c = true := by
  rw [EndsToken, Stops.cons_iff, Bool.not_eq_false']

theorem EndsToken.stops {belongs : Char → Bool} {text : List Char} (ends : EndsToken text)
    (outside : ∀ c, isLayoutBlank c = true → belongs c = false) : Stops belongs text := by
  cases text with
  | nil => rfl
  | cons c rest => exact Stops.cons_iff.2 (outside c (EndsToken.cons_iff.1 ends))

/-! ## Passing layout -/

theorem skipLayoutFrom_comment {text : List Char} (line : '\n' ∉ text) (before : Option Char)
    (rest : List Char) :
    skipLayoutFrom true before (text ++ '\n' :: rest) = skipLayoutFrom false (some '\n') rest := by
  induction text generalizing before with
  | nil => simp [skipLayoutFrom]
  | cons c text inductionHypothesis =>
      rw [List.mem_cons, not_or] at line
      have more : (c != '\n') = true := by simpa using Ne.symm line.1
      rw [List.cons_append, skipLayoutFrom, if_pos rfl, more, inductionHypothesis line.2]

theorem IsLayout.skip {gap : List Char} (layout : IsLayout gap) (before : Option Char)
    (text : List Char) :
    skipLayoutFrom false before (gap ++ text) =
      skipLayoutFrom false (gap.getLast?.or before) text := by
  induction layout generalizing before with
  | nil => rfl
  | @blank c rest isBlank later inductionHypothesis =>
      have step : skipLayoutFrom false before (c :: rest ++ text) =
          skipLayoutFrom false (some c) (rest ++ text) := by
        simp [skipLayoutFrom, isBlank]
      rw [step, inductionHypothesis, List.getLast?_cons]
      cases rest.getLast? <;> rfl
  | @comment line rest oneLine later inductionHypothesis =>
      have step : skipLayoutFrom false before ('#' :: (line ++ '\n' :: rest) ++ text) =
          skipLayoutFrom true (some '#') (line ++ '\n' :: (rest ++ text)) := by
        simp [skipLayoutFrom, isLayoutBlank]
      have last : ('#' :: (line ++ '\n' :: rest)).getLast? = rest.getLast?.or (some '\n') := by
        rw [List.getLast?_cons, List.getLast?_append, List.getLast?_cons]
        cases rest.getLast? <;> rfl
      rw [step, skipLayoutFrom_comment oneLine, inductionHypothesis, last]
      cases rest.getLast? <;> rfl

/-- Layout ends in a blank: the last line of a comment is ended too. -/
theorem IsLayout.isLayoutBlank_getLast {gap : List Char} (layout : IsLayout gap) :
    gap.getLast?.all isLayoutBlank = true := by
  induction layout with
  | nil => rfl
  | @blank c rest isBlank later inductionHypothesis =>
      rw [List.getLast?_cons]
      cases last : rest.getLast? with
      | none => exact isBlank
      | some d => rwa [last] at inductionHypothesis
  | @comment line rest oneLine later inductionHypothesis =>
      rw [List.getLast?_cons, List.getLast?_append, List.getLast?_cons]
      cases last : rest.getLast? with
      | none => rfl
      | some d => rwa [last] at inductionHypothesis

/-! ## Tabs -/

theorem IsLayout.append {gap rest : List Char} (layout : IsLayout gap) (later : IsLayout rest) :
    IsLayout (gap ++ rest) := by
  induction layout with
  | nil => exact later
  | blank isBlank _ inductionHypothesis => exact .blank isBlank inductionHypothesis
  | @comment line behind oneLine _ inductionHypothesis =>
      rw [List.cons_append, List.append_assoc, List.cons_append]
      exact .comment oneLine inductionHypothesis

theorem IsLayout.spaces (count : Nat) : IsLayout (List.replicate count ' ') := by
  induction count with
  | zero => exact .nil
  | succ count inductionHypothesis => exact .blank rfl inductionHypothesis

theorem lineEnd_not_mem_expandTabsFrom {text : List Char} (line : '\n' ∉ text) (column : Nat) :
    '\n' ∉ expandTabsFrom column text := by
  induction text generalizing column with
  | nil => simp [expandTabsFrom]
  | cons c rest inductionHypothesis =>
      rw [List.mem_cons, not_or] at line
      rw [expandTabsFrom]
      split
      · simp [inductionHypothesis line.2]
      · split
        · simp [inductionHypothesis line.2, line.1]
        · simp [inductionHypothesis line.2, line.1]

/-- Tabs in layout become spaces, and it stays layout. -/
theorem IsLayout.expandTabs {gap : List Char} (layout : IsLayout gap) (column : Nat) :
    IsLayout (expandTabsFrom column gap) := by
  induction layout generalizing column with
  | nil => exact .nil
  | @blank c rest isBlank later inductionHypothesis =>
      rw [expandTabsFrom]
      split
      · exact (IsLayout.spaces _).append (inductionHypothesis _)
      · split
        · exact .blank isBlank (inductionHypothesis _)
        · exact .blank isBlank (inductionHypothesis _)
  | @comment line rest oneLine later inductionHypothesis =>
      have whole : '#' :: (line ++ '\n' :: rest) = ('#' :: line) ++ '\n' :: rest := rfl
      have lineEnd : ∀ column, expandTabsFrom column ('\n' :: rest) =
          '\n' :: expandTabsFrom 0 rest := fun _ => by simp [expandTabsFrom]
      have hash : ∀ column, expandTabsFrom column ('#' :: line) =
          '#' :: expandTabsFrom (column + 1) line := fun _ => by simp [expandTabsFrom]
      rw [whole, expandTabsFrom_append, lineEnd, hash]
      exact .comment (lineEnd_not_mem_expandTabsFrom oneLine _) (inductionHypothesis 0)

theorem EndsToken.expandTabs {text : List Char} (ends : EndsToken text) (column : Nat) :
    EndsToken (expandTabsFrom column text) := by
  cases text with
  | nil => exact .nil
  | cons c rest =>
      have isBlank := EndsToken.cons_iff.1 ends
      rw [expandTabsFrom]
      split
      · have positive : 0 < tabWidth - column % tabWidth :=
          Nat.sub_pos_of_lt (Nat.mod_lt column (by decide))
        obtain ⟨width, more⟩ := Nat.exists_eq_add_of_le' positive
        rw [more]
        exact EndsToken.cons_iff.2 rfl
      · split
        · exact EndsToken.cons_iff.2 isBlank
        · exact EndsToken.cons_iff.2 isBlank

/-- A text of tokens without tabs is a text of the same tokens once its tabs are replaced. -/
theorem IsSpaced.expandTabs {tokens : List (List Char)} {text : List Char}
    (spaced : IsSpaced tokens text) (free : ∀ token ∈ tokens, '\t' ∉ token) (column : Nat) :
    IsSpaced tokens (expandTabsFrom column text) := by
  induction spaced generalizing column with
  | nil layout => exact .nil (layout.expandTabs column)
  | cons layout ends _ inductionHypothesis =>
      rw [List.forall_mem_cons] at free
      rw [expandTabsFrom_append, expandTabsFrom_append, expandTabsFrom_eq_self free.1]
      exact .cons (layout.expandTabs _) (ends.expandTabs _) (inductionHypothesis free.2 _)

end FactQuery.Grammar
