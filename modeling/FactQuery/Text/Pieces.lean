/-!
# Splitting and joining

A text splits at every occurrence of a separator, and the pieces join with the separator again.
-/

set_option autoImplicit false

namespace FactQuery.Text

def pieces (separator : Char) : List Char → List (List Char)
  | [] => [[]]
  | c :: rest =>
    if c == separator then [] :: pieces separator rest
    else
      match pieces separator rest with
      | [] => [[c]]
      | first :: others => (c :: first) :: others

/-- The text in front of the first occurrence of a separator, and the text behind it if there is
one. -/
def cut (separator : Char) (text : List Char) : List Char × Option (List Char) :=
  match text.dropWhile (· != separator) with
  | [] => (text, none)
  | _ :: behind => (text.takeWhile (· != separator), some behind)

theorem pieces_ne_nil (separator : Char) (text : List Char) : pieces separator text ≠ [] := by
  cases text with
  | nil => simp [pieces]
  | cons c rest =>
      unfold pieces
      split
      · simp
      · split <;> simp

/-- Joining the pieces with the separator gives the text back. -/
theorem intercalate_pieces (separator : Char) (text : List Char) :
    List.intercalate [separator] (pieces separator text) = text := by
  induction text with
  | nil => rfl
  | cons c rest inductionHypothesis =>
      by_cases same : c = separator
      · subst same
        rw [pieces, if_pos (by simp)]
        match found : pieces c rest with
        | [] => exact absurd found (pieces_ne_nil c rest)
        | first :: others =>
            rw [found] at inductionHypothesis
            simp only [List.intercalate, List.intersperse] at inductionHypothesis ⊢
            simp [inductionHypothesis]
      · rw [pieces, if_neg (by simpa using same)]
        match found : pieces separator rest with
        | [] => exact absurd found (pieces_ne_nil separator rest)
        | [first] =>
            rw [found] at inductionHypothesis
            simpa [List.intercalate] using inductionHypothesis
        | first :: second :: others =>
            rw [found] at inductionHypothesis
            simpa [List.intercalate] using inductionHypothesis

end FactQuery.Text
