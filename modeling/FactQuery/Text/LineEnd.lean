/-!
# Line ends of files

A file may end its lines with a line feed, a carriage return or the pair of both.  Reading a file
turns each of them into one line feed.
-/

set_option autoImplicit false

namespace FactQuery.Text

/-- Every line end as one line feed; the flag says that the last character was a carriage return. -/
def unifyLineEndsFrom : Bool → List Char → List Char
  | _, [] => []
  | afterReturn, c :: rest =>
    if c == '\r' then '\n' :: unifyLineEndsFrom true rest
    else if c == '\n' && afterReturn then unifyLineEndsFrom false rest
    else c :: unifyLineEndsFrom false rest

/-- The text of a file whose lines may end in any of the three ways. -/
def unifyLineEnds (text : String) : String :=
  String.ofList (unifyLineEndsFrom false text.toList)

theorem not_mem_unifyLineEndsFrom (afterReturn : Bool) (text : List Char) :
    '\r' ∉ unifyLineEndsFrom afterReturn text := by
  induction text generalizing afterReturn with
  | nil => simp [unifyLineEndsFrom]
  | cons c rest inductionHypothesis =>
      unfold unifyLineEndsFrom
      split
      · simp [inductionHypothesis]
      · rename_i other
        split
        · exact inductionHypothesis _
        · intro inside
          rcases List.mem_cons.1 inside with same | later
          · exact other (by simp [← same])
          · exact inductionHypothesis _ later

end FactQuery.Text
