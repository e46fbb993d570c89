/-!
# Positions in a text

A position is a line and a column, both counted from one.  Lines end at line feeds only, and a
column counts code points since the last line feed.
-/

set_option autoImplicit false

namespace FactQuery.Text

structure Position where
  line : Nat
  column : Nat
  deriving DecidableEq, Repr

def Position.advance : Position → List Char → Position
  | start, [] => start
  | start, c :: rest =>
    if c == '\n' then Position.advance ⟨start.line + 1, 1⟩ rest
    else Position.advance ⟨start.line, start.column + 1⟩ rest

def Position.after (before : List Char) : Position :=
  Position.advance ⟨1, 1⟩ before

def Position.ofRemaining (text rest : List Char) : Position :=
  Position.after (text.take (text.length - rest.length))

theorem Position.advance_append (start : Position) (first second : List Char) :
    start.advance (first ++ second) = (start.advance first).advance second := by
  induction first generalizing start with
  | nil => rfl
  | cons c rest inductionHypothesis =>
      simp only [List.cons_append, Position.advance]
      split <;> exact inductionHypothesis _

end FactQuery.Text
