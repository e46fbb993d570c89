import FactQuery.Text.Escape

/-!
# Ordered-choice parsers

A parser looks at the text from one place on.  It matches and moves forward, or it misses, or it
aborts: a quoted string that holds a bad escape ends the reading of the whole text, whatever
alternatives are left.  A choice takes its first alternative that matches and never returns to it.

Recursion in a grammar takes a number of levels.  A nested construct is shorter than the text that
holds it, so the length of the text always suffices and `nested` supplies it.
-/

set_option autoImplicit false

namespace FactQuery.Grammar

open FactQuery.Text

/-- A place in a text: the character just passed, which decides where a word may begin, and the
text ahead. -/
structure Cursor where
  before : Option Char
  rest : List Char
  deriving DecidableEq, Repr

def Cursor.start (text : List Char) : Cursor :=
  ⟨none, text⟩

def Cursor.past (place : Cursor) (taken rest : List Char) : Cursor :=
  ⟨taken.getLast?.or place.before, rest⟩

inductive Outcome (α : Type) where
  | matched (value : α) (next : Cursor)
  | missed
  | aborted (error : EscapeError) (place : Cursor)
  deriving Repr

def Outcome.andThen {α β : Type} (outcome : Outcome α) (next : α → Cursor → Outcome β) :
    Outcome β :=
  match outcome with
  | .matched value place => next value place
  | .missed => .missed
  | .aborted error place => .aborted error place

def Parser (α : Type) : Type :=
  Cursor → Outcome α

namespace Parser

variable {α β : Type}

instance : Monad Parser where
  pure value := fun place => .matched value place
  bind parser next := fun place => (parser place).andThen next

theorem pure_apply (value : α) (place : Cursor) :
    (pure value : Parser α) place = .matched value place := rfl

theorem bind_apply (parser : Parser α) (next : α → Parser β) (place : Cursor) :
    (parser >>= next) place = (parser place).andThen next := rfl

def firstOf : List (Parser α) → Parser α
  | [] => fun _ => .missed
  | parser :: others => fun place =>
    match parser place with
    | .matched value next => .matched value next
    | .missed => firstOf others place
    | .aborted error stop => .aborted error stop

def optional (parser : Parser α) : Parser (Option α) := fun place =>
  match parser place with
  | .matched value next => .matched (some value) next
  | .missed => .matched none place
  | .aborted error stop => .aborted error stop

def manyWithin (parser : Parser α) : Nat → Parser (List α)
  | 0 => fun place => .matched [] place
  | bound + 1 => fun place =>
    match parser place with
    | .matched value next =>
      (manyWithin parser bound next).andThen fun values last => .matched (value :: values) last
    | .missed => .matched [] place
    | .aborted error stop => .aborted error stop

/-- As many matches in a row as there are.  Each takes at least one character, so the text ahead
bounds their number. -/
def many (parser : Parser α) : Parser (List α) := fun place =>
  manyWithin parser place.rest.length place

def many1 (parser : Parser α) : Parser (List α) := do
  let first ← parser
  let others ← many parser
  return first :: others

def separated1 (separator : Parser Unit) (parser : Parser α) : Parser (List α) := do
  let first ← parser
  let others ← many (do separator; parser)
  return first :: others

/-- Operands joined by operators that group to the left. -/
def leftChain (operator : Parser β) (combine : β → α → α → α) (operand : Parser α) : Parser α := do
  let first ← operand
  let others ← many do
    let sign ← operator
    let next ← operand
    return (sign, next)
  return others.foldl (fun left step => combine step.1 left step.2) first

def nestedWithin (rule : Parser α → Parser α) : Nat → Parser α
  | 0 => fun _ => .missed
  | levels + 1 => fun place => rule (nestedWithin rule levels) place

/-- A grammar rule that refers to itself inside brackets.  A bracket takes a character, so the text
ahead bounds the depth. -/
def nested (rule : Parser α → Parser α) : Parser α := fun place =>
  nestedWithin rule (place.rest.length + 1) place

end Parser

end FactQuery.Grammar
