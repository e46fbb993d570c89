import FactQuery.Grammar.Parser
import FactQuery.Text.Blank

/-!
# Layout and tokens

Layout is white space and comments.  It may stand in front of every token and never inside one.  A
comment runs from `#` to the end of its line.
-/

set_option autoImplicit false

namespace FactQuery.Grammar

open FactQuery.Text

/-- The place of the next token; the flag says that a comment is running. -/
def skipLayoutFrom : Bool → Option Char → List Char → Cursor
  | _, before, [] => ⟨before, []⟩
  | commented, before, c :: rest =>
    if commented then skipLayoutFrom (c != '\n') (some c) rest
    else if isLayoutBlank c then skipLayoutFrom false (some c) rest
    else if c == '#' then skipLayoutFrom true (some c) rest
    else ⟨before, c :: rest⟩

def Cursor.skipLayout (place : Cursor) : Cursor :=
  skipLayoutFrom false place.before place.rest

/-- A rule that splits a token off the front of a text: the token and the text behind it. -/
abbrev Scanner : Type :=
  List Char → Option (List Char × List Char)

def lexeme (scan : Scanner) : Parser (List Char) := fun place =>
  let start := place.skipLayout
  match scan start.rest with
  | some (taken, rest) => .matched taken (start.past taken rest)
  | none => .missed

def exactly (token : List Char) : Scanner := fun text =>
  (token.isPrefixOf? text).map fun rest => (token, rest)

def symbol (token : String) : Parser Unit := do
  let _ ← lexeme (exactly token.toList)
  return ()

def oneOf (tokens : List String) : Parser String :=
  Parser.firstOf (tokens.map fun token => do symbol token; return token)

/-- The end of the text, with nothing but layout in front of it. -/
def endOfText : Parser Unit := fun place =>
  let start := place.skipLayout
  if start.rest.isEmpty then .matched () start else .missed

def scanRun (belongs : Char → Bool) : Scanner := fun text =>
  let taken := text.takeWhile belongs
  if taken.isEmpty then none else some (taken, text.dropWhile belongs)

/-- A first character of one class and the longest run of another behind it. -/
def scanWord (starts continues : Char → Bool) : Scanner
  | [] => none
  | c :: rest =>
    if starts c then some (c :: rest.takeWhile continues, rest.dropWhile continues) else none

end FactQuery.Grammar
