import FactQuery.Grammar.Layout

/-!
# Keywords

A keyword stands by itself: neither the character in front of it nor the one behind it may belong to
an identifier.  Some keywords are read in either case.  Reading in either case compares capital
letters; two letters outside ASCII have an ASCII capital, the dotless `ı` and the long `ſ`, and
count like the letters that share it.
-/

set_option autoImplicit false

namespace FactQuery.Grammar

/-- ASCII letters, digits, the underscore and the dollar sign make up identifiers. -/
def isIdentifierChar (c : Char) : Bool :=
  c.isAlphanum || c == '_' || c == '$'

/-- The capital of a letter whose capital is an ASCII letter; other characters stay. -/
def capital (c : Char) : Char :=
  if c == 'ı' then 'I' else if c == 'ſ' then 'S' else c.toUpper

def isBoundary (fold : Char → Char) (neighbour : Option Char) : Bool :=
  !neighbour.any fun c => isIdentifierChar (fold c)

def scanFolded (fold : Char → Char) (word : List Char) : Scanner := fun text =>
  let taken := text.take word.length
  if taken.map fold == word then some (taken, text.drop word.length) else none

/-- A word that stands by itself, compared after folding. -/
def foldedWord (fold : Char → Char) (word : String) : Parser Unit := fun place =>
  let start := place.skipLayout
  match scanFolded fold word.toList start.rest with
  | some (taken, rest) =>
    if isBoundary fold start.before && isBoundary fold rest.head? then
      .matched () (start.past taken rest)
    else .missed
  | none => .missed

def keyword (word : String) : Parser Unit :=
  foldedWord id word

def caselessKeyword (word : String) : Parser Unit :=
  foldedWord capital word

end FactQuery.Grammar
