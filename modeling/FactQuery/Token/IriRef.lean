import FactQuery.Grammar.Layout
import FactQuery.Iri.Name

/-!
# Tokens that name resources

A full IRI stands in angle brackets and holds no white space and none of the characters that delimit
it elsewhere.  A prefixed name is a label, a colon and a local part; label and local part may be
empty, and a full stop at the end belongs to the statement and not to the name.
-/

set_option autoImplicit false

namespace FactQuery.Token

open FactQuery.Text FactQuery.Grammar

/-- Characters that may stand inside the angle brackets of a full IRI. -/
def isIriChar (c : Char) : Bool :=
  !(c == '<' || c == '>' || c == '\x22' || c == '\x7b' || c == '\x7d' || c == '|' || c == '^' ||
    c == '\x60' || c == '\\' || isWhite c)

def scanIriRef : Scanner
  | '<' :: rest =>
    match rest.dropWhile isIriChar with
    | '>' :: behind => some ('<' :: rest.takeWhile isIriChar ++ ['>'], behind)
    | _ => none
  | _ => none

def iriRef : Parser String := do
  let token ← lexeme scanIriRef
  return String.ofList (token.drop 1).dropLast

def isLabelChar (c : Char) : Bool :=
  c.isAlphanum || c == '_' || c == '-'

/-- A label and the text behind it.  A label begins with a letter or is empty. -/
def splitLabel : List Char → List Char × List Char
  | [] => ([], [])
  | c :: rest =>
    if c.isAlpha then (c :: rest.takeWhile isLabelChar, rest.dropWhile isLabelChar)
    else ([], c :: rest)

def scanPrefixLabel : Scanner := fun text =>
  match (splitLabel text).2 with
  | ':' :: behind => some ((splitLabel text).1 ++ [':'], behind)
  | _ => none

def prefixLabel : Parser String := do
  let token ← lexeme scanPrefixLabel
  return String.ofList token.dropLast

def isLocalStart (c : Char) : Bool :=
  c.isAlphanum || c == '_'

def isLocalChar (c : Char) : Bool :=
  c.isAlphanum || c == '_' || c == '.' || c == '-'

def trailingStops (text : List Char) : Nat :=
  (text.reverse.takeWhile (· == '.')).length

/-- A local part and the text behind it.  A local part begins with a letter, a digit or an
underscore, goes on with full stops and hyphens too, and does not end in a full stop. -/
def splitLocal : List Char → List Char × List Char
  | [] => ([], [])
  | c :: rest =>
    if isLocalStart c then
      let run := rest.takeWhile isLocalChar
      let size := run.length - trailingStops run
      (c :: run.take size, rest.drop size)
    else ([], c :: rest)

def scanPrefixedName : Scanner := fun text =>
  match scanPrefixLabel text with
  | some (head, behind) => some (head ++ (splitLocal behind).1, (splitLocal behind).2)
  | none => none

def prefixedNameOf (token : List Char) : Iri :=
  .prefixed (String.ofList (token.takeWhile (· != ':')))
    (String.ofList ((token.dropWhile (· != ':')).drop 1))

def prefixedName : Parser Iri := do
  let token ← lexeme scanPrefixedName
  return prefixedNameOf token

def fullIri : Parser Iri := do
  let value ← iriRef
  return .full value

def iri : Parser Iri :=
  Parser.firstOf [fullIri, prefixedName]

end FactQuery.Token
