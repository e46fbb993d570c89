import FactQuery.Grammar.Layout

/-!
# Quoted strings

A string stands between single or double quotes, or between three of either.  A long string may run
over several lines and ends at the first three quotes in a row; a short one ends at the first quote
and stays on its line.  A backslash takes the next character with it, so that an escaped quote ends
nothing; the escapes themselves are decoded once the end has been found.
-/

set_option autoImplicit false

namespace FactQuery.Token

open FactQuery.Text FactQuery.Grammar

/-- The body of a long string, up to three quotes in a row, and the text behind them. -/
def splitLongBody (quote : Char) : List Char → Option (List Char × List Char)
  | [] => none
  | c :: rest =>
    if c == '\\' then
      match rest with
      | [] => none
      | escaped :: more =>
        (splitLongBody quote more).map fun found => (c :: escaped :: found.1, found.2)
    else if [quote, quote, quote].isPrefixOf (c :: rest) then some ([], rest.drop 2)
    else (splitLongBody quote rest).map fun found => (c :: found.1, found.2)

/-- The body of a short string, up to its closing quote, and the text behind that. -/
def splitShortBody (quote : Char) : List Char → Option (List Char × List Char)
  | [] => none
  | c :: rest =>
    if c == '\\' then
      match rest with
      | [] => none
      | escaped :: more =>
        if escaped == '\n' then none
        else (splitShortBody quote more).map fun found => (c :: escaped :: found.1, found.2)
    else if c == quote then some ([], rest)
    else if c == '\n' || c == '\r' then none
    else (splitShortBody quote rest).map fun found => (c :: found.1, found.2)

inductive QuoteStyle where
  | short (quote : Char)
  | long (quote : Char)
  deriving DecidableEq, Repr

namespace QuoteStyle

def delimiter : QuoteStyle → List Char
  | .short quote => [quote]
  | .long quote => [quote, quote, quote]

def splitBody : QuoteStyle → List Char → Option (List Char × List Char)
  | .short quote => splitShortBody quote
  | .long quote => splitLongBody quote

def split? (style : QuoteStyle) (text : List Char) : Option (List Char × List Char) :=
  (style.delimiter.isPrefixOf? text).bind style.splitBody

def all : List QuoteStyle :=
  [.long '\x22', .long '\x27', .short '\x22', .short '\x27']

end QuoteStyle

/-- A quoted string in one style, decoded.  A bad escape aborts at the opening quote. -/
def quotedIn (style : QuoteStyle) : Parser String := fun place =>
  let start := place.skipLayout
  match style.split? start.rest with
  | none => .missed
  | some (body, behind) =>
    match unescape body with
    | .ok text => .matched (String.ofList text) (start.past style.delimiter behind)
    | .error error => .aborted error start

def quotedText : Parser String :=
  Parser.firstOf (QuoteStyle.all.map quotedIn)

end FactQuery.Token
