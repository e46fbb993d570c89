import FactQuery.Text.Hex
import FactQuery.Text.Printable

/-!
# Quoted display of a text

Messages that show a text the reader cannot otherwise delimit put it in quotes.  The quote is single
unless the text holds a single quote and no double one.  The quote and the backslash take a
backslash; tab, line feed and carriage return have letters; every other character that is not
printable is written by its code point in two, four or eight hexadecimal digits.
-/

set_option autoImplicit false

namespace FactQuery.Text

/-- The quote that displays a text with the fewest escapes, single by preference. -/
def displayQuote (text : List Char) : Char :=
  if text.contains '\x27' && !text.contains '\x22' then '\x22' else '\x27'

def displayChar (quote c : Char) : List Char :=
  if c == quote || c == '\\' then ['\\', c]
  else if c == '\t' then ['\\', 't']
  else if c == '\n' then ['\\', 'n']
  else if c == '\r' then ['\\', 'r']
  else if isPrintable c then [c]
  else if c.toNat < 0x100 then ['\\', 'x'] ++ hexPadded 2 c.toNat
  else if c.toNat < 0x10000 then ['\\', 'u'] ++ hexPadded 4 c.toNat
  else ['\\', 'U'] ++ hexPadded 8 c.toNat

def quoted (text : String) : String :=
  let quote := displayQuote text.toList
  String.ofList (quote :: (text.toList.flatMap (displayChar quote) ++ [quote]))

end FactQuery.Text
