import FactQuery.Data
import FactQuery.Number.Numeral
import FactQuery.OrderedMap
import FactQuery.Text.Escape

/-!
# Documents in JSON text

A document is read from JSON text as it stands: the fields of a record keep the order in which they
are written, and of two with one name the later value takes the place of the earlier.  A number
without point and exponent is an integer, however long; every other number is rounded to binary
floating point and keeps the sign of zero.

A character beyond U+FFFF may be written as two escapes, one for each of its UTF-16 surrogates.  A
surrogate without its partner is no character and reads as U+FFFD.
-/

set_option autoImplicit false

namespace FactQuery.Data

open FactQuery.Text FactQuery.Number

/-! ## Strings -/

/-- The body of a string, its escapes not yet decoded, and the text behind the closing quote. -/
def splitString : List Char → Option (List Char × List Char)
  | [] => none
  | c :: rest =>
    if c == '\x22' then some ([], rest)
    else if c == '\\' then
      match rest with
      | [] => none
      | escaped :: more =>
        (splitString more).map fun found => (c :: escaped :: found.1, found.2)
    else (splitString rest).map fun found => (c :: found.1, found.2)

def letterEscape? (c : Char) : Option Char :=
  if c == 'b' then some '\x08'
  else if c == 'f' then some '\x0c'
  else if c == 'n' then some '\n'
  else if c == 'r' then some '\r'
  else if c == 't' then some '\t'
  else if c == '\x22' || c == '\\' || c == '/' then some c
  else none

def codePoints? : List Char → Option (List Nat)
  | [] => some []
  | c :: rest =>
    if c == '\\' then
      match rest with
      | 'u' :: d₁ :: d₂ :: d₃ :: d₄ :: more => do
        let unit ← hexValue? [d₁, d₂, d₃, d₄]
        let others ← codePoints? more
        return unit :: others
      | letter :: more => do
        let plain ← letterEscape? letter
        let others ← codePoints? more
        return plain.toNat :: others
      | [] => none
    else (codePoints? rest).map (c.toNat :: ·)

def isHighSurrogate (unit : Nat) : Bool :=
  0xd800 ≤ unit && unit < 0xdc00

def isLowSurrogate (unit : Nat) : Bool :=
  0xdc00 ≤ unit && unit < 0xe000

/-- Code points with the two surrogates of one character made one. -/
def joinSurrogates : List Nat → List Nat
  | [] => []
  | [unit] => [unit]
  | first :: second :: rest =>
    if isHighSurrogate first && isLowSurrogate second then
      (0x10000 + (first - 0xd800) * 0x400 + (second - 0xdc00)) :: joinSurrogates rest
    else first :: joinSurrogates (second :: rest)

def decodeBody? (body : List Char) : Option String :=
  (codePoints? body).map fun found => String.ofList ((joinSurrogates found).map charAt)

/-! ## Values -/

def ofFields (fields : List (String × Data)) : Data :=
  .record (OrderedMap.ofList fields).pairs

def ofQuantity : Quantity → Data
  | .integer value => .integer value
  | .binary value => .decimal value

def word? (word : String) (value : Data) (text : List Char) : Option (Data × List Char) :=
  if word.toList.isPrefixOf text then some (value, text.drop word.length) else none

def plain? (text : List Char) : Option (Data × List Char) :=
  match Numeral.split? text with
  | some (numeral, behind) => some (ofQuantity numeral.value, behind)
  | none =>
    (word? "null" .null text).or
      ((word? "true" (.bool true) text).or (word? "false" (.bool false) text))

def skipBlank (text : List Char) : List Char :=
  text.dropWhile isLayoutBlank

def string? (text : List Char) : Option (String × List Char) :=
  match skipBlank text with
  | [] => none
  | c :: rest =>
    if c == '\x22' then do
      let (body, behind) ← splitString rest
      let decoded ← decodeBody? body
      return (decoded, behind)
    else none

mutual

/-- A value at the front of a text, and the text behind it.  The number bounds how deep and how far
the reading goes. -/
def value? : Nat → List Char → Option (Data × List Char)
  | 0, _ => none
  | bound + 1, source =>
    match skipBlank source with
    | [] => none
    | c :: rest =>
      if c == '\x22' then (string? (c :: rest)).map fun found => (.text found.1, found.2)
      else if c == '[' then
        match skipBlank rest with
        | ']' :: behind => some (.list [], behind)
        | first => (items? bound first).map fun found => (.list found.1, found.2)
      else if c == '\x7b' then
        match skipBlank rest with
        | '\x7d' :: behind => some (.record [], behind)
        | first => (fields? bound first).map fun found => (ofFields found.1, found.2)
      else plain? (c :: rest)

def items? : Nat → List Char → Option (List Data × List Char)
  | 0, _ => none
  | bound + 1, source => do
    let (item, rest) ← value? bound source
    match skipBlank rest with
    | ',' :: more =>
      let (others, behind) ← items? bound more
      return (item :: others, behind)
    | ']' :: behind => return ([item], behind)
    | _ => none

def fields? : Nat → List Char → Option (List (String × Data) × List Char)
  | 0, _ => none
  | bound + 1, source => do
    let (name, named) ← string? source
    match skipBlank named with
    | ':' :: valued =>
      let (value, rest) ← value? bound valued
      match skipBlank rest with
      | ',' :: more =>
        let (others, behind) ← fields? bound more
        return ((name, value) :: others, behind)
      | '\x7d' :: behind => return ([(name, value)], behind)
      | _ => none
    | _ => none

end

/-- The document that a text writes.  A step into a document or along it takes a character, and no
character is looked at by more than two steps. -/
def ofJson? (text : String) : Option Data :=
  match value? (2 * text.length + 2) text.toList with
  | some (found, behind) => if (skipBlank behind).isEmpty then some found else none
  | none => none

end FactQuery.Data
