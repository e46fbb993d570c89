import FactQuery.Number.Binary64
import FactQuery.Number.Written
import FactQuery.Text.Blank

/-!
# Numerals

A numeral is a text that is one written number, with white space allowed around it.  An integer
numeral has an exact value; any other is rounded to binary floating point.

The two notions of white space that meet here differ.  The class that recognises a numeral is the
Unicode class; the reader of its value does not accept the record separators U+001C to U+001F.  A
numeral padded with one of those has no value.
-/

set_option autoImplicit false

namespace FactQuery.Number

open FactQuery.Text

structure Numeral where
  mantissa : Mantissa
  exponent : Option Exponent
  deriving DecidableEq, Repr

/-- What a numeral is worth: an exact integer, or a floating-point number. -/
inductive Quantity where
  | integer (value : Int)
  | binary (value : Binary64)
  deriving DecidableEq, Repr

def isMinus (sign : List Char) : Bool :=
  sign == ['-']

def signed (sign : List Char) (value : Nat) : Int :=
  if isMinus sign then -value else value

namespace Numeral

/-- The longest written number at the front of a text, and the text behind it. -/
def split? (text : List Char) : Option (Numeral × List Char) :=
  let mantissa := (Mantissa.split text).1
  let behind := (Mantissa.split text).2
  if mantissa.hasDigit then
    match Exponent.split? behind with
    | some (exponent, rest) => some (⟨mantissa, some exponent⟩, rest)
    | none => some (⟨mantissa, none⟩, behind)
  else none

def ofText? (text : List Char) : Option Numeral :=
  match split? text with
  | some (numeral, []) => some numeral
  | _ => none

def ofPadded? (text : String) : Option Numeral :=
  ofText? (trimBy isWhite text.toList)

def isInteger (numeral : Numeral) : Bool :=
  numeral.mantissa.fraction.isNone && numeral.exponent.isNone

def power (numeral : Numeral) : Int :=
  match numeral.exponent with
  | some exponent => signed exponent.sign (digitsValue exponent.digits)
  | none => 0

def value (numeral : Numeral) : Quantity :=
  let mantissa := numeral.mantissa
  if numeral.isInteger then .integer (signed mantissa.sign (digitsValue mantissa.whole))
  else
    let fraction := mantissa.fraction.getD []
    .binary (Binary64.ofDecimal (isMinus mantissa.sign) (digitsValue (mantissa.whole ++ fraction))
      (numeral.power - fraction.length))

end Numeral

def isNumeral (text : String) : Bool :=
  (Numeral.ofPadded? text).isSome

/-- A numeral whose padding keeps it from being read. -/
structure UnreadableNumeral where
  text : String
  deriving DecidableEq, Repr

/-- A value as comparisons see it. -/
inductive Comparand where
  | number (value : Quantity)
  | text (value : String)
  deriving DecidableEq, Repr

/-- A numeral of any length is read, also an integer of more digits than the runtime turns into a
number (4300 unless it is set otherwise). -/
def coerce (text : String) : Except UnreadableNumeral Comparand :=
  match Numeral.ofPadded? text with
  | none => .ok (.text text)
  | some numeral =>
    if (paddingBy isWhite text.toList).any isSeparatorControl then .error ⟨text⟩
    else .ok (.number numeral.value)

/-- Two values as one comparison sees them: numbers if both are numerals, and texts otherwise. -/
def coercePair (left right : String) : Except UnreadableNumeral (Comparand × Comparand) := do
  let first ← coerce left
  let second ← coerce right
  match first, second with
  | .number _, .number _ => return (first, second)
  | _, _ => return (.text left, .text right)

end FactQuery.Number
