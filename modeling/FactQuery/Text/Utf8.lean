/-!
# UTF-8

Bytes are read as characters one at a time.  A character of several bytes begins with one that says
how many follow, and each of those lies in a range; the range of the second byte keeps out overlong
forms, surrogates and what lies beyond U+10FFFF.  Bytes that begin a character which is then not
completed read as one U+FFFD, and so does a byte that begins none.
-/

set_option autoImplicit false

namespace FactQuery.Text

/-- A character of which some bytes are still to come. -/
structure PartialChar where
  /-- The number of bytes to come behind the next one. -/
  behind : Nat
  /-- The range of the next byte. -/
  low : Nat
  high : Nat
  /-- The bits of the bytes that have come. -/
  bits : Nat
  deriving DecidableEq, Repr

def replacement : Char := '\ufffd'

/-- The character that a byte begins, if it is the first of several. -/
def leadByte? (byte : Nat) : Option PartialChar :=
  if 0xc2 ≤ byte && byte ≤ 0xdf then some ⟨0, 0x80, 0xbf, byte - 0xc0⟩
  else if 0xe0 ≤ byte && byte ≤ 0xef then
    some ⟨1, if byte = 0xe0 then 0xa0 else 0x80, if byte = 0xed then 0x9f else 0xbf, byte - 0xe0⟩
  else if 0xf0 ≤ byte && byte ≤ 0xf4 then
    some ⟨2, if byte = 0xf0 then 0x90 else 0x80, if byte = 0xf4 then 0x8f else 0xbf, byte - 0xf0⟩
  else none

/-- What a byte between characters completes, and what it begins. -/
def beginChar (byte : Nat) : List Char × Option PartialChar :=
  if byte < 0x80 then ([Char.ofNat byte], none)
  else
    match leadByte? byte with
    | some begun => ([], some begun)
    | none => ([replacement], none)

/-- What the next byte completes, and what is then still to be completed. -/
def nextByte (begun : Option PartialChar) (byte : Nat) : List Char × Option PartialChar :=
  match begun with
  | none => beginChar byte
  | some begun =>
    if begun.low ≤ byte && byte ≤ begun.high then
      let bits := begun.bits * 64 + (byte - 0x80)
      if begun.behind = 0 then ([Char.ofNat bits], none)
      else ([], some ⟨begun.behind - 1, 0x80, 0xbf, bits⟩)
    else (replacement :: (beginChar byte).1, (beginChar byte).2)

def decodeBytes (begun : Option PartialChar) : List Nat → List Char
  | [] => if begun.isSome then [replacement] else []
  | byte :: others =>
    (nextByte begun byte).1 ++ decodeBytes (nextByte begun byte).2 others

def encodeChar (c : Char) : List Nat :=
  (String.utf8EncodeChar c).map UInt8.toNat

end FactQuery.Text
