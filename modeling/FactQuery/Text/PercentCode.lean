import FactQuery.Text.Hex
import FactQuery.Text.Utf8

/-!
# Percent codes

A percent sign and two hexadecimal digits stand for a byte, and a character that is not written
plainly is written by its UTF-8 bytes.  A percent sign without two digits behind it stands for
itself.
-/

set_option autoImplicit false

namespace FactQuery.Text

def percentBytes : List Char → List Nat
  | [] => []
  | c :: rest =>
    if c == '%' then
      match rest with
      | high :: low :: more =>
        match hexValue? [high, low] with
        | some byte => byte :: percentBytes more
        | none => encodeChar c ++ percentBytes (high :: low :: more)
      | few => encodeChar c ++ percentBytes few
    else encodeChar c ++ percentBytes rest

/-- The text that a text with percent codes stands for. -/
def percentDecode (text : List Char) : List Char :=
  decodeBytes none (percentBytes text)

def percentCode (byte : Nat) : List Char :=
  '%' :: hexPadded 2 byte

def percentEncode (text : List Char) : List Char :=
  text.flatMap fun c => if c.isAlphanum then [c] else (encodeChar c).flatMap percentCode

end FactQuery.Text
