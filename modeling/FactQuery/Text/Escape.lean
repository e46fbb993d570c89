import FactQuery.Text.Hex

/-!
# Escapes in quoted text

The body of a quoted string writes some characters by an escape: a backslash and a letter, a
backslash, `u` and four hexadecimal digits, or a backslash, `U` and eight of them.  `unescape`
decodes a body from left to right and stops at the first escape that is none of these.
-/

set_option autoImplicit false

namespace FactQuery.Text

inductive EscapeError where
  /-- The character behind the backslash starts no escape. -/
  | unknown (c : Char)
  /-- The eight digits name no code point. -/
  | outOfRange (digits : List Char)
  deriving DecidableEq, Repr

def EscapeError.message : EscapeError → String
  | .unknown c => "Invalid escape sequence: \\" ++ String.singleton c
  | .outOfRange digits => "Invalid code point in escape: \\U" ++ String.ofList digits

def letterEscape? (c : Char) : Option Char :=
  if c == 't' then some '\t'
  else if c == 'b' then some '\x08'
  else if c == 'n' then some '\n'
  else if c == 'r' then some '\r'
  else if c == 'f' then some '\x0c'
  else if c == '\x22' || c == '\x27' || c == '\\' then some c
  else none

/-- The character at a code point.  A surrogate is no character, so that no text of this library
holds one: what its escape stands for is left open, and U+FFFD stands in its place. -/
def charAt (codePoint : Nat) : Char :=
  if codePoint.isValidChar then Char.ofNat codePoint else '\ufffd'

/-- The text that the body of a quoted string stands for.  A lone backslash at the end stays. -/
def unescape : List Char → Except EscapeError (List Char)
  | [] => .ok []
  | c :: rest =>
    if c == '\\' then
      match rest with
      | [] => .ok [c]
      | 'u' :: d₁ :: d₂ :: d₃ :: d₄ :: more =>
        match hexValue? [d₁, d₂, d₃, d₄] with
        | some codePoint => (unescape more).map (charAt codePoint :: ·)
        | none => .error (.unknown 'u')
      | 'U' :: d₁ :: d₂ :: d₃ :: d₄ :: d₅ :: d₆ :: d₇ :: d₈ :: more =>
        match hexValue? [d₁, d₂, d₃, d₄, d₅, d₆, d₇, d₈] with
        | some codePoint =>
          if codePoint ≤ 0x10ffff then (unescape more).map (charAt codePoint :: ·)
          else .error (.outOfRange [d₁, d₂, d₃, d₄, d₅, d₆, d₇, d₈])
        | none => .error (.unknown 'U')
      | letter :: more =>
        match letterEscape? letter with
        | some plain => (unescape more).map (plain :: ·)
        | none => .error (.unknown letter)
    else (unescape rest).map (c :: ·)

end FactQuery.Text
