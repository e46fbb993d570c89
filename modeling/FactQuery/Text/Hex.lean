/-!
# Hexadecimal digits

Reading and writing of numbers in base sixteen, as escapes use them.
-/

set_option autoImplicit false

namespace FactQuery.Text

def hexDigit? (c : Char) : Option Nat :=
  let n := c.toNat
  if 0x30 ≤ n && n ≤ 0x39 then some (n - 0x30)
  else if 0x41 ≤ n && n ≤ 0x46 then some (n - 0x41 + 10)
  else if 0x61 ≤ n && n ≤ 0x66 then some (n - 0x61 + 10)
  else none

def hexValue? (digits : List Char) : Option Nat :=
  digits.foldlM (fun value c => (hexDigit? c).map (16 * value + ·)) 0

/-- The lower-case digits of a number in base sixteen, in exactly `width` places. -/
def hexPadded (width value : Nat) : List Char :=
  (List.range width).reverse.map fun place => Nat.digitChar (value / Nat.pow 16 place % 16)

theorem hexPadded_length (width value : Nat) : (hexPadded width value).length = width := by
  simp [hexPadded]

end FactQuery.Text
