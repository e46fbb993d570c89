/-!
# White space

Two classes of white space are used.  Between tokens only space, tab, line feed and carriage return
count.  Inside the text of a value, and wherever an IRI reference forbids white space, the Unicode
class counts: the bidirectional types B, S and WS and the category Zs.
-/

set_option autoImplicit false

namespace FactQuery.Text

/-- Space, tab, line feed and carriage return separate tokens. -/
def isLayoutBlank (c : Char) : Bool :=
  c == ' ' || c == '\t' || c == '\n' || c == '\r'

/-- The controls U+001C to U+001F separate records; they are white space of the Unicode class. -/
def isSeparatorControl (c : Char) : Bool :=
  0x1c ≤ c.toNat && c.toNat ≤ 0x1f

/-- Unicode white space: 29 characters. -/
def isWhite (c : Char) : Bool :=
  let n := c.toNat
  (0x09 ≤ n && n ≤ 0x0d) || isSeparatorControl c || n == 0x20 || n == 0x85 || n == 0xa0 ||
    n == 0x1680 || (0x2000 ≤ n && n ≤ 0x200a) || n == 0x2028 || n == 0x2029 || n == 0x202f ||
    n == 0x205f || n == 0x3000

def trimBy (drops : Char → Bool) (text : List Char) : List Char :=
  ((text.dropWhile drops).reverse.dropWhile drops).reverse

/-- The characters of a class at the start of a text and at the end of what then remains. -/
def paddingBy (drops : Char → Bool) (text : List Char) : List Char :=
  text.takeWhile drops ++ ((text.dropWhile drops).reverse.takeWhile drops).reverse

theorem isWhite_of_isLayoutBlank {c : Char} (blank : isLayoutBlank c = true) :
    isWhite c = true := by
  simp only [isLayoutBlank, Bool.or_eq_true, beq_iff_eq] at blank
  rcases blank with ((rfl | rfl) | rfl) | rfl <;> decide

end FactQuery.Text
