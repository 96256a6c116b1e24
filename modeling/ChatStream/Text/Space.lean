/-! # White space

The Unicode `White_Space` characters: tab, line feed, vertical tab, form feed, carriage return,
space, next line, no-break space, Ogham space mark, the spaces U+2000 to U+200A, line and
paragraph separators, narrow no-break space, medium mathematical space and ideographic space.
Trimming removes them from the ends of a text.
-/

namespace ChatStream.Text

/-- Whether a character has the Unicode `White_Space` property. -/
def isSpace (c : Char) : Bool :=
  let n := c.toNat
  (0x09 ≤ n && n ≤ 0x0D) || n == 0x20 || n == 0x85 || n == 0xA0 || n == 0x1680 ||
  (0x2000 ≤ n && n ≤ 0x200A) || n == 0x2028 || n == 0x2029 || n == 0x202F || n == 0x205F ||
  n == 0x3000

/-- A text without its leading white space. -/
def trimStart (s : String) : String := String.ofList (s.toList.dropWhile isSpace)

/-- A text without its trailing white space. -/
def trimEnd (s : String) : String :=
  String.ofList (s.toList.reverse.dropWhile isSpace).reverse

/-- A text without white space at either end. -/
def trim (s : String) : String := trimEnd (trimStart s)

/-- Whether a text is empty or only white space. -/
def isBlank (s : String) : Bool := s.all isSpace

/-- A text without any trailing copies of `c`. -/
def trimEndChar (s : String) (c : Char) : String :=
  String.ofList (s.toList.reverse.dropWhile (· == c)).reverse

example : isSpace ' ' ∧ isSpace '　' ∧ !isSpace 'a' ∧ !isSpace '​' := by decide
example : trim " \t a b \n" = "a b" := by decide

end ChatStream.Text
