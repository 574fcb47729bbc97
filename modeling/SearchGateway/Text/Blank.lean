/-!
# Blank characters and trimming

A blank is a character with the Unicode property `White_Space`. Trimming removes the blanks at
both ends of a text and nothing between them.
-/

namespace SearchGateway.Text

/-- The characters with the Unicode property `White_Space`. -/
def isBlank (c : Char) : Bool :=
  let n := c.toNat
  (0x09 ≤ n && n ≤ 0x0D) || n == 0x20 || n == 0x85 || n == 0xA0 || n == 0x1680 ||
    (0x2000 ≤ n && n ≤ 0x200A) || n == 0x2028 || n == 0x2029 || n == 0x202F || n == 0x205F ||
    n == 0x3000

def dropEndWhile {α : Type u} (p : α → Bool) (s : List α) : List α :=
  (s.reverse.dropWhile p).reverse

/-- The text between its first and its last character that is no blank. -/
def trim (s : List Char) : List Char :=
  dropEndWhile isBlank (s.dropWhile isBlank)

def trimmed (s : String) : String :=
  String.ofList (trim s.toList)

def isBlankText (s : String) : Bool :=
  s.toList.all isBlank

/-- The ASCII bytes that count as white space: space, tab, line feed, form feed, return. -/
def isBlankByte (b : UInt8) : Bool :=
  b == 0x20 || b == 0x09 || b == 0x0A || b == 0x0C || b == 0x0D

end SearchGateway.Text
