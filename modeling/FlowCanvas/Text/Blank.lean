/-!
# Blank characters

The characters that count as white space at the ends of a text, and `strip`, which removes them.
The set has the line and page controls, the four information separators, and every space and line
or paragraph separator of the Unicode character database; zero-width characters are not in it.
-/

namespace FlowCanvas.Text

/-- Is the character white space? -/
def isBlank (c : Char) : Bool :=
  let n := c.toNat
  (0x09 ≤ n && n ≤ 0x0D) || (0x1C ≤ n && n ≤ 0x20) || n == 0x85 || n == 0xA0 || n == 0x1680 ||
    (0x2000 ≤ n && n ≤ 0x200A) || n == 0x2028 || n == 0x2029 || n == 0x202F || n == 0x205F ||
    n == 0x3000

/-- Removes the characters of a class from both ends of a list. -/
def trim (skip : Char → Bool) (cs : List Char) : List Char :=
  (((cs.dropWhile skip).reverse).dropWhile skip).reverse

/-- Removes white space from both ends of a text. -/
def strip (s : String) : String := String.ofList (trim isBlank s.toList)

/-- Is a text without any character that is not white space? -/
def isBlankText (s : String) : Bool := s.toList.all isBlank

end FlowCanvas.Text
