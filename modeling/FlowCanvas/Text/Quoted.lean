import FlowCanvas.Text.Digit
import FlowCanvas.Text.Printable

/-!
# Quoted text

`quoted s` shows a text between quotation marks. The mark is `'`, or `"` for a text that holds
`'` and no `"`. The mark, the backslash, line feed, carriage return and tab are escaped by a
letter; any other character that is not printable is escaped by its code point in two, four or
eight hexadecimal digits.
-/

namespace FlowCanvas.Text

/-- The mark around a text. -/
def quotationMark (s : String) : Char :=
  if s.toList.contains '\'' && !s.toList.contains '"' then '"' else '\''

/-- One character inside quoted text. -/
def escaped (mark c : Char) : List Char :=
  if c = mark ∨ c = '\\' then ['\\', c]
  else if c = '\n' then ['\\', 'n']
  else if c = '\r' then ['\\', 'r']
  else if c = '\t' then ['\\', 't']
  else if isPrintable c then [c]
  else if c.toNat < 0x100 then '\\' :: 'x' :: (hex 2 c.toNat).toList
  else if c.toNat < 0x10000 then '\\' :: 'u' :: (hex 4 c.toNat).toList
  else '\\' :: 'U' :: (hex 8 c.toNat).toList

/-- A text between quotation marks, with escapes. -/
def quoted (s : String) : String :=
  let mark := quotationMark s
  String.ofList (mark :: (s.toList.flatMap (escaped mark) ++ [mark]))

end FlowCanvas.Text
