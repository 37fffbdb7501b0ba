/-!
# Letter case

Lower and upper case as far as a comparison with ASCII text can tell: letters whose other case is
not ASCII stay as they are. Beyond A to Z and a to z there are few that count, but the upper case of
some is two or three letters.
-/

namespace FlowCanvas.Text

/-- Lower case of a character: the letters from A to Z, and the Kelvin sign, which is the one other
character whose lower case is an ASCII letter. -/
def lowerChar (c : Char) : Char :=
  if 'A' ≤ c ∧ c ≤ 'Z' then Char.ofNat (c.toNat + 32)
  else if c.toNat = 0x212A then 'k'
  else c

/-- A text with every character lowered, for comparison with ASCII text. -/
def lower (s : String) : String := String.ofList (s.toList.map lowerChar)

/-- Upper case of a character: the letters from a to z, the sharp s, the dotless i, the long s, and
the ligatures of f and of s. -/
def upperChar (c : Char) : List Char :=
  if 'a' ≤ c ∧ c ≤ 'z' then [Char.ofNat (c.toNat - 32)]
  else
    match c.toNat with
    | 0xDF => ['S', 'S']
    | 0x131 => ['I']
    | 0x17F => ['S']
    | 0xFB00 => ['F', 'F']
    | 0xFB01 => ['F', 'I']
    | 0xFB02 => ['F', 'L']
    | 0xFB03 => ['F', 'F', 'I']
    | 0xFB04 => ['F', 'F', 'L']
    | 0xFB05 | 0xFB06 => ['S', 'T']
    | _ => [c]

/-- A text in upper case, for comparison with ASCII text. -/
def upper (s : String) : String := String.ofList (s.toList.flatMap upperChar)

end FlowCanvas.Text
