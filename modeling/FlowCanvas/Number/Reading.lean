import FlowCanvas.Number.Rounding
import FlowCanvas.Text.Blank
import FlowCanvas.Text.Digit

/-!
# Numbers in free text

`readFloat?` reads a decimal number, an infinity or a NaN out of a text, and `readInt?` a whole
number. Digits may be of any script, and one underscore may stand between two digits. Around the
number white space is allowed; in front of it one sign.
-/

namespace FlowCanvas.Number

open Text

/-- Writes every digit in ASCII and leaves the other characters. -/
def asciiDigits (cs : List Char) : List Char :=
  cs.map fun c ↦ match digitValue? c with
    | some d => Char.ofNat (48 + d)
    | none => c

/-- Is the character an ASCII digit? -/
def isDigit (c : Char) : Bool := decide ('0' ≤ c) && decide (c ≤ '9')

/-- Takes out the underscores, given the character before; none if one does not stand between two
digits. -/
def dropUnderscores (before : Char) : List Char → Option (List Char)
  | [] => if before = '_' then none else some []
  | c :: rest =>
    if c = '_' then if isDigit before then dropUnderscores c rest else none
    else if before = '_' && !isDigit c then none
    else (dropUnderscores c rest).map (c :: ·)

/-- A sign in front, and the rest. -/
def takeSign : List Char → Bool × List Char
  | '-' :: rest => (true, rest)
  | '+' :: rest => (false, rest)
  | cs => (false, cs)

/-- The natural number that a list of ASCII digits writes. -/
def ofDigits (cs : List Char) : Nat := cs.foldl (fun n c ↦ 10 * n + (c.toNat - 48)) 0

/-- The digits at the front, and the rest. -/
def takeDigits (cs : List Char) : List Char × List Char :=
  (cs.takeWhile isDigit, cs.dropWhile isDigit)

/-- The exponent part of a number: none if it is malformed. -/
def readExponent? : List Char → Option Int
  | [] => some 0
  | e :: rest =>
    if e = 'e' ∨ e = 'E' then
      let signed := takeSign rest
      if signed.2.isEmpty || !signed.2.all isDigit then none
      else
        let n : Int := (ofDigits signed.2 : Int)
        some (if signed.1 then -n else n)
    else none

/-- A decimal without its sign: digits with or without a point, at least one digit, then perhaps
an exponent. -/
def readDecimal? (negative : Bool) (cs : List Char) : Option Decimal :=
  let whole := takeDigits cs
  let rest : List Char × List Char := match whole.2 with
    | '.' :: after => takeDigits after
    | other => ([], other)
  if whole.1.isEmpty && rest.1.isEmpty then none
  else (readExponent? rest.2).map fun e ↦
    ⟨negative, ofDigits (whole.1 ++ rest.1), e - (rest.1.length : Int)⟩

/-- ASCII lower case. -/
def foldCase (cs : List Char) : List Char := cs.map Char.toLower

/-- A NaN. -/
def nan : Float := Float.ofBits 0x7FF8000000000000

/-- White space around a number: every blank character but the four information separators. -/
def isMargin (c : Char) : Bool := isBlank c && !(0x1C ≤ c.toNat && c.toNat ≤ 0x1F)

/-- Reads a decimal number, `inf`, `infinity` or `nan`; a number too large is infinite. -/
def readFloat? (s : String) : Option Float :=
  (dropUnderscores ' ' (trim isMargin (asciiDigits s.toList))).bind fun cs ↦
    let signed := takeSign cs
    let word := String.ofList (foldCase signed.2)
    if word = "inf" ∨ word = "infinity" then some (ofMagnitude signed.1 infinityBits)
    else if word = "nan" then some nan
    else (readDecimal? signed.1 signed.2).map Decimal.toFloat

/-- The most digits a whole number may be written with. -/
def digitLimit : Nat := 4300

/-- Reads a whole number. -/
def readInt? (s : String) : Option Int :=
  let signed := takeSign (asciiDigits (strip s).toList)
  (dropUnderscores ' ' signed.2).bind fun cs ↦
    if cs.isEmpty || !cs.all isDigit || digitLimit < cs.length then none
    else some (if signed.1 then -(ofDigits cs : Int) else (ofDigits cs : Int))

end FlowCanvas.Number
