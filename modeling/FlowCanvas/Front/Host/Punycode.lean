import FlowCanvas.Front.Host.LabelFault
import FlowCanvas.Front.Text.Part

/-!
# Punycode

Code points written in ASCII. The ASCII characters of a text come first; then, behind a hyphen, the
others follow in increasing order as numbers: each says how many steps of counting, through all
places of the text and then on to the next code point, lead from the one before to this one. Numbers
are written in digits of a base that varies from place to place with a bias, which follows the size
of the numbers so far; a digit below its place's threshold is the last.
-/

namespace FlowCanvas.Front.Host.Punycode

/-- The bias at the start. -/
def firstBias : Nat := 72

/-- The first code point beyond ASCII. -/
def firstCode : Nat := 0x80

/-- The threshold of a place, counted from zero. -/
def threshold (place bias : Nat) : Nat := max 1 (min 26 (36 * (place + 1) - bias))

theorem threshold_pos (place bias : Nat) : 1 ≤ threshold place bias := Nat.le_max_left _ _

/-- The bias for numbers of about this size. -/
def settle (size bias : Nat) : Nat :=
  if 455 < size then settle (size / 35) (bias + 36) else bias + 36 * size / (size + 38)
termination_by size
decreasing_by exact Nat.div_lt_self (by omega) (by omega)

/-- The bias after a number, in a text of so many characters by now. The first number tends to be
large. -/
def adapt (number count : Nat) (isFirst : Bool) : Nat :=
  let size := number / (if isFirst then 700 else 2)
  settle (size + size / count) 0

/-! ### Encoding -/

/-- The digit of a value: the letters, then the ten figures. -/
def digit (value : Nat) : Char :=
  if value < 26 then Char.ofNat (97 + value) else Char.ofNat (22 + value)

/-- The digits of a number from some place on. -/
def digits (bias place number : Nat) : List Char :=
  let t := threshold place bias
  if number < t then [digit number]
  else digit (t + (number - t) % (36 - t)) :: digits bias (place + 1) ((number - t) / (36 - t))
termination_by number
decreasing_by
  have := threshold_pos place bias
  exact Nat.lt_of_le_of_lt (Nat.div_le_self _ _) (by omega)

/-- A text that is being encoded: the steps counted since the last number, the bias, how many
characters have been written, and what has been written behind the hyphen. -/
structure Progress where
  steps : Nat
  bias : Nat
  count : Nat
  written : List Char

/-- Passes a character of the text on the way through the places for one code point. -/
def Progress.pass (start code : Nat) (p : Progress) (n : Nat) : Progress :=
  if n < code then { p with steps := p.steps + 1 }
  else if n = code then
    { steps := 0
      bias := adapt p.steps (p.count + 1) (p.count = start)
      count := p.count + 1
      written := p.written ++ digits p.bias 0 p.steps }
  else p

/-- Writes all places of each of the given code points, which are in increasing order. -/
def Progress.write (start : Nat) (text : List Nat) (next : Nat) (p : Progress) :
    List Nat → List Char
  | [] => p.written
  | code :: rest =>
    let there := { p with steps := p.steps + (code - next) * (p.count + 1) }
    let passed := text.foldl (pass start code) there
    write start text (code + 1) { passed with steps := passed.steps + 1 } rest

/-- Puts a number into an increasing list that may hold it already. -/
def insertNew (n : Nat) : List Nat → List Nat
  | [] => [n]
  | m :: rest =>
    if n < m then n :: m :: rest else if n = m then m :: rest else m :: insertNew n rest

/-- A text in ASCII. -/
def encode (text : List Nat) : List Char :=
  let plain := text.filter (· < firstCode)
  let codes := (text.filter (firstCode ≤ ·)).foldr insertNew []
  let written := Progress.write plain.length text firstCode ⟨0, firstBias, plain.length, []⟩ codes
  if plain.isEmpty then written else plain.map Char.ofNat ++ '-' :: written

/-! ### Decoding -/

/-- The value of a digit, in either case. -/
def value? (c : Char) : Option Nat :=
  if 'a' ≤ c ∧ c ≤ 'z' then some (c.toNat - 97)
  else if 'A' ≤ c ∧ c ≤ 'Z' then some (c.toNat - 65)
  else if '0' ≤ c ∧ c ≤ '9' then some (c.toNat - 22)
  else none

/-- Reads a number from some place on, where a digit has the given weight, and what follows it. -/
def readNumber (bias place weight total : Nat) :
    List Char → Except LabelFault (Nat × List Char)
  | [] => .error .cutShort
  | c :: rest =>
    match value? c with
    | none => .error (.notDigit c.toUpper)
    | some v =>
      let t := threshold place bias
      if v < t then .ok (total + v * weight, rest)
      else readNumber bias (place + 1) (weight * (36 - t)) (total + v * weight) rest

theorem length_of_readNumber {bias place weight total : Nat} {cs : List Char}
    {r : Nat × List Char} (h : readNumber bias place weight total cs = .ok r) :
    r.2.length < cs.length := by
  fun_induction readNumber bias place weight total cs with
  | case1 => cases h
  | case2 => cases h
  | case3 =>
    cases h
    exact Nat.lt_succ_self _
  | case4 _ _ _ _ _ _ _ _ _ ih => exact Nat.lt_succ_of_lt (ih h)

/-- The last code point. -/
def lastCode : Nat := 0x10FFFF

/-- Puts the code points that numbers write into a text. Counting goes on from a code point and a
place. -/
def readCodes (text : List Nat) (code place bias : Nat) (isFirst : Bool) (cs : List Char) :
    Except LabelFault (List Nat) :=
  if cs.isEmpty then .ok text
  else
    match h : readNumber bias 0 1 0 cs with
    | .error f => .error f
    | .ok (number, rest) =>
      have := length_of_readNumber h
      let counted := place + number
      let code := code + counted / (text.length + 1)
      let place := counted % (text.length + 1)
      if lastCode < code then .error (.beyondLast code)
      else
        readCodes (text.take place ++ code :: text.drop place) code (place + 1)
          (adapt number (text.length + 1) isFirst) false rest
termination_by cs.length

/-- The code points of an encoded text. -/
def decode (cs : List Char) : Except LabelFault (List Nat) :=
  let parts := Text.cutAtLast '-' cs
  readCodes (parts.1.map Char.toNat) firstCode 0 firstBias true parts.2

end FlowCanvas.Front.Host.Punycode
