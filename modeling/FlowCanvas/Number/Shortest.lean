import FlowCanvas.Number.Rounding

/-!
# The shortest decimal of a double

Of all decimals that round to a given double, `shortest` finds one with the fewest digits, and of
those the nearest. A finite double is `m · 2 ^ q`; the reals that round to it form an interval
whose ends belong to it exactly when `m` is even. For one digit, two digits and so on the two
neighbours of the double on that decimal grid are tried in exact arithmetic; seventeen digits are
always enough.

`text` writes the digits: positional between a ten-thousandth and ten to the sixteenth, always
with a point, and otherwise with an exponent of at least two digits.
-/

namespace FlowCanvas.Number

/-- The magnitude `m · 2 ^ q` of a finite double, from its bits without the sign. -/
structure Binary where
  /-- The integral significand. -/
  m : Nat
  /-- The power of two. -/
  q : Int
  /-- Is the next smaller double only half as far away as the next larger one? -/
  narrowBelow : Bool

/-- Reads the magnitude off the bits of a finite double. -/
def Binary.ofBits (bits : Nat) : Binary :=
  let fraction := bits % fractions
  let e := bits / fractions % 2048
  if e = 0 then ⟨fraction, -1074, false⟩
  else ⟨fractions + fraction, (e : Int) - 1075, fraction = 0 && 1 < e⟩

/-- A quarter of the gap, as a fraction: the unit in which the interval's ends are integers. -/
def Binary.quarter (b : Binary) : Nat × Nat := power 2 (b.q - 2)

/-- Does the decimal `n · 10 ^ k` round to the double? -/
def Binary.admits (b : Binary) (n : Nat) (k : Int) : Bool :=
  let unit := b.quarter
  let ten := power 10 k
  let value := n * ten.1 * unit.2
  let low := (if b.narrowBelow then 4 * b.m - 1 else 4 * b.m - 2) * unit.1 * ten.2
  let high := (4 * b.m + 2) * unit.1 * ten.2
  if b.m % 2 = 0 then low ≤ value && value ≤ high else low < value && value < high

/-- The value as a fraction. -/
def Binary.fraction (b : Binary) : Nat × Nat :=
  let p := power 2 b.q
  (b.m * p.1, p.2)

/-- The power of ten at or below the value: `10 ^ e ≤ value < 10 ^ (e + 1)`. -/
def Binary.magnitude (b : Binary) : Int :=
  let v := b.fraction
  let e : Int := (digitCount v.1 : Int) - (digitCount v.2 : Int)
  let ten := power 10 e
  if v.2 * ten.1 ≤ v.1 * ten.2 then e else e - 1

/-- The nearer of the value's two neighbours on the grid `10 ^ k` that round to the double. -/
def Binary.onGrid (b : Binary) (k : Int) : Option Nat :=
  let v := b.fraction
  let ten := power 10 k
  let num := v.1 * ten.2
  let den := v.2 * ten.1
  let below := num / den
  let near := roundHalfEven num den
  let far := if near = below then below + 1 else below
  if b.admits near k then some near
  else if b.admits far k then some far
  else none

/-- The first grid with a hit among those of `n`, `n + 1`, … digits. -/
def Binary.search (b : Binary) (e : Int) : Nat → Nat → Nat × Int
  | 0, n => (0, e - n)
  | tries + 1, n =>
    let k := e + 1 - n
    match b.onGrid k with
    | some digits => (digits, k)
    | none => b.search e tries (n + 1)

/-- Moves the zeros at the end of the digits into the power of ten. -/
def dropZeros : Nat → Nat → Int → Nat × Int
  | 0, n, k => (n, k)
  | fuel + 1, n, k => if n % 10 = 0 ∧ n ≠ 0 then dropZeros fuel (n / 10) (k + 1) else (n, k)

/-- The digits and the power of ten of the shortest decimal of a finite double that is not zero,
from its bits without the sign. -/
def shortest (bits : Nat) : Nat × Int :=
  let b := Binary.ofBits bits
  let found := b.search b.magnitude 17 1
  dropZeros 20 found.1 found.2

/-- Digits and a power of ten, written out. `point` is where the point stands, counted from the
first digit. -/
def layout (n : Nat) (k : Int) : List Char :=
  let digits := Nat.toDigits 10 n
  let point : Int := (digits.length : Int) + k
  if -4 < point ∧ point ≤ 16 then
    if point ≤ 0 then '0' :: '.' :: (List.replicate (-point).toNat '0' ++ digits)
    else if 0 ≤ k then digits ++ List.replicate k.toNat '0' ++ ['.', '0']
    else digits.take point.toNat ++ '.' :: digits.drop point.toNat
  else
    let e := point - 1
    let size := Nat.toDigits 10 e.natAbs
    let tail := (if size.length < 2 then '0' :: size else size)
    let lead := match digits with
      | d :: d' :: rest => d :: '.' :: d' :: rest
      | short => short
    lead ++ 'e' :: (if e < 0 then '-' else '+') :: tail

/-- A double in text: the shortest decimal that reads back as it. -/
def text (x : Float) : String :=
  let all := x.toBits.toNat
  let bits := all % signBit
  let negative := signBit ≤ all
  if infinityBits < bits then "nan"
  else
    let magnitude :=
      if bits = infinityBits then ['i', 'n', 'f']
      else if bits = 0 then ['0', '.', '0']
      else let d := shortest bits; layout d.1 d.2
    String.ofList (if negative then '-' :: magnitude else magnitude)

end FlowCanvas.Number
