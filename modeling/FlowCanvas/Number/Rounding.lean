/-!
# Rounding to a double

The double nearest to a fraction of natural numbers, a tie going to the even neighbour, in exact
arithmetic. `Decimal` is a number written in base ten, `±mantissa · 10 ^ exponent`, and
`Decimal.toFloat` its nearest double; `ofInt?` is the nearest double of an integer that has one.
-/

namespace FlowCanvas.Number

/-- The quotient rounded to the nearest natural number, a tie to the even one. -/
def roundHalfEven (num den : Nat) : Nat :=
  let q := num / den
  let twice := 2 * (num % den)
  if twice < den then q
  else if den < twice then q + 1
  else if q % 2 = 0 then q else q + 1

/-- An integer power, as a fraction's numerator and denominator. -/
def power (base : Nat) (e : Int) : Nat × Nat :=
  if 0 ≤ e then (Nat.pow base e.toNat, 1) else (1, Nat.pow base (-e).toNat)

/-- The number of fractions that a double can have at one exponent, `2 ^ 52`. -/
def fractions : Nat := 0x10000000000000

/-- The weight of the sign bit, `2 ^ 63`. -/
def signBit : Nat := 0x8000000000000000

/-- The bits of positive infinity. -/
def infinityBits : Nat := 0x7FF0000000000000

/-- The bits of the double nearest to `num / den`. With `2 ^ q` the gap between doubles at that
size, the bits are `(q + 1074) · 2 ^ 52` plus the fraction counted in gaps: the carry of a
fraction that rounds up to `2 ^ 53` moves into the exponent by itself. -/
def nearestBits (num den : Nat) : Nat :=
  if num = 0 then 0
  else
    let e : Int := (num.log2 : Int) - (den.log2 : Int)
    let p := power 2 e
    let top : Int := if den * p.1 ≤ num * p.2 then e else e - 1
    let q : Int := max (top - 52) (-1074)
    let gap := power 2 q
    let m := roundHalfEven (num * gap.2) (den * gap.1)
    min ((q + 1074).toNat * fractions + m) infinityBits

/-- The double with the given sign and magnitude bits. -/
def ofMagnitude (negative : Bool) (bits : Nat) : Float :=
  Float.ofBits (UInt64.ofNat (if negative then signBit + bits else bits))

/-- The number `±mantissa · 10 ^ exponent`. -/
structure Decimal where
  /-- Is there a minus sign? -/
  negative : Bool
  /-- The digits as one natural number. -/
  mantissa : Nat
  /-- The power of ten. -/
  exponent : Int

/-- How many decimal digits a natural number has. -/
def digitCount (n : Nat) : Nat := (Nat.toDigits 10 n).length

/-- The double nearest to a decimal. Beyond four hundred places before or behind the point the
answer is infinity or zero, so no power of ten larger than that is formed. -/
def Decimal.toFloat (d : Decimal) : Float :=
  let scale : Int := (digitCount d.mantissa : Int) + d.exponent
  let bits :=
    if d.mantissa = 0 then 0
    else if 400 < scale then infinityBits
    else if scale < -400 then 0
    else
      let scaling := power 10 d.exponent
      nearestBits (d.mantissa * scaling.1) scaling.2
  ofMagnitude d.negative bits

/-- The double nearest to an integer, unless the integer is too large to have one. -/
def ofInt? (i : Int) : Option Float :=
  let bits := nearestBits i.natAbs 1
  if bits = infinityBits then none else some (ofMagnitude (decide (i < 0)) bits)

end FlowCanvas.Number
