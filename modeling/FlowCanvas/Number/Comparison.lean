import FlowCanvas.Number.Shortest

/-!
# Comparing whole numbers and doubles

Whole numbers and doubles are compared by their exact values, so a whole number is never rounded
to be compared. An `Extended` is such a value, or one of the two infinities; a NaN has none.
-/

namespace FlowCanvas.Number

/-- A fraction, or one of the two infinities. -/
structure Extended where
  /-- Below zero for negative infinity, above zero for positive infinity, and else zero. -/
  side : Int
  num : Int
  den : Nat

namespace Extended

/-- The value of a whole number. -/
def ofInt (i : Int) : Extended := ⟨0, i, 1⟩

/-- The value of the double with the given bits; a NaN has none. -/
def ofBits? (all : Nat) : Option Extended :=
  let bits := all % signBit
  let sign : Int := if signBit ≤ all then -1 else 1
  if infinityBits < bits then none
  else if bits = infinityBits then some ⟨sign, 0, 1⟩
  else
    let magnitude := (Binary.ofBits bits).fraction
    some ⟨0, sign * (magnitude.1 : Int), magnitude.2⟩

/-- Are two values the same? -/
def same (a b : Extended) : Bool :=
  a.side == b.side && a.num * (b.den : Int) == b.num * (a.den : Int)

/-- Is the first value smaller than the second? -/
def less (a b : Extended) : Bool :=
  decide (a.side < b.side) ||
    (a.side == b.side && decide (a.num * (b.den : Int) < b.num * (a.den : Int)))

end Extended

end FlowCanvas.Number
