/-!
# Searching sorted items

A place among sorted items is found by a test that says whether a place lies beyond the one that is
looked for, and that may fail. `halve` looks between two bounds; `gallop` starts from a hint and
first goes ahead in strides that double.
-/

namespace FlowCanvas.Sort

variable {ε α : Type}

/-- The first place that lies beyond, between two bounds, by halving. -/
def halve (beyond : Nat → Except ε Bool) (low high : Nat) : Except ε Nat :=
  if low < high then
    let middle := low + (high - low) / 2
    match beyond middle with
    | .ok true => halve beyond low middle
    | .ok false => halve beyond (middle + 1) high
    | .error e => .error e
  else .ok low
termination_by high - low

/-- Goes ahead in steps that double until the test says to stop: the last two distances, the second
no more than a limit. -/
def stride (stop : Nat → Except ε Bool) (limit last next : Nat) : Except ε (Nat × Nat) :=
  if next < limit then
    match stop next with
    | .ok true => .ok (last, next)
    | .ok false => stride stop limit next (2 * next + 1)
    | .error e => .error e
  else .ok (last, limit)
termination_by limit - next

/-- The first of `count` places that lies beyond, by strides from a hint and then by halving. -/
def gallop (beyond : Nat → Except ε Bool) (count hint : Nat) : Except ε Nat := do
  if ← beyond hint then
    let back ← stride (fun n ↦ (!·) <$> beyond (hint - n)) (hint + 1) 0 1
    halve beyond (hint + 1 - back.2) (hint - back.1)
  else
    let ahead ← stride (fun n ↦ beyond (hint + n)) (count - hint) 0 1
    halve beyond (hint + ahead.1 + 1) (hint + ahead.2)

variable (precedes : α → α → Except ε Bool)

/-- Does a place lie beyond the items that may stand before a key, those equal to it included? -/
def isAfter (items : Array α) (key : α) (place : Nat) : Except ε Bool :=
  match items[place]? with
  | some x => precedes key x
  | none => .ok true

/-- Does a place lie beyond the items that precede a key? -/
def isNotBefore (items : Array α) (key : α) (place : Nat) : Except ε Bool :=
  match items[place]? with
  | some x => (!·) <$> precedes x key
  | none => .ok true

end FlowCanvas.Sort
