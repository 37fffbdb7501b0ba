import FlowCanvas.Sort.Search

/-!
# Merging

`merge` merges two sorted lists into one, in which items of the first list stand before items of
the second that they do not precede and that do not precede them. It works towards the end of the
longer list, item by item, and takes items in whole stretches once one side has won often enough in
a row. How often that has to be, the patience, is learnt from merge to merge.
-/

namespace FlowCanvas.Sort

variable {ε α : Type} (precedes : α → α → Except ε Bool)

/-- Two sorted lists on their way to one, from the front or from the end. -/
structure Merging (α : Type) where
  fromEnd : Bool
  /-- What is merged, the item that was taken last in front. -/
  done : List α
  /-- What is left of the first list; from the end, its last item stands in front. -/
  left : List α
  /-- What is left of the second list; from the end, its last item stands in front. -/
  right : List α
  /-- How often one side has to win in a row before whole stretches are taken. -/
  patience : Nat

namespace Merging

/-- Is the place of everything that is left known? The item that is known to come last in the
direction of the merge is not compared any more. -/
def isOver (m : Merging α) : Bool :=
  if m.fromEnd then m.left.isEmpty || decide (m.right.length ≤ 1)
  else m.right.isEmpty || decide (m.left.length ≤ 1)

/-- The merged list, when the merge is over. -/
def result (m : Merging α) : List α :=
  if m.fromEnd then m.right.reverse ++ (m.left.reverse ++ m.done)
  else m.done.reverse ++ (m.right ++ m.left)

/-- Takes some items of the first list. -/
def takeLeft (m : Merging α) (count : Nat) : Merging α :=
  { m with done := (m.left.take count).reverse ++ m.done, left := m.left.drop count }

/-- Takes some items of the second list. -/
def takeRight (m : Merging α) (count : Nat) : Merging α :=
  { m with done := (m.right.take count).reverse ++ m.done, right := m.right.drop count }

/-- How many items of one list come next in the direction of the merge, by a test for the places
that lie beyond them. -/
def lead (fromEnd : Bool) (beyond : Array α → Nat → Except ε Bool) (items : List α) :
    Except ε Nat := do
  if fromEnd then
    let place ← gallop (beyond items.reverse.toArray) items.length (items.length - 1)
    return items.length - place
  else gallop (beyond items.toArray) items.length 0

/-- How long a stretch has to be for more of them to be taken. -/
def longStretch : Nat := 7

mutual

/-- Merges item by item. `winner` tells whether the second list has won `streak` times in a row, or
the first. -/
def straight (m : Merging α) (winner : Bool) (streak : Nat) : Except ε (Merging α) :=
  match m with
  | ⟨fromEnd, done, a :: left, b :: right, patience⟩ => do
    let second := (← precedes b a) != fromEnd
    let wins := if second == winner then streak + 1 else 1
    if second then
      let next : Merging α := ⟨fromEnd, b :: done, a :: left, right, patience⟩
      if next.isOver then return next
      if patience ≤ wins then next.stretches else next.straight second wins
    else
      let next : Merging α := ⟨fromEnd, a :: done, left, b :: right, patience⟩
      if next.isOver then return next
      if patience ≤ wins then next.stretches else next.straight second wins
  | m => .ok m
termination_by m.left.length + m.right.length

/-- Takes a stretch of the first list and the item of the second that ends it. -/
def stretches (m : Merging α) : Except ε (Merging α) :=
  match m with
  | ⟨fromEnd, done, left, b :: right, patience⟩ => do
    let count ← lead fromEnd (fun items ↦ isAfter precedes items b) left
    let taken := Merging.takeLeft ⟨fromEnd, done, left, b :: right, patience⟩ count
    if taken.isOver then return taken
    let next : Merging α := ⟨fromEnd, b :: taken.done, left.drop count, right, patience⟩
    if next.isOver then return next
    next.answer count
  | m => .ok m
termination_by m.left.length + m.right.length

/-- Takes a stretch of the second list and the item of the first that ends it, after a stretch of
`earlier` items. -/
def answer (m : Merging α) (earlier : Nat) : Except ε (Merging α) :=
  match m with
  | ⟨fromEnd, done, a :: left, right, patience⟩ => do
    let count ← lead fromEnd (fun items ↦ isNotBefore precedes items a) right
    let taken := Merging.takeRight ⟨fromEnd, done, a :: left, right, patience⟩ count
    if taken.isOver then return taken
    let next : Merging α := ⟨fromEnd, a :: taken.done, left, right.drop count, patience⟩
    if next.isOver then return next
    if longStretch ≤ earlier ∨ longStretch ≤ count then
      ({ next with patience := max 1 (patience - 1) } : Merging α).stretches
    else ({ next with patience := patience + 1 } : Merging α).straight false 0
  | m => .ok m
termination_by m.left.length + m.right.length

end

end Merging

/-- How often one side has to win in a row at first. -/
def firstPatience : Nat := 7

/-- Merges two sorted lists; with them goes the patience. What stands in its place already at both
ends is set aside first. -/
def merge (patience : Nat) (first second : List α) : Except ε (List α × Nat) := do
  match second with
  | [] => return (first, patience)
  | b :: _ =>
    let settled ← gallop (isAfter precedes first.toArray b) first.length 0
    let left := first.drop settled
    match left.reverse with
    | [] => return (first ++ second, patience)
    | last :: before =>
      let count ← gallop (isNotBefore precedes second.toArray last) second.length
        (second.length - 1)
      match second.take count with
      | [] => return (first ++ second, patience)
      | next :: after =>
        let start : Merging α :=
          if left.length ≤ count then ⟨false, [next], left, after, patience⟩
          else ⟨true, [last], before, (second.take count).reverse, patience⟩
        let m ← if start.isOver then .ok start else start.straight precedes false 0
        return (first.take settled ++ (m.result ++ second.drop count), m.patience)

end FlowCanvas.Sort
