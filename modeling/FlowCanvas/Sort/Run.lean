import FlowCanvas.Sort.Search

/-!
# Runs

A run is a sorted stretch. One that stands at the front of some items already is found by
`leadingRun`: as long an ascending stretch as there is, or a strictly descending one turned round.
`insertSorted` makes a run longer by one item.
-/

namespace FlowCanvas.Sort

variable {ε α : Type} (precedes : α → α → Except ε Bool)

/-- Goes on with a run, each item preceding the last one if the run descends and else not.
`done` holds the run so far, last item first. -/
def takeRun (descends : Bool) (last : α) (done : List α) :
    List α → Except ε (List α × List α)
  | [] => .ok (done, [])
  | x :: rest => do
    if (← precedes x last) == descends then takeRun descends x (x :: done) rest
    else return (done, x :: rest)

/-- The run at the front in ascending order, and the items after it. -/
def leadingRun : List α → Except ε (List α × List α)
  | a :: b :: rest => do
    let descends ← precedes b a
    let run ← takeRun precedes descends b [b, a] rest
    return (if descends then run.1 else run.1.reverse, run.2)
  | items => .ok (items, [])

/-- Puts an item in its place, behind those that are equal to it. -/
def insertSorted (sorted : List α) (x : α) : Except ε (List α) := do
  let place ← halve (isAfter precedes sorted.toArray x) 0 sorted.length
  return sorted.take place ++ x :: sorted.drop place

/-- The fewest items of a run among `count` items: a number from 32 to 64 of which `count` is a
multiple by a power of two or falls just short of one. Fewer than 64 items are one run. -/
def shortestRun (count : Nat) (inexact : Bool) : Nat :=
  if 64 ≤ count then shortestRun (count / 2) (inexact || count % 2 == 1)
  else count + inexact.toNat

end FlowCanvas.Sort
