import FlowCanvas.Sort.Merge
import FlowCanvas.Sort.Run

/-!
# Sorting with a comparison that may fail

`sorted precedes items` puts items in ascending order, and fails with the first failure of a
comparison that it meets. Which comparison that is depends on the order in which items are
compared, so the method is fixed: items are split into runs, short ones filled up by insertion, and
neighbouring runs are merged. A boundary between runs is the deeper, the more halvings of the whole
it takes until the middles of both lie apart (`boundaryDepth`); deeper boundaries are merged away
first. Items that neither precedes the other keep their order.
-/

namespace FlowCanvas.Sort

variable {ε α : Type} (precedes : α → α → Except ε Bool)

/-! ### Runs that wait to be merged -/

/-- A run that waits for its neighbours. -/
structure Waiting (α : Type) where
  /-- Where it starts in the whole. -/
  start : Nat
  items : List α
  /-- How deep the boundary to the next run is. -/
  depth : Nat

/-- How deep the boundary of two neighbouring runs is: how many halvings of the whole pass before
their middles lie apart. -/
def boundaryDepth (total start first second : Nat) : Nat :=
  let a := 2 * start + first
  let b := a + first + second
  let half := fun (n middle : Nat) ↦ middle * Nat.pow 2 n / total
  ((List.range (total.log2 + 2)).find? fun n ↦ half n a ≠ half n b).getD total

/-- The runs that wait, the last one in front, and the patience. -/
abbrev Queue (α : Type) : Type := List (Waiting α) × Nat

/-- Merges two neighbouring runs. -/
def Waiting.merge (patience : Nat) (first second : Waiting α) : Except ε (Waiting α × Nat) := do
  let merged ← Sort.merge precedes patience first.items second.items
  return (⟨first.start, merged.1, second.depth⟩, merged.2)

/-- Merges runs at the end for as long as the boundary before the last one is deeper than the
next. -/
def mergeDeeper (depth : Nat) : List (Waiting α) → Nat → Except ε (Queue α)
  | last :: other :: rest, patience =>
    if depth < other.depth then
      match Waiting.merge precedes patience other last with
      | .ok merged => mergeDeeper depth (merged.1 :: rest) merged.2
      | .error e => .error e
    else .ok (last :: other :: rest, patience)
  | runs, patience => .ok (runs, patience)
termination_by runs => runs.length

/-- Lets a further run wait. -/
def await (total : Nat) (runs : Queue α) (items : List α) : Except ε (Queue α) := do
  match runs.1 with
  | [] => return ([⟨0, items, 0⟩], runs.2)
  | last :: _ =>
    let depth := boundaryDepth total last.start last.items.length items.length
    let start := last.start + last.items.length
    match ← mergeDeeper precedes depth runs.1 runs.2 with
    | (before :: rest, patience) =>
      return (⟨start, items, 0⟩ :: { before with depth } :: rest, patience)
    | ([], patience) => return ([⟨start, items, 0⟩], patience)

/-- Merges all runs that wait: the last two, or the two before the last if the third from the end
is shorter than the last. -/
def mergeAll : List (Waiting α) → Nat → Except ε (List α)
  | last :: middle :: first :: rest, patience =>
    if first.items.length < last.items.length then
      match Waiting.merge precedes patience first middle with
      | .ok merged => mergeAll (last :: merged.1 :: rest) merged.2
      | .error e => .error e
    else
      match Waiting.merge precedes patience middle last with
      | .ok merged => mergeAll (merged.1 :: first :: rest) merged.2
      | .error e => .error e
  | [second, first], patience => (Waiting.merge precedes patience first second).map (·.1.items)
  | [run], _ => .ok run.items
  | [], _ => .ok []
termination_by runs => runs.length

/-! ### The whole -/

/-- Splits items into runs and lets them wait. -/
def gather (total shortest : Nat) (items : List α) (runs : Queue α) : Except ε (Queue α) := do
  match items with
  | [] => return runs
  | x :: others =>
    let run ← leadingRun precedes (x :: others)
    let missing := shortest - run.1.length
    let full ← (run.2.take missing).foldlM (insertSorted precedes) run.1
    gather total shortest (others.drop (run.1.length - 1 + missing))
      (← await precedes total runs full)
termination_by items.length

/-- The items in ascending order. -/
def sorted (items : List α) : Except ε (List α) := do
  let runs ← gather precedes items.length (shortestRun items.length false) items ([], firstPatience)
  mergeAll precedes runs.1 runs.2

end FlowCanvas.Sort
