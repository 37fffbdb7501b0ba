import FlowCanvas.Graph.Basic

/-!
# The guard against cycles

An edge from `source` to `target` closes a cycle exactly when `target` already leads to `source`.
`closesCycle` walks the edges backwards from `source` and looks out for `target`, entering each
vertex once. A loop from a vertex to itself always closes a cycle.
-/

namespace FlowCanvas.Graph

variable {α : Type} [DecidableEq α]

/-- Is the goal among the vertices waiting to be entered or can it be reached from them? `fresh`
holds the vertices not yet entered. -/
def search (next : α → List α) (goal : α) : (fresh waiting : List α) → Bool
  | _, [] => false
  | fresh, v :: waiting =>
    if v = goal then true
    else if v ∈ fresh then search next goal (remove v fresh) (next v ++ waiting)
    else search next goal fresh waiting
termination_by fresh waiting => toll next fresh + waiting.length
decreasing_by
  · have := toll_remove_lt next ‹v ∈ fresh›
    simp only [List.length_append, List.length_cons]
    omega
  · simp only [List.length_cons]
    omega

/-- Would an edge from `source` to `target` close a cycle? -/
def closesCycle (edges : List (α × α)) (source target : α) : Bool :=
  search (sources edges) target (source :: vertices edges) [source]

end FlowCanvas.Graph
