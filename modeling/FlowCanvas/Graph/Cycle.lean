import FlowCanvas.Graph.Basic

/-!
# Does a graph have a cycle?

`hasCycle` follows edges forwards from every vertex in turn and keeps the path by which it came.
An edge back onto that path closes a cycle. A vertex that has been left again lies on no cycle, so
none is entered twice.
-/

namespace FlowCanvas.Graph

variable {α : Type} [DecidableEq α]

/-- Does an edge lead back onto the open path, now or in the rest of the search? `fresh` holds
the vertices not yet entered, `starts` those to start from when the path has been walked back. -/
def findsLoop (next : α → List α) : (fresh starts : List α) → (path : List (Frame α)) → Bool
  | _, [], [] => false
  | fresh, v :: starts, [] =>
    if v ∈ fresh then findsLoop next (remove v fresh) starts [⟨v, next v⟩]
    else findsLoop next fresh starts []
  | fresh, starts, ⟨_, []⟩ :: path => findsLoop next fresh starts path
  | fresh, starts, ⟨v, w :: rest⟩ :: path =>
    if w = v ∨ w ∈ path.map Frame.vertex then true
    else if w ∈ fresh then
      findsLoop next (remove w fresh) starts (⟨w, next w⟩ :: ⟨v, rest⟩ :: path)
    else findsLoop next fresh starts (⟨v, rest⟩ :: path)
termination_by fresh starts path => toll next fresh + starts.length + work path
decreasing_by
  · have := toll_remove_lt next ‹v ∈ fresh›
    simp only [work, List.length_cons]
    omega
  · simp only [work, List.length_cons]
    omega
  · simp only [work]
    omega
  · have := toll_remove_lt next ‹w ∈ fresh›
    simp only [work, List.length_cons]
    omega
  · simp only [work, List.length_cons]
    omega

/-- Does the graph have a cycle? -/
def hasCycle (edges : List (α × α)) : Bool :=
  findsLoop (targets edges) (vertices edges) (edges.map Prod.fst) []

end FlowCanvas.Graph
