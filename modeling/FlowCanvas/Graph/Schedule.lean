import FlowCanvas.Graph.Basic

/-!
# Schedules

A schedule lists the nodes of a graph so that what flows into a node comes before it. It is the
post-order of a walk backwards along the edges, started at each node without an outgoing edge in
turn: a vertex is entered once, the sources of the edges that land on it are entered before it is
listed, in edge order, and vertices that are no node's key are walked through without being
listed.

The consumers-first order is the same list read backwards.
-/

namespace FlowCanvas.Graph

variable {α ν : Type} [DecidableEq α]

/-- The vertices in the order in which the walk leaves them. `fresh` holds the vertices not yet
entered, `starts` those to start from when the path has been walked back. -/
def postOrder (next : α → List α) : (fresh starts : List α) → (path : List (Frame α)) → List α
  | _, [], [] => []
  | fresh, v :: starts, [] =>
    if v ∈ fresh then postOrder next (remove v fresh) starts [⟨v, next v⟩]
    else postOrder next fresh starts []
  | fresh, starts, ⟨v, []⟩ :: path => v :: postOrder next fresh starts path
  | fresh, starts, ⟨v, w :: rest⟩ :: path =>
    if w ∈ fresh then
      postOrder next (remove w fresh) starts (⟨w, next w⟩ :: ⟨v, rest⟩ :: path)
    else postOrder next fresh starts (⟨v, rest⟩ :: path)
termination_by fresh starts path => toll next fresh + starts.length + work path
decreasing_by
  · have := toll_remove_lt next ‹v ∈ fresh›
    simp only [work, List.length_cons]
    omega
  · simp only [work, List.length_cons]
    omega
  · simp only [work]
    omega
  · have := toll_remove_lt next ‹w ∈ fresh›
    simp only [work, List.length_cons]
    omega
  · simp only [work, List.length_cons]
    omega

/-- The post-order of the walk backwards along the edges from the given vertices. -/
def orderFrom (edges : List (α × α)) (starts : List α) : List α :=
  postOrder (sources edges) (starts ++ vertices edges) starts []

/-- The nodes without an outgoing edge. -/
def sinks (key : ν → α) (edges : List (α × α)) (nodes : List ν) : List ν :=
  nodes.filter fun n ↦ key n ∉ edges.map Prod.fst

/-- The node with a given key; of several the last one. -/
def lastWithKey? (key : ν → α) (nodes : List ν) (k : α) : Option ν :=
  nodes.reverse.find? (key · = k)

/-- The nodes with producers before consumers. -/
def schedule (key : ν → α) (edges : List (α × α)) (nodes : List ν) : List ν :=
  (orderFrom edges ((sinks key edges nodes).map key)).filterMap (lastWithKey? key nodes)

/-- The nodes with consumers before producers. -/
def scheduleBackwards (key : ν → α) (edges : List (α × α)) (nodes : List ν) : List ν :=
  (schedule key edges nodes).reverse

end FlowCanvas.Graph
