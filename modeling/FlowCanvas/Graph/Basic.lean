/-!
# Directed graphs as lists of edges

A graph is a list of edges `(source, target)`, kept in the order in which they were drawn;
parallel edges, loops and vertices that stand for nothing are all allowed. `Path` says that edges
lead from one vertex to another.

The searches over a graph all end for the same reason. They carry the list of vertices not yet
entered, `fresh`. A step either tries one neighbour less along the open path (`work`), or it enters
a vertex, and then what entering the vertices left may bring (`toll`) shrinks by more than the
neighbours it adds (`toll_remove_lt`).
-/

namespace FlowCanvas.Graph

variable {α : Type} [DecidableEq α]

/-- Edges lead from the first vertex to the second; no edge at all leads to where one is. -/
inductive Path (edges : List (α × α)) : α → α → Prop where
  | refl (v : α) : Path edges v v
  | step {u v w : α} : (u, v) ∈ edges → Path edges v w → Path edges u w

/-- The sources of the edges that land on a vertex, in edge order. -/
def sources (edges : List (α × α)) (v : α) : List α :=
  (edges.filter (·.2 = v)).map Prod.fst

/-- The targets of the edges that leave a vertex, in edge order. -/
def targets (edges : List (α × α)) (v : α) : List α :=
  (edges.filter (·.1 = v)).map Prod.snd

/-- Every end of an edge. -/
def vertices (edges : List (α × α)) : List α := edges.flatMap fun e ↦ [e.1, e.2]

omit [DecidableEq α] in
theorem Path.trans {edges : List (α × α)} {u v w : α} (h : Path edges u v)
    (h' : Path edges v w) : Path edges u w := by
  induction h with
  | refl => exact h'
  | step e _ ih => exact .step e (ih h')

theorem mem_sources {edges : List (α × α)} {u v : α} : u ∈ sources edges v ↔ (u, v) ∈ edges := by
  simp only [sources, List.mem_map, List.mem_filter, decide_eq_true_eq]
  constructor
  · rintro ⟨e, ⟨he, rfl⟩, rfl⟩
    exact he
  · exact fun h ↦ ⟨(u, v), ⟨h, rfl⟩, rfl⟩

theorem mem_targets {edges : List (α × α)} {u v : α} : v ∈ targets edges u ↔ (u, v) ∈ edges := by
  simp only [targets, List.mem_map, List.mem_filter, decide_eq_true_eq]
  constructor
  · rintro ⟨e, ⟨he, rfl⟩, rfl⟩
    exact he
  · exact fun h ↦ ⟨(u, v), ⟨h, rfl⟩, rfl⟩

omit [DecidableEq α] in
theorem mem_vertices {edges : List (α × α)} {v : α} :
    v ∈ vertices edges ↔ ∃ e ∈ edges, v = e.1 ∨ v = e.2 := by
  simp [vertices]

/-! ### Searching -/

/-- Takes a vertex out of the list of those not yet entered. -/
def remove (v : α) (fresh : List α) : List α := fresh.filter (· ≠ v)

theorem mem_remove {u v : α} {fresh : List α} : u ∈ remove v fresh ↔ u ∈ fresh ∧ u ≠ v := by
  simp [remove]

/-- A vertex that has been entered, with the neighbours still to try from it. -/
structure Frame (α : Type) where
  /-- The vertex. -/
  vertex : α
  /-- The neighbours still to try. -/
  pending : List α

/-- How much is left to try along an open path. -/
def work : List (Frame α) → Nat
  | [] => 0
  | f :: path => f.pending.length + 1 + work path

/-- How much entering every vertex of a list may bring. -/
def toll (next : α → List α) : List α → Nat
  | [] => 0
  | v :: rest => (next v).length + 2 + toll next rest

theorem toll_remove_le (next : α → List α) (v : α) (fresh : List α) :
    toll next (remove v fresh) ≤ toll next fresh := by
  induction fresh with
  | nil => exact Nat.le_refl _
  | cons u rest ih =>
    by_cases h : u = v
    · rw [remove, List.filter_cons_of_neg (by simpa using h)]
      exact Nat.le_trans ih (Nat.le_add_left _ _)
    · rw [remove, List.filter_cons_of_pos (by simpa using h)]
      exact Nat.add_le_add_left ih _

/-- A vertex that is entered takes with it more than entering it brings. -/
theorem toll_remove_lt (next : α → List α) {v : α} {fresh : List α} (h : v ∈ fresh) :
    toll next (remove v fresh) + (next v).length + 1 < toll next fresh := by
  induction fresh with
  | nil => exact absurd h List.not_mem_nil
  | cons u rest ih =>
    by_cases hu : u = v
    · have := toll_remove_le next v rest
      rw [remove, List.filter_cons_of_neg (by simpa using hu)]
      simp only [remove] at this
      simp only [toll, hu]
      omega
    · have := ih ((List.mem_cons.1 h).resolve_left (Ne.symm hu))
      rw [remove, List.filter_cons_of_pos (by simpa using hu)]
      simp only [remove] at this
      simp only [toll]
      omega

end FlowCanvas.Graph
