import FlowCanvas.Graph.Cycle
import FlowCanvas.Proofs.Graph.Guard
import Mathlib.Data.List.Chain

/-!
# Graphs without cycles

A graph is acyclic if no edge leads back to where it came from. Taking edges away keeps it so, and
so does an edge that the guard lets pass (`Acyclic.append`), which is all that is needed to carry
acyclicity through a history of drawings and removals. Paths put the vertices of such a graph in an
order (`Acyclic.eq_of_path`), so among finitely many of them going on has to come to an end
(`Acyclic.exists_last`).

The search for a cycle reports none in such a graph (`hasCycle_eq_false`). Its open path is a chain
of edges, so an edge back onto the path would close a cycle; the vertices entered earlier play no
part in this direction.
-/

namespace FlowCanvas.Graph

variable {α : Type} {edges : List (α × α)}

/-- No edge leads back to where it came from. -/
def Acyclic (edges : List (α × α)) : Prop := ∀ u v, (u, v) ∈ edges → ¬ Path edges v u

theorem acyclic_nil : Acyclic ([] : List (α × α)) := fun _ _ h ↦ absurd h List.not_mem_nil

theorem Path.mono {others : List (α × α)} (h : edges ⊆ others) {u v : α} (p : Path edges u v) :
    Path others u v := by
  induction p with
  | refl => exact .refl _
  | step e _ ih => exact .step (h e) ih

/-- Taking edges away leaves an acyclic graph acyclic. -/
theorem Acyclic.mono {others : List (α × α)} (h : Acyclic others) (hsub : edges ⊆ others) :
    Acyclic edges := fun u v e p ↦ h u v (hsub e) (p.mono hsub)

/-- A path through a graph with one more edge either does without the edge, or reaches its source
and goes on from its target. -/
theorem Path.of_append {s t u v : α} (p : Path (edges ++ [(s, t)]) u v) :
    Path edges u v ∨ (Path edges u s ∧ Path edges t v) := by
  induction p with
  | refl => exact Or.inl (.refl _)
  | @step u w v e _ ih =>
    rcases List.mem_append.1 e with e | e
    · rcases ih with p | ⟨p, q⟩
      · exact Or.inl (.step e p)
      · exact Or.inr ⟨.step e p, q⟩
    · obtain ⟨rfl, rfl⟩ := Prod.mk.inj (List.mem_singleton.1 e)
      rcases ih with p | ⟨-, q⟩
      · exact Or.inr ⟨.refl _, p⟩
      · exact Or.inr ⟨.refl _, q⟩

/-- An edge whose target does not lead to its source leaves an acyclic graph acyclic. -/
theorem Acyclic.append (h : Acyclic edges) {s t : α} (hst : ¬ Path edges t s) :
    Acyclic (edges ++ [(s, t)]) := by
  intro u v e p
  rcases List.mem_append.1 e with e | e
  · rcases p.of_append with p | ⟨p, q⟩
    · exact h u v e p
    · exact hst (q.trans (.step e p))
  · obtain ⟨rfl, rfl⟩ := Prod.mk.inj (List.mem_singleton.1 e)
    rcases p.of_append with p | ⟨p, -⟩
    · exact hst p
    · exact hst p

/-- A graph with one more edge is acyclic exactly when it was so before and the target of the edge
does not lead to its source. -/
theorem acyclic_append_iff {s t : α} :
    Acyclic (edges ++ [(s, t)]) ↔ Acyclic edges ∧ ¬ Path edges t s := by
  constructor
  · intro h
    have hsub : edges ⊆ edges ++ [(s, t)] := List.subset_append_left _ _
    exact ⟨h.mono hsub, fun p ↦ h s t (by simp) (p.mono hsub)⟩
  · exact fun h ↦ h.1.append h.2

/-! ### Paths in an acyclic graph -/

/-- No two vertices of an acyclic graph lead to each other. -/
theorem Acyclic.eq_of_path (h : Acyclic edges) {u v : α} (p : Path edges u v)
    (q : Path edges v u) : u = v := by
  cases p with
  | refl => rfl
  | step e p => exact absurd (p.trans q) (h _ _ e)

/-- From every vertex a path leads to one behind which none of the given vertices lies. -/
theorem Acyclic.exists_last (h : Acyclic edges) (vs : List α) (v : α) :
    ∃ s, Path edges v s ∧ ∀ w ∈ vs, Path edges s w → w = s := by
  induction vs generalizing v with
  | nil => exact ⟨v, .refl v, fun _ hw ↦ absurd hw List.not_mem_nil⟩
  | cons x vs ih =>
    by_cases p : Path edges v x
    · -- go to `x` first: from behind it nothing comes back
      obtain ⟨s, q, hs⟩ := ih x
      exact ⟨s, p.trans q, List.forall_mem_cons.2 ⟨fun r ↦ h.eq_of_path q r, hs⟩⟩
    · obtain ⟨s, q, hs⟩ := ih v
      exact ⟨s, q, List.forall_mem_cons.2 ⟨fun r ↦ absurd (q.trans r) p, hs⟩⟩

theorem Path.eq_or_exists_edge {u v : α} (p : Path edges u v) : u = v ∨ ∃ w, (w, v) ∈ edges := by
  induction p with
  | refl => exact Or.inl rfl
  | step e _ ih =>
    rcases ih with rfl | he
    · exact Or.inr ⟨_, e⟩
    · exact Or.inr he

/-! ### The search for a cycle -/

/-- The open path of the search: what is still to try from each vertex are targets of its edges,
and each vertex was reached by an edge from the one below it. -/
structure IsTrail (edges : List (α × α)) (path : List (Frame α)) : Prop where
  pending : ∀ f ∈ path, ∀ w ∈ f.pending, (f.vertex, w) ∈ edges
  chain : (path.map Frame.vertex).IsChain fun v u ↦ (u, v) ∈ edges

theorem isTrail_nil : IsTrail edges [] := ⟨by simp, List.isChain_nil⟩

/-- Every vertex of the path leads to the one on top. -/
theorem path_of_mem_chain {v : α} {vs : List α} (h : (v :: vs).IsChain fun v u ↦ (u, v) ∈ edges) :
    ∀ u ∈ v :: vs, Path edges u v := by
  induction vs generalizing v with
  | nil =>
    intro u hu
    rw [List.mem_singleton.1 hu]
    exact .refl v
  | cons w rest ih =>
    obtain ⟨e, h⟩ := List.isChain_cons_cons.1 h
    intro u hu
    rcases List.mem_cons.1 hu with rfl | hu
    · exact .refl _
    · exact (ih h u hu).snoc e

/-- Going back, or on to the next neighbour, leaves a trail. -/
theorem IsTrail.tail {f : Frame α} {path : List (Frame α)} (h : IsTrail edges (f :: path)) :
    IsTrail edges path :=
  ⟨fun g hg ↦ h.pending g (List.mem_cons_of_mem _ hg), List.isChain_of_isChain_cons h.chain⟩

theorem IsTrail.next {v w : α} {rest : List α} {path : List (Frame α)}
    (h : IsTrail edges (⟨v, w :: rest⟩ :: path)) : IsTrail edges (⟨v, rest⟩ :: path) := by
  refine ⟨?_, h.chain⟩
  intro f hf x hx
  rcases List.mem_cons.1 hf with rfl | hf
  · exact h.pending _ List.mem_cons_self x (List.mem_cons_of_mem _ hx)
  · exact h.pending f (List.mem_cons_of_mem _ hf) x hx

variable [DecidableEq α]

theorem isTrail_singleton (v : α) : IsTrail edges [⟨v, targets edges v⟩] := by
  refine ⟨?_, List.isChain_singleton v⟩
  intro f hf w hw
  rw [List.mem_singleton.1 hf] at hw ⊢
  exact mem_targets.1 hw

/-- Entering a neighbour of the vertex on top leaves a trail. -/
theorem IsTrail.enter {v w : α} {rest : List α} {path : List (Frame α)}
    (h : IsTrail edges (⟨v, w :: rest⟩ :: path)) :
    IsTrail edges (⟨w, targets edges w⟩ :: ⟨v, rest⟩ :: path) := by
  have e : (v, w) ∈ edges := h.pending _ List.mem_cons_self w List.mem_cons_self
  refine ⟨?_, List.isChain_cons_cons.2 ⟨e, h.next.chain⟩⟩
  intro f hf x hx
  rcases List.mem_cons.1 hf with rfl | hf
  · exact mem_targets.1 hx
  · exact h.next.pending f hf x hx

/-- An edge back onto a trail closes a cycle. -/
theorem exists_cycle_of_findsLoop {fresh starts : List α} {path : List (Frame α)}
    (hpath : IsTrail edges path) (h : findsLoop (targets edges) fresh starts path = true) :
    ∃ u v, (u, v) ∈ edges ∧ Path edges v u := by
  fun_induction findsLoop (targets edges) fresh starts path with
  | case1 => exact absurd h Bool.false_ne_true
  | case2 fresh v starts _ ih => exact ih (isTrail_singleton v) h
  | case3 fresh v starts _ ih => exact ih hpath h
  | case4 fresh starts v path ih => exact ih hpath.tail h
  | case5 fresh starts v w rest path hw =>
    have hmem : w ∈ v :: path.map Frame.vertex := List.mem_cons.2 hw
    exact ⟨v, w, hpath.pending _ List.mem_cons_self w List.mem_cons_self,
      path_of_mem_chain hpath.chain w hmem⟩
  | case6 fresh starts v w rest path _ _ ih => exact ih hpath.enter h
  | case7 fresh starts v w rest path _ _ ih => exact ih hpath.next h

/-- **No false alarm**: an acyclic graph is not reported to have a cycle. -/
theorem Acyclic.hasCycle_eq_false (h : Acyclic edges) : hasCycle edges = false := by
  rw [← Bool.not_eq_true]
  intro hc
  obtain ⟨u, v, e, p⟩ := exists_cycle_of_findsLoop isTrail_nil hc
  exact h u v e p

end FlowCanvas.Graph
