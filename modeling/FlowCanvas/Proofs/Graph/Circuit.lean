import FlowCanvas.Proofs.Graph.Acyclic
import Mathlib.Tactic.TFAE

/-!
# Routes and circuits

A path says that edges lead from one vertex to another; a route says which ones. A circuit is a
route of at least one edge back to where it begins, and a circuit is simple if it comes through no
vertex twice. A graph is acyclic exactly when it has no circuit (`acyclic_iff_not_exists_circuit`).

With routes the guard can be held against the drawing itself. `closesCycle_tfae` says that it
refuses an edge exactly when the edge would lie on a circuit of the larger graph, and that it makes
no difference whether the circuit has to be simple. From the circuit to the guard the edge is cut
out of the circuit (`Route.split`); from the guard to the circuit the path back is first freed of
its detours (`Path.exists_simple_route`).
-/

namespace FlowCanvas.Graph

variable {α : Type} {edges : List (α × α)}

/-- The edges of a list lead one after the other from the first vertex to the last. -/
inductive Route (edges : List (α × α)) : α → List (α × α) → α → Prop where
  | nil (v : α) : Route edges v [] v
  | cons {u v w : α} {es : List (α × α)} : (u, v) ∈ edges → Route edges v es w →
      Route edges u ((u, v) :: es) w

/-- The edges of a list lead back to where they begin. -/
def IsCircuit (edges es : List (α × α)) : Prop := es ≠ [] ∧ ∃ v, Route edges v es v

/-- A circuit that comes through no vertex twice. -/
def IsSimpleCircuit (edges es : List (α × α)) : Prop :=
  IsCircuit edges es ∧ (es.map Prod.fst).Nodup

/-! ### Routes and paths -/

theorem Route.path {u v : α} {es : List (α × α)} (h : Route edges u es v) : Path edges u v := by
  induction h with
  | nil v => exact .refl v
  | cons e _ ih => exact .step e ih

/-- A route that is not empty begins with an edge, from where a path leads on. -/
theorem Route.exists_edge {u v : α} {es : List (α × α)} (h : Route edges u es v) (hne : es ≠ []) :
    ∃ w, (u, w) ∈ edges ∧ Path edges w v := by
  cases h with
  | nil => exact absurd rfl hne
  | cons e h => exact ⟨_, e, h.path⟩

/-- Where a route is cut in two. -/
theorem Route.of_append {u v : α} {es fs : List (α × α)} (h : Route edges u (es ++ fs) v) :
    ∃ w, Route edges u es w ∧ Route edges w fs v := by
  induction es generalizing u with
  | nil => exact ⟨u, .nil u, h⟩
  | cons e es ih =>
    cases h with
    | cons he h =>
      obtain ⟨w, h₁, h₂⟩ := ih h
      exact ⟨w, .cons he h₁, h₂⟩

/-- An edge of a route is one of the graph; the route comes to its source and goes on from its
target. -/
theorem Route.split {u v s t : α} {es : List (α × α)} (h : Route edges u es v)
    (hmem : (s, t) ∈ es) : Path edges u s ∧ (s, t) ∈ edges ∧ Path edges t v := by
  obtain ⟨before, after, rfl⟩ := List.append_of_mem hmem
  obtain ⟨w, h₁, h₂⟩ := h.of_append
  cases h₂ with
  | cons e h₂ => exact ⟨h₁.path, e, h₂.path⟩

/-- Without its detours a path is a route that leaves no vertex twice and never leaves the last. -/
theorem Path.exists_simple_route {u v : α} (p : Path edges u v) :
    ∃ es, Route edges u es v ∧ (v :: es.map Prod.fst).Nodup := by
  induction p with
  | refl v => exact ⟨[], .nil v, by simp⟩
  | @step u w v e _ ih =>
    obtain ⟨es, h, hnodup⟩ := ih
    by_cases huv : u = v
    · exact ⟨[], huv ▸ .nil u, by simp⟩
    · by_cases hu : u ∈ es.map Prod.fst
      · -- the route comes back to `u`: what led there is a detour
        obtain ⟨x, hx⟩ : ∃ x, (u, x) ∈ es := by simpa using hu
        obtain ⟨detour, rest, rfl⟩ := List.append_of_mem hx
        obtain ⟨_, -, hrest⟩ := h.of_append
        refine ⟨(u, x) :: rest, ?_, hnodup.sublist ?_⟩
        · cases hrest with
          | cons ex hrest => exact .cons ex hrest
        · rw [List.map_append]
          exact (List.sublist_append_right _ _).cons_cons v
      · refine ⟨(u, w) :: es, .cons e h, ?_⟩
        simp only [List.map_cons, List.nodup_cons, List.mem_cons, not_or] at hnodup ⊢
        exact ⟨⟨Ne.symm huv, hnodup.1⟩, hu, hnodup.2⟩

/-- There is a circuit exactly when a path comes back to the source of an edge from its target. -/
theorem exists_circuit_iff :
    (∃ es, IsCircuit edges es) ↔ ∃ u v, (u, v) ∈ edges ∧ Path edges v u := by
  constructor
  · rintro ⟨es, hne, v, h⟩
    obtain ⟨w, e, p⟩ := h.exists_edge hne
    exact ⟨v, w, e, p⟩
  · rintro ⟨u, v, e, p⟩
    obtain ⟨es, h, -⟩ := p.exists_simple_route
    exact ⟨(u, v) :: es, List.cons_ne_nil _ _, u, .cons e h⟩

theorem acyclic_iff_not_exists_circuit : Acyclic edges ↔ ¬ ∃ es, IsCircuit edges es := by
  rw [exists_circuit_iff]
  simp only [Acyclic, not_exists, not_and]

/-! ### The guard and the circuits of the larger graph -/

/-- An edge that lies on a circuit after it is drawn has its source reached from its target
before. -/
theorem IsCircuit.path_of_mem {s t : α} {es : List (α × α)}
    (h : IsCircuit (edges ++ [(s, t)]) es) (hmem : (s, t) ∈ es) : Path edges t s := by
  obtain ⟨-, v, h⟩ := h
  obtain ⟨hs, -, ht⟩ := h.split hmem
  rcases (ht.trans hs).of_append with p | ⟨p, -⟩
  · exact p
  · exact p

/-- An edge whose target leads to its source closes a simple circuit. -/
theorem Path.exists_isSimpleCircuit {s t : α} (p : Path edges t s) :
    ∃ es, IsSimpleCircuit (edges ++ [(s, t)]) es ∧ (s, t) ∈ es := by
  obtain ⟨es, h, hnodup⟩ := (p.mono (List.subset_append_left edges [(s, t)])).exists_simple_route
  have e : (s, t) ∈ edges ++ [(s, t)] := by simp
  exact ⟨(s, t) :: es, ⟨⟨List.cons_ne_nil _ _, s, .cons e h⟩, hnodup⟩, List.mem_cons_self⟩

/-- **What the guard refuses**, in any graph and between any two vertices: an edge between a vertex
and itself or back along a route; which is an edge that lies on a circuit once it is drawn, and also
one that lies on a simple circuit. An edge is known by its ends alone, so a parallel edge that is
drawn already counts as the new one. -/
theorem closesCycle_tfae [DecidableEq α] (edges : List (α × α)) (source target : α) :
    List.TFAE [
      closesCycle edges source target = true,
      source = target ∨ ∃ es, es ≠ [] ∧ Route edges target es source,
      ∃ es, IsCircuit (edges ++ [(source, target)]) es ∧ (source, target) ∈ es,
      ∃ es, IsSimpleCircuit (edges ++ [(source, target)]) es ∧ (source, target) ∈ es] := by
  tfae_have 1 → 2 := by
    intro h
    obtain ⟨es, hes, -⟩ := (closesCycle_eq_true_iff.1 h).exists_simple_route
    cases hes with
    | nil => exact Or.inl rfl
    | cons e hes => exact Or.inr ⟨_, List.cons_ne_nil _ _, .cons e hes⟩
  tfae_have 2 → 4 := by
    rintro (rfl | ⟨es, -, h⟩)
    · exact (Path.refl source).exists_isSimpleCircuit
    · exact h.path.exists_isSimpleCircuit
  tfae_have 4 → 3 := fun ⟨es, h, hmem⟩ ↦ ⟨es, h.1, hmem⟩
  tfae_have 3 → 1 := fun ⟨_, h, hmem⟩ ↦ closesCycle_eq_true_iff.2 (h.path_of_mem hmem)
  tfae_finish

end FlowCanvas.Graph
