import FlowCanvas.Graph.Guard
import Mathlib.Data.List.Basic

/-!
# The guard is exact

The guard walks backwards with a stack of waiting vertices and a set of vertices already entered.
The two directions of its exactness rest on different facts.

* If it answers yes, the goal stood on the stack, and whatever stands on the stack leads to where
  the walk began (`exists_path_of_search`). Which vertices were entered does not matter.
* If it answers no, the vertices entered are a set that no edge enters from outside and that the
  goal is not in. The invariant is that the sources of an entered vertex are themselves entered or
  still waiting (`Searching`). Both steps of the search keep it (`Searching.enter`,
  `Searching.skip`), and when nothing waits any more, nothing is left outside
  (`Searching.closedBackwards`).

`closesCycle_eq_true_iff` puts them together: a new edge is refused exactly when its target already
leads to its source.
-/

namespace FlowCanvas.Graph

variable {α : Type} {edges : List (α × α)}

/-- One more edge at the end of a path. -/
theorem Path.snoc {u v w : α} (h : Path edges u v) (e : (v, w) ∈ edges) : Path edges u w :=
  h.trans (.step e (.refl w))

/-- A set of vertices that no edge enters from outside. -/
def ClosedBackwards (edges : List (α × α)) (inside : α → Prop) : Prop :=
  ∀ u v, (u, v) ∈ edges → inside v → inside u

theorem ClosedBackwards.of_path {inside : α → Prop} (h : ClosedBackwards edges inside) {u v : α}
    (p : Path edges u v) (hv : inside v) : inside u := by
  induction p with
  | refl => exact hv
  | step e _ ih => exact h _ _ e (ih hv)

/-- What holds all along a search that has not met its goal. `all` holds every vertex there is, so
what is in it and not in `fresh` has been entered. -/
structure Searching (edges : List (α × α)) (goal : α) (all fresh waiting : List α) : Prop where
  ne_goal : ∀ v ∈ all, v ∉ fresh → v ≠ goal
  /-- The sources of an entered vertex have been entered, too, or they wait. -/
  source_mem : ∀ v ∈ all, v ∉ fresh → ∀ u, (u, v) ∈ edges → u ∈ fresh → u ∈ waiting

variable {goal v : α} {all fresh waiting : List α}

theorem Searching.skip (h : Searching edges goal all fresh (v :: waiting)) (hv : v ∉ fresh) :
    Searching edges goal all fresh waiting where
  ne_goal := h.ne_goal
  source_mem x hx hf u e hu :=
    (List.mem_cons.1 (h.source_mem x hx hf u e hu)).resolve_left fun huv ↦ hv (huv ▸ hu)

/-- When nothing waits any more, no edge comes from a vertex that is left to one that is not. -/
theorem Searching.closedBackwards (h : Searching edges goal all fresh [])
    (hall : ∀ u v, (u, v) ∈ edges → u ∈ all) :
    ClosedBackwards edges fun v ↦ v ∈ all ∧ v ∉ fresh :=
  fun u v e hv ↦ ⟨hall u v e, fun hu ↦ List.not_mem_nil (h.source_mem v hv.1 hv.2 u e hu)⟩

variable [DecidableEq α]

/-- What the search finds leads to a vertex that waits. -/
theorem exists_path_of_search (h : search (sources edges) goal fresh waiting = true) :
    ∃ v ∈ waiting, Path edges goal v := by
  fun_induction search (sources edges) goal fresh waiting with
  | case1 => exact absurd h Bool.false_ne_true
  | case2 _ waiting => exact ⟨goal, List.mem_cons_self, .refl goal⟩
  | case3 fresh v waiting _ _ ih =>
    obtain ⟨u, hu, p⟩ := ih h
    rcases List.mem_append.1 hu with hu | hu
    · exact ⟨v, List.mem_cons_self, p.snoc (mem_sources.1 hu)⟩
    · exact ⟨u, List.mem_cons_of_mem _ hu, p⟩
  | case4 fresh v waiting _ _ ih =>
    obtain ⟨u, hu, p⟩ := ih h
    exact ⟨u, List.mem_cons_of_mem _ hu, p⟩

theorem Searching.enter (h : Searching edges goal all fresh (v :: waiting)) (hne : v ≠ goal) :
    Searching edges goal all (remove v fresh) (sources edges v ++ waiting) where
  ne_goal := by
    intro x hx hf
    by_cases hxv : x = v
    · exact hxv ▸ hne
    · exact h.ne_goal x hx fun hm ↦ hf (mem_remove.2 ⟨hm, hxv⟩)
  source_mem := by
    intro x hx hf u e hu
    by_cases hxv : x = v
    · exact List.mem_append_left _ (mem_sources.2 (hxv ▸ e))
    · have hxf : x ∉ fresh := fun hm ↦ hf (mem_remove.2 ⟨hm, hxv⟩)
      have hu' := mem_remove.1 hu
      have hmem := h.source_mem x hx hxf u e hu'.1
      exact List.mem_append_right _ ((List.mem_cons.1 hmem).resolve_left hu'.2)

/-- A search in vain goes on until nothing waits any more. By then it has entered what waited. -/
theorem Searching.exists_finished (h : Searching edges goal all fresh waiting)
    (hvain : search (sources edges) goal fresh waiting = false) :
    ∃ left, Searching edges goal all left [] ∧ left ⊆ fresh ∧ ∀ v ∈ waiting, v ∉ left := by
  fun_induction search (sources edges) goal fresh waiting with
  | case1 fresh => exact ⟨fresh, h, List.Subset.refl _, nofun⟩
  | case2 => exact absurd hvain.symm Bool.false_ne_true
  | case3 fresh v waiting hne hv ih =>
    obtain ⟨left, hleft, hsub, hentered⟩ := ih (h.enter hne) hvain
    refine ⟨left, hleft, fun x hx ↦ (mem_remove.1 (hsub hx)).1, ?_⟩
    intro x hx hxleft
    rcases List.mem_cons.1 hx with rfl | hx
    · exact (mem_remove.1 (hsub hxleft)).2 rfl
    · exact hentered x (List.mem_append_right _ hx) hxleft
  | case4 fresh v waiting _ hv ih =>
    obtain ⟨left, hleft, hsub, hentered⟩ := ih (h.skip hv) hvain
    refine ⟨left, hleft, hsub, ?_⟩
    intro x hx hxleft
    rcases List.mem_cons.1 hx with rfl | hx
    · exact hv (hsub hxleft)
    · exact hentered x hx hxleft

/-- **The guard is exact.** An edge closes a cycle exactly when its target leads to its source; the
empty path makes this true of every loop from a vertex to itself. -/
theorem closesCycle_eq_true_iff {source target : α} :
    closesCycle edges source target = true ↔ Path edges target source := by
  constructor
  · intro h
    obtain ⟨v, hv, p⟩ := exists_path_of_search h
    rcases List.mem_singleton.1 hv with rfl
    exact p
  · intro p
    by_contra h
    have hall : ∀ u v, (u, v) ∈ edges → u ∈ source :: vertices edges := fun u v e ↦
      List.mem_cons_of_mem _ (mem_vertices.2 ⟨(u, v), e, Or.inl rfl⟩)
    have hstart : Searching edges target (source :: vertices edges) (source :: vertices edges)
        [source] := ⟨fun v hv hf ↦ absurd hv hf, fun v hv hf ↦ absurd hv hf⟩
    obtain ⟨left, hleft, -, hentered⟩ := hstart.exists_finished (Bool.eq_false_iff.2 h)
    have htarget := (hleft.closedBackwards hall).of_path p
      ⟨List.mem_cons_self, hentered source List.mem_cons_self⟩
    exact hleft.ne_goal target htarget.1 htarget.2 rfl

/-- The guard decides whether a vertex leads to another. -/
instance (u v : α) : Decidable (Path edges u v) := decidable_of_iff _ closesCycle_eq_true_iff

end FlowCanvas.Graph
