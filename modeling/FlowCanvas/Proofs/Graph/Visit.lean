import FlowCanvas.Proofs.Graph.PostOrder
import Mathlib.Data.Set.Insert

/-!
# Schedules by recursion

What a schedule should be is said most plainly by recursion. To visit a vertex is to do nothing if
it has been visited before, and otherwise to mark it, to visit the sources of the edges that land on
it, and then to list its node. The schedule is what visiting the sinks one after the other lists,
with one set of marks for all of them. `Visits` states this, without a word on how the work left is
kept and why it ends: on a cyclic graph the marks alone cut the recursion short.

The main statement is that the stack of `schedule` gives the same list, whatever the graph
(`eq_schedule_iff_visits`). `Walk` stands in between: it recurses like `Visits`, but over the
vertices still fresh, of which there are finitely many. Fresh and marked are opposites on every
vertex that the recursion comes to (`Walk.exists_visits`), so each walk is a visit. That there is no
other visit is a matter of the rules, no two of which ever apply together (`Visits.unique`).
-/

namespace FlowCanvas.Graph

variable {α ν : Type} [DecidableEq α] {key : ν → α} {edges : List (α × α)} {nodes : List ν}

/-- Visiting some vertices one after the other lists `out`, where `marked` are the vertices visited
before and `marked'` those visited afterwards. -/
inductive Visits (key : ν → α) (edges : List (α × α)) (nodes : List ν) :
    (marked : Set α) → (vs : List α) → (marked' : Set α) → (out : List ν) → Prop where
  | done (marked : Set α) : Visits key edges nodes marked [] marked []
  | again {marked marked' : Set α} {v : α} {vs : List α} {out : List ν} : v ∈ marked →
      Visits key edges nodes marked vs marked' out →
      Visits key edges nodes marked (v :: vs) marked' out
  | first {marked marked₁ marked₂ : Set α} {v : α} {vs : List α} {below rest : List ν} :
      v ∉ marked → Visits key edges nodes (insert v marked) (sources edges v) marked₁ below →
      Visits key edges nodes marked₁ vs marked₂ rest →
      Visits key edges nodes marked (v :: vs) marked₂
        (below ++ (nodes.find? (key · = v)).toList ++ rest)

/-- A visit can go in one way only. -/
theorem Visits.unique {marked marked₁ marked₂ : Set α} {vs : List α} {out₁ out₂ : List ν}
    (h₁ : Visits key edges nodes marked vs marked₁ out₁)
    (h₂ : Visits key edges nodes marked vs marked₂ out₂) : marked₁ = marked₂ ∧ out₁ = out₂ := by
  induction h₁ generalizing marked₂ out₂ with
  | done =>
    cases h₂ with
    | done => exact ⟨rfl, rfl⟩
  | again hv _ ih =>
    cases h₂ with
    | again _ h₂ => exact ih h₂
    | first hv' _ _ => exact absurd hv hv'
  | first hv _ _ ihbelow ihrest =>
    cases h₂ with
    | again hv' _ => exact absurd hv' hv
    | first _ hbelow hrest =>
      obtain ⟨rfl, rfl⟩ := ihbelow hbelow
      obtain ⟨rfl, rfl⟩ := ihrest hrest
      exact ⟨rfl, rfl⟩

/-- Where no key stands twice, the first node with a key is also the last. -/
theorem find?_eq_lastWithKey? (hkeys : (nodes.map key).Nodup) (v : α) :
    nodes.find? (key · = v) = lastWithKey? key nodes v := by
  cases h : nodes.find? (key · = v) with
  | some n =>
    have hn : key n = v := of_decide_eq_true (List.find?_some h :)
    rw [← hn, lastWithKey?_key hkeys (List.mem_of_find?_eq_some h)]
  | none =>
    cases hlast : lastWithKey? key nodes v with
    | none => rfl
    | some n =>
      have hno := List.find?_eq_none.1 h n (mem_of_lastWithKey? hlast)
      exact absurd (decide_eq_true (key_of_lastWithKey? hlast)) hno

/-- **A walk over the fresh vertices is a visit.** Let a list of vertices contain whatever the walk
is sent to and every source of an edge, and let those of them that are fresh be those that are not
marked. Then the walk lists the vertices whose nodes the visit lists, and what is fresh is still
what is not marked. -/
theorem Walk.exists_visits (hkeys : (nodes.map key).Nodup) {all : List α}
    (hall : ∀ v, sources edges v ⊆ all) {fresh vs fresh' out : List α}
    (w : Walk (sources edges) fresh vs fresh' out) (hvs : vs ⊆ all) {marked : Set α}
    (hmarked : ∀ v ∈ all, v ∈ fresh ↔ v ∉ marked) :
    ∃ marked', Visits key edges nodes marked vs marked' (out.filterMap (lastWithKey? key nodes)) ∧
      ∀ v ∈ all, v ∈ fresh' ↔ v ∉ marked' := by
  induction w generalizing marked with
  | done => exact ⟨marked, .done marked, hmarked⟩
  | skip hv _ ih =>
    obtain ⟨hmem, hrest⟩ := List.cons_subset.1 hvs
    obtain ⟨marked', h, hmarked'⟩ := ih hrest hmarked
    have hv' := not_not.1 (mt (hmarked _ hmem).2 hv)
    exact ⟨marked', .again hv' h, hmarked'⟩
  | @enter fresh fresh₁ fresh₂ vs below rest v hv _ _ ihbelow ihrest =>
    obtain ⟨hmem, hrest⟩ := List.cons_subset.1 hvs
    -- entering a vertex takes it from the fresh ones and marks it
    have hentered : ∀ u ∈ all, u ∈ remove v fresh ↔ u ∉ insert v marked := by
      intro u hu
      rw [mem_remove, hmarked u hu, Set.mem_insert_iff, not_or, and_comm]
    obtain ⟨marked₁, h₁, hmarked₁⟩ := ihbelow (hall v) hentered
    obtain ⟨marked₂, h₂, hmarked₂⟩ := ihrest hrest hmarked₁
    refine ⟨marked₂, ?_, hmarked₂⟩
    have hout := Visits.first ((hmarked v hmem).1 hv) h₁ h₂
    rw [find?_eq_lastWithKey? hkeys] at hout
    rw [List.filterMap_append, List.filterMap_cons]
    cases hn : lastWithKey? key nodes v with
    | none =>
      rw [hn] at hout
      simpa using hout
    | some n =>
      rw [hn] at hout
      simpa using hout

/-- **The schedule is what the recursion lists.** For nodes with keys of their own and any edges,
visiting the nodes without an outgoing edge one after the other, with nothing marked at first, comes
to an end, and it lists the schedule and nothing else. -/
theorem eq_schedule_iff_visits (hkeys : (nodes.map key).Nodup) (edges : List (α × α))
    (out : List ν) : out = schedule key edges nodes ↔
      ∃ marked, Visits key edges nodes ∅ ((sinks key edges nodes).map key) marked out := by
  obtain ⟨fresh', w⟩ := exists_walk_orderFrom edges ((sinks key edges nodes).map key)
  have hall : ∀ v, sources edges v ⊆ (sinks key edges nodes).map key ++ vertices edges := by
    intro v u hu
    exact List.mem_append_right _ (mem_vertices.2 ⟨(u, v), mem_sources.1 hu, Or.inl rfl⟩)
  have hmarked : ∀ v ∈ (sinks key edges nodes).map key ++ vertices edges,
      v ∈ (sinks key edges nodes).map key ++ vertices edges ↔ v ∉ (∅ : Set α) :=
    fun v hv ↦ iff_of_true hv (Set.notMem_empty v)
  obtain ⟨marked, hvisits, -⟩ := w.exists_visits hkeys hall (List.subset_append_left _ _) hmarked
  constructor
  · rintro rfl
    exact ⟨marked, hvisits⟩
  · rintro ⟨marked', h⟩
    exact (h.unique hvisits).2

/-- Behind a circuit, past a vertex without a node, and with one edge drawn twice. -/
theorem exists_visits_behind_circuit :
    ∃ marked, Visits (id : String → String)
      [("a", "b"), ("b", "a"), ("a", "c"), ("x", "c"), ("a", "c")] ["c", "a", "b"] ∅ ["c"] marked
      ["b", "a", "c"] :=
  (eq_schedule_iff_visits (by decide) _ _).1 (by decide +kernel)

end FlowCanvas.Graph
