import FlowCanvas.Graph.Cycle
import FlowCanvas.Proofs.Graph.PostOrder
import Mathlib.Data.List.Forall2

/-!
# Schedules of graphs that differ a little

Three changes to a graph whose effect on the schedule is plain. If each node is replaced by another
one with the same key, then so it is in the schedule (`forall₂_schedule`). If a node is added that no
edge touches, then it is scheduled last and the others stay where they are
(`schedule_append_isolated`): it is the last of the sinks, the walk from the others never comes to
it, and from itself the walk goes nowhere. And if an edge is taken away that had been drawn before
between the same vertices, then nothing changes at all (`schedule_drop_parallel`): by the time the
walk tries it, the source has been entered through the other one (`Walk.drop_again`).
-/

namespace FlowCanvas.Graph

variable {α ν : Type} [DecidableEq α] {next : α → List α} {edges : List (α × α)} {key : ν → α}
  {nodes nodes' : List ν}

/-! ### Nodes replaced -/

theorem rel_find? {R : ν → ν → Prop} {p : ν → Bool} (hp : ∀ n m, R n m → p n = p m)
    (h : List.Forall₂ R nodes nodes') : Option.Rel R (nodes.find? p) (nodes'.find? p) := by
  induction h with
  | nil => exact .none
  | @cons n m _ _ hr _ ih =>
    cases hn : p n with
    | true =>
      rw [List.find?_cons_of_pos hn, List.find?_cons_of_pos (hp n m hr ▸ hn)]
      exact .some hr
    | false =>
      rw [List.find?_cons_of_neg (by simp [hn]), List.find?_cons_of_neg (by simp [← hp n m hr, hn])]
      exact ih

/-- Nodes that are replaced by others with the same keys are replaced in the schedule. -/
theorem forall₂_schedule {R : ν → ν → Prop} (hkey : ∀ n m, R n m → key n = key m)
    (h : List.Forall₂ R nodes nodes') :
    List.Forall₂ R (schedule key edges nodes) (schedule key edges nodes') := by
  have hkeys : nodes.map key = nodes'.map key :=
    List.forall₂_eq_eq_eq ▸ List.rel_map (fun n m hr ↦ hkey n m hr) h
  have hsinks : ∀ ns : List ν, (sinks key edges ns).map key =
      (ns.map key).filter fun k ↦ k ∉ edges.map Prod.fst := fun ns ↦ by
    rw [List.filter_map]
    rfl
  rw [schedule, schedule, hsinks, hsinks, hkeys]
  refine List.rel_filterMap (R := Eq) ?_ (List.forall₂_refl _)
  rintro k _ rfl
  exact rel_find? (fun n m hr ↦ by rw [hkey n m hr]) (List.forall₂_reverse_iff.2 h)

/-! ### A node added -/

theorem Walk.append {fresh fresh₁ fresh₂ vs vs' out out' : List α}
    (w : Walk next fresh vs fresh₁ out) (w' : Walk next fresh₁ vs' fresh₂ out') :
    Walk next fresh (vs ++ vs') fresh₂ (out ++ out') := by
  induction w with
  | done => exact w'
  | skip hv _ ih => exact .skip hv (ih w')
  | enter hv w₁ _ _ ih =>
    rw [List.append_assoc]
    exact .enter hv w₁ (ih w')

/-- A walk goes through some vertices first, and then through the rest. -/
theorem Walk.exists_of_append {fresh us vs fresh' out : List α}
    (w : Walk next fresh (us ++ vs) fresh' out) : ∃ fresh₁ out₁ out₂,
      Walk next fresh us fresh₁ out₁ ∧ Walk next fresh₁ vs fresh' out₂ ∧ out = out₁ ++ out₂ := by
  induction us generalizing fresh out with
  | nil => exact ⟨fresh, [], out, .done fresh, w, rfl⟩
  | cons u us ih =>
    cases w with
    | skip hu w =>
      obtain ⟨fresh₁, out₁, out₂, w₁, w₂, rfl⟩ := ih w
      exact ⟨fresh₁, out₁, out₂, .skip hu w₁, w₂, rfl⟩
    | enter hu wbelow w =>
      obtain ⟨fresh₁, out₁, out₂, w₁, w₂, rfl⟩ := ih w
      exact ⟨fresh₁, _, out₂, .enter hu wbelow w₁, w₂, by rw [List.append_assoc, List.cons_append]⟩

/-- Started last at a vertex that no edge touches, the walk lists it last. -/
theorem orderFrom_append_isolated {starts : List α} {v : α} (hv : v ∉ starts)
    (hedges : v ∉ vertices edges) :
    orderFrom edges (starts ++ [v]) = orderFrom edges starts ++ [v] := by
  have hne : ∀ u, ∀ x ∈ sources edges u, x ≠ v := by
    rintro u x hx rfl
    exact hedges (mem_vertices.2 ⟨(x, u), mem_sources.1 hx, .inl rfl⟩)
  have hnone : sources edges v = [] := List.eq_nil_iff_forall_not_mem.2 fun x hx ↦
    hedges (mem_vertices.2 ⟨(x, v), mem_sources.1 hx, .inr rfl⟩)
  obtain ⟨_, w⟩ := exists_walk_orderFrom edges starts
  -- the walk from the others does not ask for the new vertex
  have hfresh : ∀ u, u ≠ v →
      (u ∈ starts ++ vertices edges ↔ u ∈ starts ++ [v] ++ vertices edges) := by
    intro u hu
    simp [hu]
  obtain ⟨other, w'⟩ := w.of_fresh_iff (fun u _ ↦ hne u) (fun u hu ↦ ne_of_mem_of_not_mem hu hv)
    hfresh
  -- and so leaves it for the end
  have hnot : v ∉ orderFrom edges starts := fun h ↦
    (List.mem_append.1 (w.mem_fresh_of_mem h)).elim hv hedges
  have hlast : v ∈ other := w'.mem_fresh_iff.2 ⟨by simp, hnot⟩
  have wnone : Walk (sources edges) (remove v other) (sources edges v) (remove v other) [] := by
    rw [hnone]
    exact .done _
  exact postOrder_eq_of_walk (w'.append (.enter hlast wnone (.done _)))

/-- **A node that no edge touches is scheduled last**, and the others as they are without it. -/
theorem schedule_append_isolated {n : ν} (hkey : key n ∉ nodes.map key)
    (hedges : key n ∉ vertices edges) :
    schedule key edges (nodes ++ [n]) = schedule key edges nodes ++ [n] := by
  have hsource : key n ∉ edges.map Prod.fst := by
    intro h
    obtain ⟨e, he, hfst⟩ := List.mem_map.1 h
    exact hedges (mem_vertices.2 ⟨e, he, .inl hfst.symm⟩)
  have hsinks : sinks key edges (nodes ++ [n]) = sinks key edges nodes ++ [n] := by
    rw [sinks, List.filter_append, List.filter_cons_of_pos (by simpa using hsource),
      List.filter_nil]
    rfl
  have hstarts : key n ∉ (sinks key edges nodes).map key := fun h ↦
    hkey ((List.filter_sublist.map key).subset h)
  have hlast : ∀ k, lastWithKey? key (nodes ++ [n]) k =
      if key n = k then some n else lastWithKey? key nodes k := by
    intro k
    rw [lastWithKey?, List.reverse_append, List.reverse_singleton, List.singleton_append,
      List.find?_cons]
    by_cases hk : key n = k
    · rw [if_pos hk, decide_eq_true hk]
    · rw [if_neg hk, decide_eq_false hk]
      rfl
  have hold : ∀ k ∈ orderFrom edges ((sinks key edges nodes).map key),
      lastWithKey? key (nodes ++ [n]) k = lastWithKey? key nodes k := by
    intro k hk
    obtain ⟨_, w⟩ := exists_walk_orderFrom edges ((sinks key edges nodes).map key)
    have hmem := w.mem_fresh_of_mem hk
    rw [hlast, if_neg]
    rintro rfl
    exact (List.mem_append.1 hmem).elim hstarts hedges
  rw [schedule, hsinks, List.map_append, List.map_singleton,
    orderFrom_append_isolated hstarts hedges, List.filterMap_append, List.filterMap_congr hold,
    List.filterMap_cons_some ((hlast _).trans (if_pos rfl)), List.filterMap_nil]
  rfl

/-! ### An edge drawn again -/

theorem sources_append (edges others : List (α × α)) (v : α) :
    sources (edges ++ others) v = sources edges v ++ sources others v := by
  rw [sources, List.filter_append, List.map_append]
  rfl

theorem sources_cons (e : α × α) (edges : List (α × α)) (v : α) :
    sources (e :: edges) v = if e.2 = v then e.1 :: sources edges v else sources edges v := by
  rw [sources, List.filter_cons]
  by_cases h : e.2 = v <;> simp [h, sources]

/-- A walk that is sent to a vertex for the second time skips it. -/
theorem Walk.drop_again {fresh us vs fresh' out : List α} {v : α} (hv : v ∈ us)
    (w : Walk next fresh (us ++ v :: vs) fresh' out) : Walk next fresh (us ++ vs) fresh' out := by
  obtain ⟨fresh₁, out₁, out₂, w₁, w₂, rfl⟩ := w.exists_of_append
  cases w₂ with
  | skip _ w₂ => exact w₁.append w₂
  | enter hfresh _ _ =>
    obtain ⟨hf, hnot⟩ := w₁.mem_fresh_iff.1 hfresh
    exact absurd (w₁.mem_of_mem_starts hv hf) hnot

/-- An edge that has been drawn before may be left out. -/
theorem schedule_append_cons_of_mem {before after : List (α × α)} {e : α × α} (he : e ∈ before) :
    schedule key (before ++ e :: after) nodes = schedule key (before ++ after) nodes := by
  refine schedule_eq_of_walk (fun u v ↦ ?_) fun {v fresh fresh' out} w ↦ ?_
  · simp only [List.mem_append, List.mem_cons]
    constructor
    · rintro (h | rfl | h)
      · exact .inl h
      · exact .inl he
      · exact .inr h
    · exact Or.imp_right .inr
  · rw [sources_append, sources_cons] at w
    rw [sources_append before after v]
    split at w
    · next hv => exact w.drop_again (mem_sources.2 (hv ▸ he))
    · exact w

/-- **Parallel edges do not disturb a schedule.** Whatever graph a list of connections draws, one
that has the ends of an earlier one in the list can be taken away, and the schedule is the same in
both directions. -/
theorem schedule_drop_parallel {γ : Type} (ends : γ → α × α) {before after : List γ}
    {first again : γ} (hfirst : first ∈ before) (hends : ends first = ends again) (key : ν → α)
    (nodes : List ν) :
    schedule key ((before ++ after).map ends) nodes =
        schedule key ((before ++ again :: after).map ends) nodes ∧
      scheduleBackwards key ((before ++ after).map ends) nodes =
        scheduleBackwards key ((before ++ again :: after).map ends) nodes := by
  have hmem : ends again ∈ before.map ends := hends ▸ List.mem_map_of_mem hfirst
  have hschedule : schedule key ((before ++ again :: after).map ends) nodes =
      schedule key ((before ++ after).map ends) nodes := by
    rw [List.map_append, List.map_append, List.map_cons, schedule_append_cons_of_mem hmem]
  rw [scheduleBackwards, scheduleBackwards, hschedule]
  exact ⟨rfl, rfl⟩

/-- Two wires to different pins of one node, behind a circuit and past a vertex without a node, one
node of the list being there twice. -/
theorem exists_schedule_drop_parallel :
    ∃ before after : List (String × String × String), ∃ first again, ∃ nodes : List String,
      first ∈ before ∧ first.2 = again.2 ∧ first ≠ again ∧
      hasCycle ((before ++ again :: after).map Prod.snd) = true ∧ ¬ nodes.Nodup ∧
      schedule id ((before ++ again :: after).map Prod.snd) nodes = ["b", "a", "c", "d"] ∧
      schedule id ((before ++ after).map Prod.snd) nodes = ["b", "a", "c", "d"] ∧
      scheduleBackwards id ((before ++ after).map Prod.snd) nodes = ["d", "c", "a", "b"] := by
  let first := ("left", "a", "c")
  let again := ("right", "a", "c")
  let before := [first, ("in", "x", "a"), ("value", "b", "a"), ("body", "c", "b"), ("in", "c", "d")]
  let after := [("left", "b", "c")]
  let nodes := ["d", "b", "a", "c", "a"]
  have hfirst : first ∈ before := by decide
  have horder : schedule id ((before ++ again :: after).map Prod.snd) nodes =
      ["b", "a", "c", "d"] := by decide +kernel
  have hsame : schedule id ((before ++ after).map Prod.snd) nodes = _ ∧
      scheduleBackwards id ((before ++ after).map Prod.snd) nodes = _ :=
    schedule_drop_parallel Prod.snd hfirst (rfl : _ = again.2) id nodes
  refine ⟨before, after, first, again, nodes, hfirst, rfl, by decide, by decide +kernel, by decide,
    horder, hsame.1.trans horder, ?_⟩
  rw [hsame.2, scheduleBackwards, horder]
  rfl

end FlowCanvas.Graph
