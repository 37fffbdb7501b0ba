import FlowCanvas.Proofs.Graph.Circuit
import FlowCanvas.Proofs.Graph.Cycle
import FlowCanvas.Proofs.Graph.PostOrder

/-!
# What a schedule holds, and in which order

A schedule is drawn up from the sinks, the nodes without an outgoing edge. So it holds what leads to
a sink and nothing else (`mem_schedule_iff`): the walk lists exactly the vertices with a path to
where it starts, those without a node among them, and then each key is looked up. A part of the
graph that runs in circles and out to no sink is left out. In an acyclic graph whose edges all end
on nodes there is no such part, because going on along edges has to come to an end at a sink
(`Acyclic.leadsToSink`); then the schedule is the list of nodes in another order.

The order is right edge by edge, whatever the rest of the graph looks like: a node stands behind
every node that it has an edge from, unless it leads back there. In an acyclic graph this holds along
routes of any length, also where they pass through vertices without a node
(`mem_of_edge_of_path_of_split`).

That one node stands somewhere before another is said with a sublist of the two. No node stands in a
schedule twice, so no other reading is possible.
-/

namespace FlowCanvas.Graph

variable {α ν : Type} {edges : List (α × α)} {key : ν → α} {nodes : List ν}

/-- The node stands in the list, and none behind it has its key. -/
def IsLast (key : ν → α) (nodes : List ν) (n : ν) : Prop :=
  ∃ before after, nodes = before ++ n :: after ∧ ∀ m ∈ after, key m ≠ key n

/-- A path leads from the vertex to a node without an outgoing edge. -/
def LeadsToSink (key : ν → α) (edges : List (α × α)) (nodes : List ν) (v : α) : Prop :=
  ∃ m ∈ nodes, (∀ w, (key m, w) ∉ edges) ∧ Path edges v (key m)

/-- Where every edge of an acyclic graph ends on a node, each node leads to a sink. -/
theorem Acyclic.leadsToSink (h : Acyclic edges)
    (htargets : ∀ u v, (u, v) ∈ edges → v ∈ nodes.map key) {v : α} (hv : v ∈ nodes.map key) :
    LeadsToSink key edges nodes v := by
  obtain ⟨s, p, hlast⟩ := h.exists_last (nodes.map key) v
  have hs : s ∈ nodes.map key := by
    rcases p.eq_or_exists_edge with rfl | ⟨w, e⟩
    · exact hv
    · exact htargets w s e
  obtain ⟨m, hm, rfl⟩ := List.mem_map.1 hs
  refine ⟨m, hm, fun w e ↦ ?_, p⟩
  obtain rfl : w = key m := hlast w (htargets _ w e) (.step e (.refl w))
  exact h _ _ e (.refl _)

variable [DecidableEq α]

/-! ### What is listed -/

/-- The walk lists exactly what leads to a vertex that it starts from. -/
theorem mem_orderFrom_iff {starts : List α} {u : α} :
    u ∈ orderFrom edges starts ↔ ∃ s ∈ starts, Path edges u s := by
  obtain ⟨_, w⟩ := exists_walk_orderFrom edges starts
  constructor
  · exact w.exists_path
  · rintro ⟨s, hs, p⟩
    have hclosed : ClosedBackwards edges (· ∈ orderFrom edges starts) := by
      intro x y e hy
      have hx : x ∈ vertices edges := mem_vertices.2 ⟨(x, y), e, Or.inl rfl⟩
      rcases w.mem_or_not_mem_fresh hy (mem_sources.2 e) with hx' | hx'
      · exact hx'
      · exact absurd (List.mem_append_right starts hx) hx'
    exact hclosed.of_path p (w.mem_of_mem_starts hs (List.mem_append_left _ hs))

theorem lastWithKey?_eq_some_iff {k : α} {n : ν} :
    lastWithKey? key nodes k = some n ↔ key n = k ∧ IsLast key nodes n := by
  rw [lastWithKey?, List.find?_eq_some_iff_append, decide_eq_true_eq]
  refine and_congr_right fun hk ↦ ?_
  subst hk
  constructor
  · rintro ⟨as, bs, h, has⟩
    refine ⟨bs.reverse, as.reverse, ?_, ?_⟩
    · rw [← List.reverse_reverse nodes, h]
      simp
    · simpa using has
  · rintro ⟨before, after, rfl, hafter⟩
    refine ⟨after.reverse, before.reverse, by simp, ?_⟩
    simpa using hafter

theorem exists_isLast (key : ν → α) {n : ν} (hn : n ∈ nodes) :
    ∃ m, key m = key n ∧ IsLast key nodes m := by
  have hsome : (lastWithKey? key nodes (key n)).isSome :=
    List.find?_isSome.2 ⟨n, List.mem_reverse.2 hn, by simp⟩
  obtain ⟨m, hm⟩ := Option.isSome_iff_exists.1 hsome
  exact ⟨m, lastWithKey?_eq_some_iff.1 hm⟩

/-- Started at the sinks the walk lists exactly what leads to one. -/
theorem mem_orderFrom_sinks_iff {v : α} :
    v ∈ orderFrom edges ((sinks key edges nodes).map key) ↔ LeadsToSink key edges nodes v := by
  rw [mem_orderFrom_iff]
  simp only [sinks, LeadsToSink, List.mem_map, List.mem_filter, decide_eq_true_eq]
  constructor
  · rintro ⟨_, ⟨m, ⟨hm, hout⟩, rfl⟩, p⟩
    exact ⟨m, hm, fun w e ↦ hout ⟨(key m, w), e, rfl⟩, p⟩
  · rintro ⟨m, hm, hout, p⟩
    refine ⟨key m, ⟨m, ⟨hm, ?_⟩, rfl⟩, p⟩
    rintro ⟨⟨_, w⟩, e, rfl⟩
    exact hout w e

/-- A schedule holds the last node with each key that leads to a sink. -/
theorem mem_schedule_iff {n : ν} : n ∈ schedule key edges nodes ↔
    IsLast key nodes n ∧ LeadsToSink key edges nodes (key n) := by
  constructor
  · intro hn
    obtain ⟨k, hk, hfind⟩ := List.mem_filterMap.1 hn
    obtain ⟨rfl, hlast⟩ := lastWithKey?_eq_some_iff.1 hfind
    exact ⟨hlast, mem_orderFrom_sinks_iff.1 hk⟩
  · rintro ⟨hlast, hsink⟩
    have hfind : lastWithKey? key nodes (key n) = some n :=
      lastWithKey?_eq_some_iff.2 ⟨rfl, hlast⟩
    exact List.mem_filterMap.2 ⟨key n, mem_orderFrom_sinks_iff.2 hsink, hfind⟩

theorem mem_keys_schedule_iff {k : α} : k ∈ (schedule key edges nodes).map key ↔
    k ∈ nodes.map key ∧ LeadsToSink key edges nodes k := by
  constructor
  · intro hk
    obtain ⟨n, hn, rfl⟩ := List.mem_map.1 hk
    exact ⟨List.mem_map_of_mem (mem_of_mem_schedule hn), (mem_schedule_iff.1 hn).2⟩
  · rintro ⟨hk, hsink⟩
    obtain ⟨n, hn, rfl⟩ := List.mem_map.1 hk
    obtain ⟨m, hkey, hlast⟩ := exists_isLast key hn
    exact List.mem_map.2 ⟨m, mem_schedule_iff.2 ⟨hlast, hkey ▸ hsink⟩, hkey⟩

theorem schedule_perm (hkeys : (nodes.map key).Nodup) (h : Acyclic edges)
    (htargets : ∀ u v, (u, v) ∈ edges → v ∈ nodes.map key) :
    (schedule key edges nodes).Perm nodes := by
  have hnodup : (schedule key edges nodes).Nodup := (nodup_keys_schedule key edges nodes).of_map key
  refine (List.perm_ext_iff_of_nodup hnodup (hkeys.of_map key)).2 fun n ↦ ?_
  constructor
  · exact mem_of_mem_schedule
  · intro hn
    have hlast : IsLast key nodes n := (lastWithKey?_eq_some_iff.1 (lastWithKey?_key hkeys hn)).2
    exact mem_schedule_iff.2 ⟨hlast, h.leadsToSink htargets (List.mem_map_of_mem hn)⟩

/-- **What is scheduled**, for any nodes and edges: no key twice; of the keys of the nodes exactly
those from which a path leads to a node without an outgoing edge; and of several nodes with one key
the last. So where keys are distinct, the graph is acyclic and every edge ends on a node, nothing is
lost or doubled in either direction. -/
theorem schedule_exact (key : ν → α) (edges : List (α × α)) (nodes : List ν) :
    ((schedule key edges nodes).map key).Nodup ∧
      (∀ k, k ∈ (schedule key edges nodes).map key ↔
        k ∈ nodes.map key ∧ LeadsToSink key edges nodes k) ∧
      (∀ n ∈ schedule key edges nodes, IsLast key nodes n) ∧
      ((nodes.map key).Nodup → Acyclic edges → (∀ u v, (u, v) ∈ edges → v ∈ nodes.map key) →
        (schedule key edges nodes).Perm nodes ∧ (scheduleBackwards key edges nodes).Perm nodes) := by
  refine ⟨nodup_keys_schedule key edges nodes, fun _ ↦ mem_keys_schedule_iff,
    fun _ hn ↦ (mem_schedule_iff.1 hn).1, fun hkeys h htargets ↦ ?_⟩
  have hperm := schedule_perm hkeys h htargets
  exact ⟨hperm, (List.reverse_perm _).trans hperm⟩

/-- Two wires side by side, a shortcut and a source that is no node do not keep a node out. -/
theorem exists_perm_schedule :
    ∃ (edges : List (String × String)) (nodes : List String),
      (nodes.map id).Nodup ∧ Acyclic edges ∧ (∀ u v, (u, v) ∈ edges → v ∈ nodes.map id) ∧
        (∃ e ∈ edges, e.1 ∉ nodes) ∧ ¬ edges.Nodup ∧
        (schedule id edges nodes).Perm nodes ∧ (scheduleBackwards id edges nodes).Perm nodes := by
  let edges := [("a", "b"), ("b", "c"), ("x", "b"), ("a", "c"), ("a", "b")]
  let nodes := ["c", "d", "a", "b"]
  have hkeys : (nodes.map id).Nodup := by decide
  have hacyclic : Acyclic edges := by decide +kernel
  have hends : ∀ e ∈ edges, e.2 ∈ nodes.map id := by decide
  have htargets : ∀ u v, (u, v) ∈ edges → v ∈ nodes.map id := fun u v e ↦ hends (u, v) e
  exact ⟨edges, nodes, hkeys, hacyclic, htargets, by decide, by decide,
    (schedule_exact id edges nodes).2.2.2 hkeys hacyclic htargets⟩

/-! ### Producers before consumers -/

/-- In an acyclic graph whatever leads to a vertex by at least one edge is listed before it. -/
theorem mem_of_edge_of_path_of_split (h : Acyclic edges) {starts before after : List α} {u v w : α}
    (hsplit : orderFrom edges starts = before ++ v :: after) (e : (u, w) ∈ edges)
    (p : Path edges w v) : u ∈ before := by
  have hstep : ∀ x y, (x, y) ∈ edges → y ∈ before ∨ y = v → x ∈ before := by
    rintro x y e (hy | rfl)
    · obtain ⟨bs, as, rfl⟩ := List.append_of_mem hy
      have hy' : orderFrom edges starts = bs ++ y :: (as ++ v :: after) := by
        rw [hsplit, List.append_assoc, List.cons_append]
      exact List.mem_append_left _ (mem_of_edge_of_split hy' e (h x y e))
    · exact mem_of_edge_of_split hsplit e (h x y e)
  have hclosed : ClosedBackwards edges fun x ↦ x ∈ before ∨ x = v :=
    fun x y e hy ↦ Or.inl (hstep x y e hy)
  exact hstep u w e (hclosed.of_path p (Or.inr rfl))

/-- What stands before a scheduled node in the schedule stands behind it in the one backwards. -/
theorem sublist_schedule {m n : ν} (hn : n ∈ schedule key edges nodes)
    (hbefore : ∀ before after, schedule key edges nodes = before ++ n :: after → m ∈ before) :
    [m, n].Sublist (schedule key edges nodes) ∧
      [n, m].Sublist (scheduleBackwards key edges nodes) := by
  obtain ⟨before, after, hsplit⟩ := List.append_of_mem hn
  have hm : [m].Sublist before := List.singleton_sublist.2 (hbefore before after hsplit)
  have hpair : [m, n].Sublist (schedule key edges nodes) := by
    rw [hsplit]
    exact hm.append (List.singleton_sublist.2 List.mem_cons_self)
  exact ⟨hpair, hpair.reverse⟩

/-- **Producers come before consumers.** Let the keys be distinct and `n` be scheduled. A node with
an edge to `n` is scheduled before it, and after it when the order is read backwards, unless `n` leads
back to the node; other parts of the graph may be cyclic. In an acyclic graph this is so for every node from
which a route of at least one edge leads to `n`, whether or not it passes through nodes only. -/
theorem schedule_producers_first (key : ν → α) (hkeys : (nodes.map key).Nodup) {m n : ν}
    (hm : m ∈ nodes) (hn : n ∈ schedule key edges nodes) :
    ((key m, key n) ∈ edges → ¬ Path edges (key n) (key m) →
        [m, n].Sublist (schedule key edges nodes) ∧
          [n, m].Sublist (scheduleBackwards key edges nodes)) ∧
      (Acyclic edges → ∀ es, es ≠ [] → Route edges (key m) es (key n) →
        [m, n].Sublist (schedule key edges nodes) ∧
          [n, m].Sublist (scheduleBackwards key edges nodes)) := by
  constructor
  · intro e hback
    exact sublist_schedule hn fun _ _ hsplit ↦
      mem_of_edge_of_schedule_split hkeys hsplit hm e hback
  · intro h es hne hroute
    obtain ⟨w, e, p⟩ := hroute.exists_edge hne
    exact sublist_schedule hn fun _ _ hsplit ↦ mem_of_schedule_split hkeys hsplit hm
      fun _ _ hlisted ↦ mem_of_edge_of_path_of_split h hlisted e p

/-- A node behind a circuit comes after it, and a node after what leads to it past a vertex that is
no node. -/
theorem exists_sublist_schedule_behind_circuit :
    (∃ (edges : List (String × String)) (nodes : List String),
      ("b", "c") ∈ edges ∧ hasCycle edges = true ∧ ¬ Path edges "c" "b" ∧
        ["b", "c"].Sublist (schedule id edges nodes) ∧
        ["c", "b"].Sublist (scheduleBackwards id edges nodes)) ∧
      ∃ (edges : List (String × String)) (nodes : List String),
        Route edges "a" [("a", "x"), ("x", "d")] "d" ∧ Acyclic edges ∧ "x" ∉ nodes ∧
          ["a", "d"].Sublist (schedule id edges nodes) ∧
          ["d", "a"].Sublist (scheduleBackwards id edges nodes) := by
  constructor
  · refine ⟨[("a", "b"), ("b", "a"), ("b", "c")], ["c", "a", "b"], by decide, by decide +kernel,
      by decide +kernel, ?_⟩
    exact (schedule_producers_first id (by decide) (by decide) (by decide +kernel)).1
      (by decide) (by decide +kernel)
  · have hroute : Route [("a", "x"), ("x", "d")] "a" [("a", "x"), ("x", "d")] "d" :=
      .cons (by decide) (.cons (by decide) (.nil "d"))
    refine ⟨[("a", "x"), ("x", "d")], ["d", "a"], hroute, by decide +kernel, by decide, ?_⟩
    exact (schedule_producers_first id (by decide) (by decide) (by decide +kernel)).2
      (by decide +kernel) _ (List.cons_ne_nil _ _) hroute

end FlowCanvas.Graph
