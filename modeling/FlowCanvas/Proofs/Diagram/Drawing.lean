import FlowCanvas.Proofs.Diagram.Consistency

/-!
# Drawing a connection

What a diagram becomes when a connection is drawn in it (`withDrawn`) depends on the connection and
not on who asked for it. Drawing asks first whether the graph stays acyclic with one more edge,
which is a question about a set of edges (`Consistent.admits_iff`); then it writes an input of the
node that the connection lands on, and connections to different nodes do not write over each other
(`Node.fedBy_comm`).
-/

namespace FlowCanvas

theorem Node.SameShape.dataType? {n m : Node} (h : n.SameShape m) (pin : String) :
    n.dataType? pin = m.dataType? pin := by
  rw [Node.dataType?, Node.pin?, h.pins]
  rfl

/-- The shapes of the two nodes decide what connection is drawn between them. -/
theorem Connection.between_congr {s s' t t' : Node} (hs : s'.SameShape s) (ht : t'.SameShape t)
    (id : String) (source target : Terminal) (p q : Point) :
    between id s' t' source target p q = between id s t source target p q := by
  have hsignal : signalBetween s' t' source.pin target.pin =
      signalBetween s t source.pin target.pin := by
    rw [signalBetween, signalBetween, hs.isExecution, ht.isExecution]
  have htype : dataTypeBetween s' t' source.pin target.pin =
      dataTypeBetween s t source.pin target.pin := by
    rw [dataTypeBetween, dataTypeBetween, hs.dataType?, ht.dataType?]
  rw [between, between, hsignal, htype]

/-- Connections to different nodes do not write over each other. -/
theorem Node.fedBy_comm {c c' : Connection} (hne : c.target.node ≠ c'.target.node) (n : Node) :
    (n.fedBy c).fedBy c' = (n.fedBy c').fedBy c := by
  by_cases hc : c.target.node = n.id
  · have hc' : ∀ m : Node, m.id = n.id → m.fedBy c' = m := fun m hm ↦
      fedBy_eq_self fun hf ↦ hne (hc.trans (hm.symm.trans hf.2.symm))
    rw [hc' n rfl, hc' (n.fedBy c) rfl]
  · have hc' : ∀ m : Node, m.id = n.id → m.fedBy c = m := fun m hm ↦
      fedBy_eq_self fun hf ↦ hc (hf.2.trans hm)
    rw [hc' n rfl, hc' (n.fedBy c') rfl]

namespace Diagram

variable {d : Diagram}

/-- The diagram with a connection drawn in it. -/
def withDrawn (d : Diagram) (c : Connection) : Diagram :=
  ⟨d.nodes.mapValues fun _ n ↦ n.fedBy c, d.connections ++ [c]⟩

theorem find?_withDrawn (d : Diagram) (c : Connection) (k : String) :
    (d.withDrawn c).nodes.find? k = (d.nodes.find? k).map (·.fedBy c) :=
  Table.find?_mapValues _ d.nodes k

theorem keys_withDrawn (d : Diagram) (c : Connection) : (d.withDrawn c).nodes.keys = d.nodes.keys :=
  Table.keys_mapValues _ d.nodes

theorem edges_withDrawn (d : Diagram) (c : Connection) :
    (d.withDrawn c).edges = d.edges ++ [c.edge] := List.map_append

theorem nodes_withDrawn_comm {c c' : Connection} (hne : c.target.node ≠ c'.target.node) :
    ((d.withDrawn c).withDrawn c').nodes = ((d.withDrawn c').withDrawn c).nodes := by
  simp only [withDrawn, Table.mapValues_mapValues, Node.fedBy_comm hne]

/-- An edge may be drawn between nodes that exist if the graph stays acyclic with it. -/
theorem Consistent.admits_iff (h : d.Consistent) {source target : String} :
    d.admits source target = true ↔ source ∈ d.nodes.keys ∧ target ∈ d.nodes.keys ∧
      Graph.Acyclic (d.edges ++ [(source, target)]) := by
  rw [admits, Bool.and_eq_true, Bool.and_eq_true, Bool.not_eq_true', ← Bool.not_eq_true,
    Graph.closesCycle_eq_true_iff, Table.contains_iff, Table.contains_iff,
    Graph.acyclic_append_iff, and_assoc]
  exact and_congr_right' (and_congr_right' (and_iff_right h.acyclic).symm)

/-- What is admitted next to a connection is admitted without it. -/
theorem Consistent.admits_of_withDrawn (h : d.Consistent) {c : Connection}
    (hc : (d.withDrawn c).Consistent) {source target : String}
    (hyes : (d.withDrawn c).admits source target = true) : d.admits source target = true := by
  obtain ⟨hsource, htarget, hacyclic⟩ := hc.admits_iff.1 hyes
  rw [keys_withDrawn] at hsource htarget
  rw [edges_withDrawn] at hacyclic
  have hsub := (List.sublist_append_left d.edges [c.edge]).append_right [(source, target)]
  exact h.admits_iff.2 ⟨hsource, htarget, hacyclic.mono hsub.subset⟩

/-- **The guard lets two connections pass in either order.** -/
theorem Consistent.admits_withDrawn_comm (h : d.Consistent) {c c' : Connection}
    (hc : (d.withDrawn c).Consistent) (hc' : (d.withDrawn c').Consistent) {u v u' v' : String}
    (he : c.edge = (u, v)) (he' : c'.edge = (u', v')) (hfirst : d.admits u v = true)
    (hsecond : (d.withDrawn c).admits u' v' = true) : (d.withDrawn c').admits u v = true := by
  obtain ⟨hsource, htarget, -⟩ := h.admits_iff.1 hfirst
  obtain ⟨-, -, hacyclic⟩ := hc.admits_iff.1 hsecond
  rw [edges_withDrawn, he] at hacyclic
  rw [hc'.admits_iff, keys_withDrawn, edges_withDrawn, he']
  -- both ways of drawing lead to the same set of edges
  refine ⟨hsource, htarget, hacyclic.mono fun e he ↦ ?_⟩
  simp only [List.mem_append, List.mem_singleton] at he ⊢
  exact or_right_comm.1 he

/-- What is admitted is drawn between the two nodes. -/
theorem Consistent.exists_connect_eq (h : d.Consistent) {source target : Terminal}
    (hyes : d.admits source.node target.node = true) (id : String) (p q : Point) :
    ∃ s t, d.nodes.find? source.node = some s ∧ d.nodes.find? target.node = some t ∧
      d.connect id source target p q = (d.withDrawn (.between id s t source target p q),
        .ok (some (.between id s t source target p q))) := by
  obtain ⟨hsource, htarget, -⟩ := h.admits_iff.1 hyes
  obtain ⟨s, hs⟩ := Table.exists_find?_of_mem_keys hsource
  obtain ⟨t, ht⟩ := Table.exists_find?_of_mem_keys htarget
  exact ⟨s, t, hs, ht, h.connect_of_admits hs ht hyes rfl⟩

/-- What is drawn was admitted, and drawing it is all that happens. -/
theorem Consistent.eq_withDrawn (h : d.Consistent) {id : String} {source target : Terminal}
    {p q : Point} {c : Connection} (hc : (d.connect id source target p q).2 = .ok (some c)) :
    d.admits source.node target.node = true ∧
      (d.connect id source target p q).1 = d.withDrawn c ∧
      ∃ s t, d.nodes.find? source.node = some s ∧ d.nodes.find? target.node = some t ∧
        c = .between id s t source target p q := by
  cases hyes : d.admits source.node target.node with
  | false =>
    rw [connect_of_not_admits hyes] at hc
    exact absurd (Except.ok.inj hc) nofun
  | true =>
    obtain ⟨s, t, hs, ht, heq⟩ := h.exists_connect_eq hyes id p q
    rw [heq] at hc ⊢
    obtain rfl := Option.some.inj (Except.ok.inj hc)
    exact ⟨rfl, rfl, s, t, hs, ht, rfl⟩

/-- A connection between two nodes can be drawn under another id, and in another diagram in which
the nodes have the same shapes. -/
theorem Consistent.connect_withId {d' : Diagram} (h : d'.Consistent) {source target : Terminal}
    (hyes : d'.admits source.node target.node = true) {s t s' t' : Node}
    (hs : d'.nodes.find? source.node = some s') (hshape : s'.SameShape s)
    (ht : d'.nodes.find? target.node = some t') (hshape' : t'.SameShape t) (id id' : String)
    (p q : Point) {c : Connection} (hc : c = .between id s t source target p q) :
    d'.connect id' source target p q =
      (d'.withDrawn { c with id := id' }, .ok (some { c with id := id' })) := by
  refine h.connect_of_admits hs ht hyes ?_
  rw [hc, Connection.between_congr hshape hshape']
  rfl

end Diagram

end FlowCanvas
