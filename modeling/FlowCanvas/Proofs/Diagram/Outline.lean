import FlowCanvas.Proofs.Diagram.Consistency

/-!
# The outline of a diagram

What the inputs of a node are bound to follows from the connections, so in a consistent diagram the
bindings hold nothing of their own: it is known from its outline, the diagram with every binding
taken off (`Consistent.eq_of_outline_eq`). To compare where two histories lead it is then enough to
compare outlines.

On outlines the operations are plain. Binding anew does nothing (`outline_foldl_rebind`), drawing a
connection appends it, and taking away is leaving out: `detach` leaves a node out together with what
touches it, `sever` leaves out the connection with an id. Neither looks at what else is there, which
is why they can be done in any order.
-/

namespace FlowCanvas

/-- Nodes that differ in their bindings at most have the same shape. -/
theorem Node.sameShape_of_reset_eq {n m : Node} (h : n.reset = m.reset) : n.SameShape m :=
  n.sameShape_reset.symm.trans (h ▸ m.sameShape_reset)

namespace Diagram

/-- The diagram with every binding taken off. -/
def outline (d : Diagram) : Diagram := { d with nodes := d.nodes.mapValues fun _ n ↦ n.reset }

/-- The diagram without a node and the connections that end on it, all bindings as they are. -/
def detach (d : Diagram) (node : String) : Diagram :=
  ⟨d.nodes.erase node, d.connections.filter fun c ↦ !c.touches node⟩

/-- The diagram without the connections with an id, all bindings as they are. -/
def sever (d : Diagram) (id : String) : Diagram :=
  { d with connections := d.connections.filter (·.id ≠ id) }

variable {d d' : Diagram}

@[simp] theorem connections_outline (d : Diagram) : d.outline.connections = d.connections := rfl

@[simp] theorem keys_outline (d : Diagram) : d.outline.nodes.keys = d.nodes.keys :=
  Table.keys_mapValues _ d.nodes

theorem find?_outline (d : Diagram) (k : String) :
    d.outline.nodes.find? k = (d.nodes.find? k).map Node.reset :=
  Table.find?_mapValues _ d.nodes k

/-- **A consistent diagram is known from its outline.** -/
theorem Consistent.eq_of_outline_eq (h : d.Consistent) (h' : d'.Consistent)
    (heq : d.outline = d'.outline) : d = d' := by
  have hconnections : d.connections = d'.connections := by
    rw [← connections_outline d, heq, connections_outline]
  have hnodes : d.nodes = d'.nodes := by
    refine Table.eq_of_find? ?_ fun k ↦ ?_
    · rw [← keys_outline d, heq, keys_outline]
    · have hk : (d.nodes.find? k).map Node.reset = (d'.nodes.find? k).map Node.reset := by
        rw [← find?_outline, heq, find?_outline]
      cases hn : d.nodes.find? k with
      | none =>
        rw [hn] at hk
        exact (Option.map_eq_none_iff.1 hk.symm).symm
      | some n =>
        rw [hn] at hk
        obtain ⟨n', hn', hreset⟩ := Option.map_eq_some_iff.1 hk.symm
        -- the same shape and the same connections, so the same bindings
        have hinputs : n.inputs = n'.inputs := by
          rw [h.bound hn, h'.bound hn', hconnections,
            (Node.sameShape_of_reset_eq hreset).boundBy]
        have hnode : n = { n'.reset with inputs := n'.inputs } := by
          rw [hreset, ← hinputs]
          rfl
        rw [hn', hnode]
        rfl
  cases d
  cases d'
  rw [Diagram.mk.injEq]
  exact ⟨hnodes, hconnections⟩

/-! ### Leaving out -/

theorem detach_outline (d : Diagram) (node : String) :
    d.outline.detach node = (d.detach node).outline := by
  rw [detach, outline, Table.erase_mapValues]
  rfl

theorem detach_detach (d : Diagram) (node other : String) :
    (d.detach node).detach other = (d.detach other).detach node := by
  simp only [detach, Table.erase_erase _ node other, List.filter_filter, Bool.and_comm]

theorem sever_sever (d : Diagram) (id other : String) :
    (d.sever id).sever other = (d.sever other).sever id := by
  simp only [sever, List.filter_filter, Bool.and_comm]

theorem sever_detach (d : Diagram) (node id : String) :
    (d.detach node).sever id = (d.sever id).detach node := by
  simp only [detach, sever, List.filter_filter, Bool.and_comm]

/-- A connection on a node goes with the node. -/
theorem detach_push {c : Connection} {node : String} (h : c.touches node = true) (d : Diagram) :
    (d.push c).detach node = d.detach node := by
  have hdrop : [c].filter (fun c ↦ !c.touches node) = [] := by simp [h]
  rw [detach, push, List.filter_append, hdrop, List.append_nil]
  rfl

theorem sever_push (d : Diagram) (c : Connection) : (d.push c).sever c.id = d.sever c.id := by
  have hdrop : [c].filter (fun b ↦ b.id ≠ c.id) = [] := by simp
  rw [sever, push, List.filter_append, hdrop, List.append_nil]
  rfl

theorem sever_eq_self {id : String} (h : id ∉ d.connections.map Connection.id) :
    d.sever id = d := by
  have hkeep : d.connections.filter (·.id ≠ id) = d.connections :=
    List.filter_eq_self.2 fun c hc ↦
      decide_eq_true fun hid ↦ h (hid ▸ List.mem_map_of_mem hc)
  rw [sever, hkeep]

/-- What is not there can be left out. -/
theorem Consistent.detach_eq_self (h : d.Consistent) {node : String} (hnode : node ∉ d.nodes.keys) :
    d.detach node = d := by
  have hkeep : (d.connections.filter fun c ↦ !c.touches node) = d.connections := by
    refine List.filter_eq_self.2 fun c hc ↦ ?_
    have hsource : c.source.node ≠ node := fun hs ↦ hnode (hs ▸ h.source_mem c hc)
    have htarget : c.target.node ≠ node := fun ht ↦ hnode (ht ▸ h.target_mem c hc)
    simp [Connection.touches, hsource, htarget]
  rw [detach, Table.erase_eq_self hnode, hkeep]

/-! ### What operations do to the outline -/

theorem outline_rebind (d : Diagram) (node : String) : (d.rebind node).outline = d.outline := by
  have hnodes : (d.rebind node).outline.nodes = d.outline.nodes := by
    refine Table.eq_of_find? (by rw [keys_outline, keys_outline]; exact Table.keys_modify _ _ _)
      fun k ↦ ?_
    rw [find?_outline, find?_outline, rebind, Table.find?_modify]
    split
    · rw [Option.map_map]
      exact congrArg (Option.map · _) (funext fun n ↦ reset_rebound node d.connections n)
    · rfl
  exact congrArg (Diagram.mk · d.connections) hnodes

/-- Binding anew is not seen in the outline. -/
theorem outline_foldl_rebind (keys : List String) (d : Diagram) :
    (keys.foldl rebind d).outline = d.outline := by
  induction keys generalizing d with
  | nil => rfl
  | cons k rest ih => exact (ih (d.rebind k)).trans (d.outline_rebind k)

theorem Consistent.outline_remove (h : d.Consistent) (node : String) :
    (d.remove node).outline = d.outline.detach node := by
  rw [Diagram.remove]
  split
  case isTrue =>
    rw [outline_foldl_rebind, detach_outline]
    rfl
  case isFalse hno =>
    rw [detach_outline, h.detach_eq_self fun hmem ↦ hno (Table.contains_iff.2 hmem)]

theorem Consistent.outline_disconnect (h : d.Consistent) (id : String) :
    (d.disconnect id).outline = d.outline.sever id := by
  rw [Diagram.disconnect]
  cases hc : d.connection? id with
  | none =>
    have hno : id ∉ d.connections.map Connection.id := by
      intro hmem
      obtain ⟨c, hmem, hid⟩ := List.mem_map.1 hmem
      exact absurd (decide_eq_true hid) (List.find?_eq_none.1 hc c hmem)
    rw [sever_eq_self (d := d.outline) hno]
  | some c =>
    show (rebind { d with connections := _ } _).outline = _
    rw [outline_rebind, eraseP_id_eq_filter h.nodup_ids]
    rfl

theorem Consistent.detach_outline_put (h : d.Consistent) {n : Node} (hfresh : n.id ∉ d.nodes.keys) :
    (d.put n).outline.detach n.id = d.outline := by
  have hdetach : (d.put n).detach n.id = d := by
    have hself : (d.detach n.id).connections = d.connections := by rw [h.detach_eq_self hfresh]
    show Diagram.mk ((d.nodes.insert n.id n).erase n.id) (d.detach n.id).connections = d
    rw [Table.erase_insert hfresh, hself]
  rw [detach_outline, hdetach]

/-- Drawing a connection appends it if it is admitted, and does nothing otherwise. -/
theorem Consistent.outline_connect (h : d.Consistent) (id : String) (source target : Terminal)
    (sourcePoint targetPoint : Point) :
    (d.connect id source target sourcePoint targetPoint = (d, .ok none)) ∨
      ∃ c : Connection, c.id = id ∧ c.source = source ∧ c.target = target ∧
        (d.connect id source target sourcePoint targetPoint).2 = .ok (some c) ∧
        (d.connect id source target sourcePoint targetPoint).1.outline = d.outline.push c := by
  cases hyes : d.admits source.node target.node with
  | false => exact Or.inl (connect_of_not_admits hyes id sourcePoint targetPoint)
  | true =>
    have hall := hyes
    rw [admits, Bool.and_eq_true, Bool.and_eq_true, Table.contains_iff, Table.contains_iff] at hall
    obtain ⟨s, hs⟩ := Table.exists_find?_of_mem_keys hall.1.1
    obtain ⟨t, ht⟩ := Table.exists_find?_of_mem_keys hall.1.2
    rw [h.connect_of_admits hs ht hyes rfl]
    refine Or.inr ⟨.between id s t source target sourcePoint targetPoint, rfl, rfl, rfl, rfl, ?_⟩
    rw [outline, Table.mapValues_mapValues]
    rfl

/-- Apart from the node that is changed, the outline stays. -/
theorem detach_outline_update (d : Diagram) (id : String) (changes : List Change) :
    (d.update id changes).1.outline.detach id = d.outline.detach id := by
  rw [update]
  cases Change.operand? changes with
  | some operand => rfl
  | none =>
    cases d.nodes.find? id with
    | none => rfl
    | some n =>
      rw [detach_outline, detach_outline]
      exact congrArg (fun nodes ↦ outline ⟨nodes, _⟩) (Table.erase_modify d.nodes id _)

end Diagram

end FlowCanvas
