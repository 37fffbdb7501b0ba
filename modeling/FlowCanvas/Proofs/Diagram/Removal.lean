import FlowCanvas.Proofs.Diagram.History
import FlowCanvas.Proofs.Diagram.Outline

/-!
# Taking away

Taking something away leaves what would be there without it. Two statements say so. A node that is
added, connected in whatever way and removed again leaves no trace, and neither does a connection
that is taken away again, although bindings of other nodes may have been written over in the
meantime (`Reachable.leaves_no_trace`). And it does not matter in which order things are taken away,
nor in which order one removal comes to the nodes that have to be bound anew
(`Reachable.removals_commute`).

Both are read off outlines. A removal leaves something out of the outline (`Operation.leaveOut`), and
leaving out can be done in any order. What concerns an added node only is gone from the outline once
the node is left out of it (`Consistent.detach_outline_perform`), so that what remains at the end is
the outline of the diagram that it was added to.
-/

namespace FlowCanvas

namespace Operation

/-- The operation takes away a node or a connection, whether or not there is one with the id. -/
def IsRemoval : Operation → Prop
  | .remove _ | .disconnect _ => True
  | .add .. | .update .. | .connect .. | .clear => False

instance : DecidablePred IsRemoval
  | .remove _ | .disconnect _ => inferInstanceAs (Decidable True)
  | .add .. | .update .. | .connect .. | .clear => inferInstanceAs (Decidable False)

/-- The operation concerns a node that was added to a diagram: it tries to connect the node at one
of its ends, it changes the node, or it takes away a connection that the diagram did not have. -/
def Concerns (d : Diagram) (node : String) : Operation → Prop
  | .connect _ source target _ _ => source.node = node ∨ target.node = node
  | .update id _ => id = node
  | .disconnect id => id ∉ d.connections.map Connection.id
  | .add .. | .remove _ | .clear => False

instance (d : Diagram) (node : String) : DecidablePred (Concerns d node)
  | .connect _ source target _ _ =>
    inferInstanceAs (Decidable (source.node = node ∨ target.node = node))
  | .update id _ => inferInstanceAs (Decidable (id = node))
  | .disconnect id => inferInstanceAs (Decidable (id ∉ d.connections.map Connection.id))
  | .add .. | .remove _ | .clear => inferInstanceAs (Decidable False)

/-- What a removal leaves out of an outline. -/
def leaveOut (d : Diagram) : Operation → Diagram
  | .remove id => d.detach id
  | .disconnect id => d.sever id
  | .add .. | .update .. | .connect .. | .clear => d

theorem IsRemoval.isFresh {op : Operation} (h : op.IsRemoval) (d : Diagram) : op.IsFresh d := by
  cases op with
  | remove id => trivial
  | disconnect id => trivial
  | _ => exact h.elim

theorem IsRemoval.leaveOut_leaveOut {op op' : Operation} (h : op.IsRemoval) (h' : op'.IsRemoval)
    (d : Diagram) : leaveOut (leaveOut d op) op' = leaveOut (leaveOut d op') op := by
  cases op with
  | remove id =>
    cases op' with
    | remove other => exact d.detach_detach id other
    | disconnect other => exact d.sever_detach id other
    | _ => exact h'.elim
  | disconnect id =>
    cases op' with
    | remove other => exact (d.sever_detach other id).symm
    | disconnect other => exact d.sever_sever id other
    | _ => exact h'.elim
  | _ => exact h.elim

end Operation

namespace Diagram

variable {d d' : Diagram} {node : String}

/-! ### No trace -/

/-- **One step**: what concerns an added node is not seen once the node is left out. -/
theorem Consistent.detach_outline_perform (h : d'.Consistent) {op : Operation}
    (hop : op.Concerns d node) (hd : d'.outline.detach node = d.outline) :
    (d'.perform op).outline.detach node = d.outline := by
  cases op with
  | connect id source target sourcePoint targetPoint =>
    show (d'.connect id source target sourcePoint targetPoint).1.outline.detach node = _
    rcases h.outline_connect id source target sourcePoint targetPoint with
      hc | ⟨c, -, hsource, htarget, -, hc⟩
    · rw [hc, hd]
    · -- the connection ends on the node, so it goes with it
      have hend : source.node = node ∨ target.node = node := hop
      have htouches : c.touches node = true := by
        rw [Connection.touches, hsource, htarget]
        simpa using hend
      rw [hc, detach_push htouches, hd]
  | disconnect id =>
    show (d'.disconnect id).outline.detach node = _
    have hno : id ∉ d.outline.connections.map Connection.id := hop
    rw [h.outline_disconnect, ← sever_detach, hd, sever_eq_self hno]
  | update id changes =>
    obtain rfl : id = node := hop
    exact (d'.detach_outline_update id changes).trans hd
  | _ => exact hop.elim

/-- **A whole run** of what concerns an added node. -/
theorem Reachable.detach_outline_performAll (h : Reachable d') {ops : List Operation}
    (hfresh : d'.FreshRun ops) (hops : ∀ op ∈ ops, op.Concerns d node)
    (hd : d'.outline.detach node = d.outline) :
    (d'.performAll ops).outline.detach node = d.outline := by
  induction ops generalizing d' with
  | nil => exact hd
  | cons op rest ih =>
    have hop := hops op List.mem_cons_self
    have hrest := fun o ho ↦ hops o (List.mem_cons_of_mem op ho)
    exact ih (h.step op hfresh.1) hfresh.2 hrest (h.consistent.detach_outline_perform hop hd)

/-- **What is added and removed again leaves no trace.** A node may be added to a reachable diagram,
be connected in any direction and on any pins, with success or not, be changed, and lose any of the
connections drawn since; once it is removed, the diagram is the one before, down to the bindings of
the other nodes. So it is with a connection that is drawn and taken away. -/
theorem Reachable.leaves_no_trace (h : Reachable d) :
    (∀ (node kind : String) (properties : Properties) (name : Option String) (position : Point)
        (category : Option Label) (ops : List Operation),
      d.FreshRun (.add node kind properties name position category :: ops) →
      (∀ op ∈ ops, op.Concerns d node) →
        (d.performAll (.add node kind properties name position category :: ops)).remove node = d) ∧
      ∀ (id : String) (source target : Terminal) (sourcePoint targetPoint : Point) (c : Connection),
        id ∉ d.connections.map Connection.id →
        (d.connect id source target sourcePoint targetPoint).2 = .ok (some c) →
          (d.connect id source target sourcePoint targetPoint).1.disconnect c.id = d := by
  have hd := h.consistent
  constructor
  · intro node kind properties name position category ops hfresh hops
    have hadded := h.step (.add node kind properties name position category) hfresh.1
    have hafter := hadded.performAll hfresh.2
    have houtline := hadded.detach_outline_performAll hfresh.2 hops (hd.detach_outline_put hfresh.1)
    refine (hafter.consistent.remove node).eq_of_outline_eq hd ?_
    rw [hafter.consistent.outline_remove, houtline]
  · intro id source target sourcePoint targetPoint c hfresh hc
    have hdrawn := hd.connect hfresh source target sourcePoint targetPoint
    refine (hdrawn.disconnect c.id).eq_of_outline_eq hd ?_
    rw [hdrawn.outline_disconnect]
    rcases hd.outline_connect id source target sourcePoint targetPoint with
      hno | ⟨c', hid, -, -, hc', houtline⟩
    · rw [hno] at hc
      exact absurd hc nofun
    · obtain rfl : c' = c := Option.some.inj (Except.ok.inj (hc'.symm.trans hc))
      have hnew : c'.id ∉ d.outline.connections.map Connection.id := hid ▸ hfresh
      rw [houtline, sever_push, sever_eq_self hnew]

/-- A call is bound over an earlier value, with one connection refused and one drawn twice, and goes
again; a second wire to the same operand comes and goes. -/
theorem exists_no_trace_after_shadowing :
    ∃ d visit drawn, Reachable d ∧
      ((d.performAll visit).nodes.find? "c").map Node.inputs = some ["b", "right"] ∧
      (d.performAll visit).remove "b" = d ∧
      (d.connect "q" ⟨"a", "var_out"⟩ ⟨"c", "left"⟩ .origin .origin).2 = .ok (some drawn) ∧
      (d.connect "q" ⟨"a", "var_out"⟩ ⟨"c", "left"⟩ .origin .origin).1.disconnect drawn.id = d := by
  let d := empty.performAll
    [.add "a" "let_declaration" .empty none .origin none,
      .add "c" "comparison" .empty none .origin none,
      .connect "p" ⟨"a", "var_out"⟩ ⟨"c", "left"⟩ .origin .origin]
  let ops : List Operation :=
    [.connect "q" ⟨"b", "return"⟩ ⟨"c", "left"⟩ .origin .origin,
      .connect "r" ⟨"c", "result"⟩ ⟨"b", "params"⟩ .origin .origin,
      .connect "s" ⟨"a", "var_out"⟩ ⟨"b", "params"⟩ .origin .origin,
      .disconnect "q",
      .connect "q" ⟨"b", "return"⟩ ⟨"c", "left"⟩ .origin .origin,
      .update "b" [.name (.str "renamed"), .properties (.int 5)]]
  have h : Reachable d := Reachable.empty.performAll (by decide +kernel)
  obtain ⟨hnode, hconnection⟩ := h.leaves_no_trace
  have hid : ((d.connect "q" ⟨"a", "var_out"⟩ ⟨"c", "left"⟩ .origin .origin).2.toOption.join).map
      Connection.id = some "q" := by decide +kernel
  obtain ⟨drawn, hdrawn, -⟩ := Option.map_eq_some_iff.1 hid
  have hc := eq_ok_of_toOption (Option.join_eq_some_iff.1 hdrawn)
  refine ⟨d, .add "b" "function_call" .empty none .origin none :: ops, drawn, h,
    by decide +kernel, ?_, hc, ?_⟩
  · exact hnode "b" "function_call" .empty none .origin none ops (by decide +kernel)
      (by decide +kernel)
  · exact hconnection "q" ⟨"a", "var_out"⟩ ⟨"c", "left"⟩ .origin .origin drawn (by decide +kernel) hc

/-! ### Any order -/

theorem Consistent.outline_perform_removal (h : d.Consistent) {op : Operation}
    (hop : op.IsRemoval) : (d.perform op).outline = op.leaveOut d.outline := by
  cases op with
  | remove id => exact h.outline_remove id
  | disconnect id => exact h.outline_disconnect id
  | _ => exact hop.elim

/-- A series of removals leaves one thing after the other out of the outline. -/
theorem Consistent.outline_performAll_removals (h : d.Consistent) {ops : List Operation}
    (hops : ∀ op ∈ ops, op.IsRemoval) : (d.performAll ops).Consistent ∧
      (d.performAll ops).outline = ops.foldl Operation.leaveOut d.outline := by
  induction ops generalizing d with
  | nil => exact ⟨h, rfl⟩
  | cons op rest ih =>
    have hop := hops op List.mem_cons_self
    have hrest := ih (h.perform (hop.isFresh d)) fun o ho ↦ hops o (List.mem_cons_of_mem op ho)
    refine ⟨hrest.1, hrest.2.trans ?_⟩
    rw [h.outline_perform_removal hop]
    rfl

/-- The nodes that are bound anew can be come to in any order, and more than once. -/
theorem foldl_rebind_congr {keys keys' : List String} (h : ∀ k, k ∈ keys ↔ k ∈ keys')
    (d : Diagram) : keys.foldl rebind d = keys'.foldl rebind d := by
  have hnodes : (keys.foldl rebind d).nodes = (keys'.foldl rebind d).nodes := by
    refine Table.eq_of_find? (by rw [keys_foldl_rebind, keys_foldl_rebind]) fun k ↦ ?_
    simp only [find?_foldl_rebind, h]
  have hconnections : (keys.foldl rebind d).connections = (keys'.foldl rebind d).connections := by
    rw [connections_foldl_rebind, connections_foldl_rebind]
  exact congrArg₂ Diagram.mk hnodes hconnections

/-- **Removals can be done in any order.** A list of removals, of what is there, of what never was
and of what is gone already, leads from a reachable diagram to the same diagram in whatever order it
is done. And when a node is removed, it does not matter in which order the nodes that its connections
landed on are bound anew. -/
theorem Reachable.removals_commute (h : Reachable d) :
    (∀ ops ops' : List Operation, (∀ op ∈ ops, op.IsRemoval) → ops.Perm ops' →
        d.performAll ops = d.performAll ops') ∧
      ∀ node ∈ d.nodes.keys, ∀ targets : List String,
        (∀ k, k ∈ targets ↔
          ∃ c ∈ d.connections, c.touches node = true ∧ c.target.node = k ∧ k ≠ node) →
        targets.foldl rebind (d.detach node) = d.remove node := by
  constructor
  · intro ops ops' hops hperm
    have hd := h.consistent.outline_performAll_removals hops
    have hd' := h.consistent.outline_performAll_removals fun op hop ↦ hops op (hperm.mem_iff.2 hop)
    refine hd.1.eq_of_outline_eq hd'.1 ?_
    rw [hd.2, hd'.2]
    exact hperm.foldl_eq' (fun op hop op' hop' o ↦ (hops op hop).leaveOut_leaveOut (hops op' hop') o)
      d.outline
  · intro node hnode targets htargets
    rw [remove, if_pos (Table.contains_iff.2 hnode)]
    refine foldl_rebind_congr (fun k ↦ (htargets k).trans ?_) (d.detach node)
    simp only [connectionsOf, List.mem_filter, List.mem_map, decide_eq_true_eq]
    constructor
    · rintro ⟨c, hc, htouches, rfl, hk⟩
      exact ⟨⟨c, ⟨hc, htouches⟩, rfl⟩, hk⟩
    · rintro ⟨⟨c, ⟨hc, htouches⟩, rfl⟩, hk⟩
      exact ⟨c, hc, htouches, rfl, hk⟩

/-- Of two values bound to one operand one is disconnected, and the node of the other is removed. Both
removals come twice, and one is of a node that never was. -/
theorem exists_removals_in_two_orders :
    ∃ d ops, Reachable d ∧
      ((d.performAll ops).nodes.find? "c").map Node.inputs = some ["left", "right"] ∧
      d.performAll ops = d.performAll ops.reverse ∧
      ["e", "c"].foldl rebind (d.detach "a") = d.remove "a" := by
  let d := empty.performAll
    [.add "a" "let_declaration" .empty none .origin none,
      .add "b" "function_call" .empty none .origin none,
      .add "c" "comparison" .empty none .origin none,
      .add "e" "assignment" .empty none .origin none,
      .connect "p" ⟨"a", "var_out"⟩ ⟨"c", "left"⟩ .origin .origin,
      .connect "q" ⟨"b", "return"⟩ ⟨"c", "left"⟩ .origin .origin,
      .connect "r" ⟨"a", "var_out"⟩ ⟨"e", "value"⟩ .origin .origin]
  let ops : List Operation :=
    [.disconnect "q", .remove "a", .disconnect "p", .remove "nowhere", .disconnect "q", .remove "a"]
  have h : Reachable d := Reachable.empty.performAll (by decide +kernel)
  obtain ⟨horder, htargets⟩ := h.removals_commute
  have hends : d.connections.map (fun c ↦ (c.touches "a", c.target.node)) =
      [(true, "c"), (false, "c"), (true, "e")] := by decide +kernel
  have hlanded : ∀ e ∈ d.connections.map (fun c ↦ (c.touches "a", c.target.node)),
      e.1 = true → e.2 ∈ ["e", "c"] := by
    rw [hends]
    decide
  have hmem : ∀ k, k ∈ ["e", "c"] ↔
      ∃ c ∈ d.connections, c.touches "a" = true ∧ c.target.node = k ∧ k ≠ "a" := by
    refine fun k ↦ ⟨fun hk ↦ ?_, ?_⟩
    · have hpair : (true, k) ∈ d.connections.map (fun c ↦ (c.touches "a", c.target.node)) := by
        rw [hends]
        rcases List.mem_pair.1 hk with rfl | rfl <;> decide
      obtain ⟨c, hc, heq⟩ := List.mem_map.1 hpair
      obtain ⟨htouches, htarget⟩ := Prod.mk.inj heq
      refine ⟨c, hc, htouches, htarget, ?_⟩
      rintro rfl
      exact absurd hk (by decide)
    · rintro ⟨c, hc, htouches, rfl, -⟩
      exact hlanded _ (List.mem_map_of_mem hc) htouches
  exact ⟨d, ops, h, by decide +kernel, horder ops ops.reverse (by decide +kernel)
    ops.reverse_perm.symm, htargets "a" (by decide +kernel) ["e", "c"] hmem⟩

end Diagram

end FlowCanvas
