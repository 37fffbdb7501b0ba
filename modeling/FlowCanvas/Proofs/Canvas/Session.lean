import FlowCanvas.Canvas
import FlowCanvas.Proofs.Diagram.Consistency

/-!
# Consistent sessions

What an operation of a canvas does to the diagram is at most one operation of the diagram, and perhaps
connections are drawn anew. So it keeps the diagram consistent, where a new node or connection has a
token whose id is not in use (`IsFreshNode`, `IsFreshConnection`). What connecting comes to is told
without regard to that (`connect_cases`).
-/

namespace FlowCanvas

namespace Diagram

variable {d : Diagram}

/-! ### Which ids are left -/

theorem keys_update (d : Diagram) (id : String) (changes : List Change) :
    (d.update id changes).1.nodes.keys = d.nodes.keys := by
  rw [update]
  cases Change.operand? changes with
  | some operand => rfl
  | none =>
    cases d.nodes.find? id with
    | none => rfl
    | some n => exact Table.keys_modify _ _ _

theorem connections_update (d : Diagram) (id : String) (changes : List Change) :
    (d.update id changes).1.connections = d.connections := by
  rw [update]
  cases Change.operand? changes with
  | some operand => rfl
  | none => cases d.nodes.find? id <;> rfl

theorem keys_remove (d : Diagram) (id : String) :
    (d.remove id).nodes.keys = d.nodes.keys.filter (· ≠ id) := by
  rw [remove]
  split
  · rw [keys_foldl_rebind, Table.keys_erase]
  · next hid =>
    refine (List.filter_eq_self.2 fun k hk ↦ decide_eq_true ?_).symm
    exact ne_of_mem_of_not_mem hk fun hmem ↦ hid (Table.contains_iff.2 hmem)

theorem connections_remove_subset (d : Diagram) (id : String) :
    (d.remove id).connections ⊆ d.connections := by
  rw [remove]
  split
  · rw [connections_foldl_rebind]
    exact List.filter_subset_self _
  · exact List.Subset.refl _

theorem keys_disconnect (d : Diagram) (id : String) :
    (d.disconnect id).nodes.keys = d.nodes.keys := by
  rw [disconnect]
  cases d.connection? id with
  | none => rfl
  | some c => exact Table.keys_modify _ _ _

theorem connections_disconnect_subset (d : Diagram) (id : String) :
    (d.disconnect id).connections ⊆ d.connections := by
  rw [disconnect]
  cases d.connection? id with
  | none => exact List.Subset.refl _
  | some c => exact List.eraseP_subset

/-! ### Drawing anew -/

/-- Only what is drawn between the ends of connections may change without further ado. -/
theorem Consistent.mapConnections (h : d.Consistent) {f : Connection → Connection}
    (hid : ∀ c, (f c).id = c.id) (hsource : ∀ c, (f c).source = c.source)
    (htarget : ∀ c, (f c).target = c.target) (hsignal : ∀ c, (f c).signal = c.signal) :
    Consistent { d with connections := d.connections.map f } := by
  have hedges : edges { d with connections := d.connections.map f } = d.edges := by
    rw [edges, edges, List.map_map]
    refine List.map_congr_left fun c _ ↦ ?_
    show ((f c).source.node, (f c).target.node) = _
    rw [hsource, htarget]
    rfl
  constructor
  · exact h.keyed
  · exact h.standard
  · have hids : (d.connections.map f).map Connection.id = d.connections.map Connection.id := by
      rw [List.map_map]
      exact List.map_congr_left fun c _ ↦ hid c
    rw [hids]
    exact h.nodup_ids
  · intro c hc
    obtain ⟨b, hb, rfl⟩ := List.mem_map.1 hc
    rw [hsource]
    exact h.source_mem b hb
  · intro c hc
    obtain ⟨b, hb, rfl⟩ := List.mem_map.1 hc
    rw [htarget]
    exact h.target_mem b hb
  · rw [hedges]
    exact h.acyclic
  · intro c hc hdata n hn
    obtain ⟨b, hb, rfl⟩ := List.mem_map.1 hc
    rw [htarget] at hn ⊢
    exact h.data_target b hb ((hsignal b).symm.trans hdata) n hn
  · intro k n hn
    rw [h.bound hn, Node.boundBy, Node.boundBy, List.foldl_map]
    simp only [Node.feed_congr (hsource _) (htarget _) (hsignal _)]

end Diagram

namespace Canvas

/-- No node has the id that is made of this token. -/
def IsFreshNode (c : Canvas) (token : String) : Prop := nodeId token ∉ c.diagram.nodes.keys

/-- No connection has the id that is made of this token. -/
def IsFreshConnection (c : Canvas) (token : String) : Prop :=
  connectionId token ∉ c.diagram.connections.map Connection.id

instance (c : Canvas) (token : String) : Decidable (c.IsFreshNode token) :=
  inferInstanceAs (Decidable (_ ∉ _))

instance (c : Canvas) (token : String) : Decidable (c.IsFreshConnection token) :=
  inferInstanceAs (Decidable (_ ∉ _))

variable {c : Canvas} {token : String}

/-! ### Operations -/

theorem consistent_add (h : c.diagram.Consistent) (hfresh : c.IsFreshNode token) (kind : String)
    (properties : Properties) (category : Option Label) (position : Option Point) :
    (c.add token kind properties category position).canvas.diagram.Consistent := by
  rw [Canvas.add]
  cases position.elim c.viewport.center .ok with
  | error f => exact h
  | ok p => exact h.add hfresh kind properties _ p category

/-- Moving anchors along keeps a diagram consistent. -/
theorem consistent_reanchorAll {d : Diagram} (h : d.Consistent) (node : String) :
    (reanchorAll d node).Consistent := by
  refine h.mapConnections ?_ ?_ ?_ ?_
  all_goals
    intro b
    split <;> rfl

/-- An update changes the diagram, and perhaps draws connections anew. -/
theorem canvas_update (c : Canvas) (id : String) (changes : List Change) :
    (c.update id changes).canvas = c ∨
      (c.update id changes).canvas = { c with diagram := (c.diagram.update id changes).1 } ∨
      (c.update id changes).canvas =
        { c with diagram := reanchorAll (c.diagram.update id changes).1 id } := by
  rw [Canvas.update]
  cases Change.operand? changes with
  | some operand => exact Or.inl rfl
  | none =>
    by_cases hid : c.diagram.nodes.contains id = true
    · simp only [if_pos hid]
      rcases c.diagram.update id changes with ⟨d, f | u⟩
      · exact Or.inr (Or.inl rfl)
      · by_cases hmoved : (changes.any fun change ↦ change.field = "position") = true
        · refine Or.inr (Or.inr ?_)
          simp only [if_pos hmoved]
        · refine Or.inr (Or.inl ?_)
          simp only [if_neg hmoved]
    · simp only [if_neg hid]
      exact Or.inl rfl

theorem consistent_update (h : c.diagram.Consistent) (id : String) (changes : List Change) :
    (c.update id changes).canvas.diagram.Consistent := by
  have hd := h.update id changes
  rcases c.canvas_update id changes with hc | hc | hc
  · rwa [hc]
  · rwa [hc]
  · rw [hc]
    exact consistent_reanchorAll hd id

theorem consistent_remove (h : c.diagram.Consistent) (id : String) :
    (c.remove id).canvas.diagram.Consistent := by
  rw [Canvas.remove]
  split
  · exact h.remove id
  · exact h

theorem consistent_disconnect (h : c.diagram.Consistent) (id : String) :
    (c.disconnect id).canvas.diagram.Consistent := by
  rw [Canvas.disconnect]
  split
  · exact h.disconnect id
  · exact h

/-- **Connecting** is refused, and then nothing happens, or it draws a connection with the id of its
token. It is never at fault. -/
theorem connect_cases (h : c.diagram.Consistent) (token : String) (source target : Terminal) :
    c.connect token source target = c.unchanged (.ok none) ∨
      ∃ (s t : Node) (drawn : Connection), c.diagram.nodes.find? source.node = some s ∧
        c.diagram.nodes.find? target.node = some t ∧
        c.diagram.admits source.node target.node = true ∧
        drawn = .between (connectionId token) s t source target (s.anchor source.pin)
          (t.anchor target.pin) ∧
        c.connect token source target = ⟨{ c with
            diagram := ⟨c.diagram.nodes.mapValues fun _ n ↦ n.fedBy drawn,
              c.diagram.connections ++ [drawn]⟩ },
          .ok (some drawn), [.connected drawn.id, .changed]⟩ := by
  rw [Canvas.connect]
  cases hs : c.diagram.nodes.find? source.node with
  | none => exact Or.inl rfl
  | some s =>
    cases ht : c.diagram.nodes.find? target.node with
    | none => exact Or.inl rfl
    | some t =>
      cases hyes : c.diagram.admits source.node target.node with
      | false =>
        simp only [Diagram.connect_of_not_admits hyes]
        exact Or.inl rfl
      | true =>
        refine Or.inr ⟨s, t, _, rfl, rfl, rfl, rfl, ?_⟩
        simp only [h.connect_of_admits hs ht hyes rfl]

theorem consistent_connect (h : c.diagram.Consistent) (hfresh : c.IsFreshConnection token)
    (source target : Terminal) :
    (c.connect token source target).canvas.diagram.Consistent := by
  rcases connect_cases h token source target with hc | ⟨s, t, drawn, hs, ht, hyes, hdrawn, hc⟩
  · rw [hc]
    exact h
  · have hd := h.connect hfresh source target (s.anchor source.pin) (t.anchor target.pin)
    rw [h.connect_of_admits hs ht hyes hdrawn] at hd
    rwa [hc]

end Canvas

end FlowCanvas
