import FlowCanvas.Proofs.Canvas.History
import FlowCanvas.Proofs.Diagram.Drawing

/-!
# Anchors and the selection

A connection keeps the two points between which it is drawn, and a point is right if the pin of its
end has its anchor there (`Diagram.PointsAt`). The anchor of a pin depends on the pins of its node
and on where the node is, and on nothing else (`Node.SamePlace.anchor`). So bindings, names and
properties do not move it, and whatever keeps the pins and the place of the nodes keeps all points
right (`IsAnchored.of_keepsPlaces`). That covers every action but two: connecting draws from anchor
to anchor, and moving a node draws its connections anew at both ends.

The selection is right if a selected node exists. Only two actions take nodes away, and both look
after it.
-/

namespace FlowCanvas

namespace Node

/-- Two nodes have the same pins in the same place. -/
structure SamePlace (n m : Node) : Prop where
  pins : n.pins = m.pins
  position : n.position = m.position

theorem SamePlace.refl (n : Node) : n.SamePlace n := ⟨rfl, rfl⟩

/-- The anchor of a pin depends on the pins and the place of its node. -/
theorem SamePlace.anchor {n m : Node} (h : n.SamePlace m) {pin : String}
    (hpin : pin ∈ n.pins.map Pin.id) : n.anchor pin = m.anchor pin := by
  have hfind : n.pin? pin = m.pin? pin := by
    rw [pin?, pin?, h.pins]
  have hside : n.side? pin = m.side? pin := by
    cases hp : n.pin? pin with
    | none =>
      obtain ⟨p, hp', hid⟩ := List.mem_map.1 hpin
      exact absurd (List.find?_eq_none.1 hp p hp') (by simpa using hid)
    | some p => rw [side?, side?, ← hfind, hp]
  rw [Node.anchor, Node.anchor, hside, h.position]

/-- Taking the bindings off does not move a node. -/
theorem samePlace_of_reset_eq {n m : Node} (h : n.reset = m.reset) : n.SamePlace m := by
  have hpins : n.reset.pins = m.reset.pins := by rw [h]
  have hposition : n.reset.position = m.reset.position := by rw [h]
  exact ⟨hpins, hposition⟩

theorem samePlace_fedBy (n : Node) (c : Connection) : (n.fedBy c).SamePlace n := ⟨rfl, rfl⟩

/-- Only a change of the position moves a node. -/
theorem position_of_change {n m : Node} {c : Change} (h : n.change c = .ok m)
    (hfield : c.field ≠ "position") : m.position = n.position := by
  cases c with
  | name v =>
    obtain rfl := Except.ok.inj h
    rfl
  | other field =>
    obtain rfl := Except.ok.inj h
    rfl
  | position v => exact absurd rfl hfield
  | properties v | config v | settings _ _ v =>
    obtain ⟨_, -, h⟩ := exists_of_bind_eq_ok h
    obtain rfl := Except.ok.inj h
    rfl

theorem samePlace_changeAll (n : Node) {cs : List Change}
    (hcs : ∀ c ∈ cs, c.field ≠ "position") : (n.changeAll cs).1.SamePlace n := by
  refine ⟨(n.sameShape_changeAll cs).1.pins, ?_⟩
  induction cs generalizing n with
  | nil => rfl
  | cons c rest ih =>
    rw [changeAll]
    cases h : n.change c with
    | error f => rfl
    | ok m =>
      have hrest := ih m fun b hb ↦ hcs b (List.mem_cons_of_mem _ hb)
      exact hrest.trans (position_of_change h (hcs c List.mem_cons_self))

end Node

namespace Diagram

/-- Is this where the end of a connection belongs? An end whose pin its node does not have belongs
nowhere in particular. -/
def PointsAt (d : Diagram) (t : Terminal) (p : Point) : Prop :=
  ∀ n, d.nodes.find? t.node = some n → t.pin ∈ n.pins.map Pin.id → p = n.anchor t.pin

/-- Both points of every connection are where its ends belong. -/
def IsAnchored (d : Diagram) : Prop :=
  ∀ b ∈ d.connections, d.PointsAt b.source b.sourcePoint ∧ d.PointsAt b.target b.targetPoint

theorem isAnchored_empty : IsAnchored .empty := nofun

variable {d d' : Diagram}

/-- Is each node under one of some keys where it was before, with the pins that it had? -/
def KeepsPlaces (d d' : Diagram) (keys : List String) : Prop :=
  ∀ k ∈ keys, ∀ n', d'.nodes.find? k = some n' → ∃ n, d.nodes.find? k = some n ∧ n'.SamePlace n

theorem PointsAt.of_keepsPlaces {keys : List String} {t : Terminal} {p : Point}
    (h : d.PointsAt t p) (hkept : KeepsPlaces d d' keys) (ht : t.node ∈ keys) :
    d'.PointsAt t p := by
  intro n' hn' hpin
  obtain ⟨n, hn, hplace⟩ := hkept t.node ht n' hn'
  rw [h n hn (hplace.pins ▸ hpin), hplace.anchor hpin]

/-- **Keeping the nodes in their places keeps the points right**, where no connection is new. -/
theorem IsAnchored.of_keepsPlaces (h : d.IsAnchored) (hd : d.Consistent)
    (hsub : d'.connections ⊆ d.connections) (hkept : KeepsPlaces d d' d.nodes.keys) :
    d'.IsAnchored := by
  intro b hb
  have hold := hsub hb
  exact ⟨(h b hold).1.of_keepsPlaces hkept (hd.source_mem b hold),
    (h b hold).2.of_keepsPlaces hkept (hd.target_mem b hold)⟩

/-! ### Entering and taking away -/

/-- A node that is entered under a new key moves no other. -/
theorem IsAnchored.put (h : d.IsAnchored) (hd : d.Consistent) {n : Node}
    (hfresh : n.id ∉ d.nodes.keys) : (d.put n).IsAnchored := by
  refine h.of_keepsPlaces hd (List.Subset.refl _) fun k hk n' hn' ↦ ?_
  rw [Diagram.put, Table.find?_insert, if_neg (ne_of_mem_of_not_mem hk hfresh)] at hn'
  exact ⟨n', hn', .refl n'⟩

theorem keepsPlaces_foldl_rebind (d : Diagram) (affected keys : List String) :
    KeepsPlaces d (affected.foldl rebind d) keys := by
  intro k _ n' hn'
  rw [find?_foldl_rebind] at hn'
  obtain ⟨n, hn, rfl⟩ := Option.map_eq_some_iff.1 hn'
  refine ⟨n, hn, ?_⟩
  split
  · exact Node.samePlace_of_reset_eq (reset_rebound k d.connections n)
  · exact .refl n

theorem IsAnchored.remove (h : d.IsAnchored) (hd : d.Consistent) (node : String) :
    (d.remove node).IsAnchored := by
  refine h.of_keepsPlaces hd (connections_remove_subset d node) fun k hk n' hn' ↦ ?_
  rw [Diagram.remove] at hn'
  split at hn'
  · obtain ⟨n, hn, hplace⟩ := keepsPlaces_foldl_rebind _ _ d.nodes.keys k hk n' hn'
    rw [Table.find?_erase] at hn
    split at hn
    · cases hn
    · exact ⟨n, hn, hplace⟩
  · exact ⟨n', hn', .refl n'⟩

theorem IsAnchored.disconnect (h : d.IsAnchored) (hd : d.Consistent) (id : String) :
    (d.disconnect id).IsAnchored := by
  refine h.of_keepsPlaces hd (connections_disconnect_subset d id) fun k hk n' hn' ↦ ?_
  rw [Diagram.disconnect] at hn'
  cases hc : d.connection? id with
  | none =>
    rw [hc] at hn'
    exact ⟨n', hn', .refl n'⟩
  | some c =>
    rw [hc] at hn'
    exact keepsPlaces_foldl_rebind ⟨d.nodes, d.connections.eraseP (·.id = id)⟩ [c.target.node]
      d.nodes.keys k hk n' hn'

/-! ### Drawing -/

/-- A connection drawn from anchor to anchor has its points right, and it moves no node. -/
theorem IsAnchored.withDrawn (h : d.IsAnchored) (hd : d.Consistent) {b : Connection} {s t : Node}
    (hs : d.nodes.find? b.source.node = some s) (ht : d.nodes.find? b.target.node = some t)
    (hsource : b.sourcePoint = s.anchor b.source.pin)
    (htarget : b.targetPoint = t.anchor b.target.pin) : (d.withDrawn b).IsAnchored := by
  have hkept : KeepsPlaces d (d.withDrawn b) d.nodes.keys := by
    intro k _ n' hn'
    rw [find?_withDrawn] at hn'
    obtain ⟨n, hn, rfl⟩ := Option.map_eq_some_iff.1 hn'
    exact ⟨n, hn, n.samePlace_fedBy b⟩
  have hpoints : ∀ (e : Terminal) (n : Node), d.nodes.find? e.node = some n →
      d.PointsAt e (n.anchor e.pin) := by
    intro e n hn m hm _
    rw [Option.some.inj (hn.symm.trans hm)]
  intro b' hb'
  rcases List.mem_append.1 hb' with hold | hnew
  · exact ⟨(h b' hold).1.of_keepsPlaces hkept (hd.source_mem b' hold),
      (h b' hold).2.of_keepsPlaces hkept (hd.target_mem b' hold)⟩
  · obtain rfl := List.mem_singleton.1 hnew
    rw [hsource, htarget]
    exact ⟨(hpoints _ s hs).of_keepsPlaces hkept (Table.mem_keys_of_find? hs),
      (hpoints _ t ht).of_keepsPlaces hkept (Table.mem_keys_of_find? ht)⟩

/-! ### Moving -/

/-- A node that is not changed is in its place, and a changed one is, too, if no change is one of
its position. -/
theorem keepsPlaces_update (d : Diagram) {id : String} {changes : List Change} {keys : List String}
    (hkeys : id ∉ keys ∨ ∀ c ∈ changes, c.field ≠ "position") :
    KeepsPlaces d (d.update id changes).1 keys := by
  intro k hk n' hn'
  rw [update] at hn'
  cases hoperand : Change.operand? changes with
  | some operand =>
    rw [hoperand] at hn'
    exact ⟨n', hn', .refl n'⟩
  | none =>
    rw [hoperand] at hn'
    cases hn : d.nodes.find? id with
    | none =>
      rw [hn] at hn'
      exact ⟨n', hn', .refl n'⟩
    | some n =>
      simp only [hn, Table.find?_modify] at hn'
      by_cases hid : k = id
      · rw [if_pos hid, hid, hn, Option.map_some] at hn'
        rw [hid, ← Option.some.inj hn']
        exact ⟨n, hn, n.samePlace_changeAll (hkeys.resolve_left fun hno ↦ hno (hid ▸ hk))⟩
      · rw [if_neg hid] at hn'
        exact ⟨n', hn', .refl n'⟩

end Diagram

namespace Canvas

open Diagram

/-- Drawing the connections of a node anew makes their points right; those of the others have to be
right already. -/
theorem isAnchored_reanchorAll {d : Diagram} {node : String} (h : ∀ b ∈ d.connections,
    b.touches node = false → d.PointsAt b.source b.sourcePoint ∧ d.PointsAt b.target b.targetPoint) :
    (reanchorAll d node).IsAnchored := by
  intro b hb
  obtain ⟨old, hold, rfl⟩ := List.mem_map.1 hb
  cases htouch : old.touches node with
  | false =>
    simp only [Bool.false_eq_true, if_false]
    exact h old hold htouch
  | true =>
    simp only [if_true]
    constructor
    · intro n hn _
      have hn' : d.nodes.find? old.source.node = some n := hn
      simp only [reanchor, hn', Option.map_some, Option.getD_some]
    · intro n hn _
      have hn' : d.nodes.find? old.target.node = some n := hn
      simp only [reanchor, hn', Option.map_some, Option.getD_some]

/-- The points of all connections are right after an update that is not at fault: a node that it
moves is not an end of the connections that are left as they are. -/
theorem isAnchored_update {c : Canvas} (h : c.diagram.IsAnchored) (hc : c.diagram.Consistent) {id : String}
    {changes : List Change} (hok : (c.update id changes).result.isOk = true) :
    (c.update id changes).canvas.diagram.IsAnchored := by
  have hconnections := connections_update c.diagram id changes
  rw [Canvas.update] at hok ⊢
  cases hoperand : Change.operand? changes with
  | some operand => exact h
  | none =>
    by_cases hid : c.diagram.nodes.contains id = true
    · simp only [hoperand, if_pos hid] at hok ⊢
      rcases heq : c.diagram.update id changes with ⟨d, f | u⟩
      · simp [heq, Except.isOk, Except.toBool] at hok
      · obtain rfl : d = (c.diagram.update id changes).1 := by rw [heq]
        by_cases hmoved : (changes.any fun change ↦ change.field = "position") = true
        · simp only [if_pos hmoved]
          refine isAnchored_reanchorAll fun b hb htouch ↦ ?_
          have hends : b.source.node ≠ id ∧ b.target.node ≠ id := by
            simpa [Connection.touches] using htouch
          have hold := hconnections ▸ hb
          have hkept : KeepsPlaces c.diagram (c.diagram.update id changes).1
              [b.source.node, b.target.node] :=
            keepsPlaces_update c.diagram (Or.inl (by simp [hends.1.symm, hends.2.symm]))
          exact ⟨(h b hold).1.of_keepsPlaces hkept (by simp),
            (h b hold).2.of_keepsPlaces hkept (by simp)⟩
        · simp only [if_neg hmoved]
          refine h.of_keepsPlaces hc (fun _ hb ↦ hconnections ▸ hb)
            (keepsPlaces_update c.diagram (Or.inr fun change hchange hfield ↦ hmoved ?_))
          exact List.any_eq_true.2 ⟨change, hchange, decide_eq_true hfield⟩
    · simp only [if_neg hid]
      exact h

variable {c : Canvas}

/-- **One action** that is not at fault leaves the points of all connections right. -/
theorem isAnchored_act (h : c.diagram.IsAnchored) (hc : c.diagram.Consistent) {a : Action}
    (hfresh : a.IsFresh c) (hok : a.Succeeds c) : (c.act a).diagram.IsAnchored := by
  cases a with
  | add token kind properties category position =>
    show (c.add token kind properties category position).canvas.diagram.IsAnchored
    rw [Canvas.add]
    cases position.elim c.viewport.center .ok with
    | error f => exact h
    | ok p => exact h.put hc hfresh
  | update id changes => exact isAnchored_update h hc hok
  | remove id =>
    show (c.remove id).canvas.diagram.IsAnchored
    rw [Canvas.remove]
    split
    · exact h.remove hc id
    · exact h
  | select id =>
    show (c.select id).canvas.diagram.IsAnchored
    rcases c.canvas_select id with heq | ⟨heq, -⟩
    · rw [heq]
      exact h
    · rw [heq]
      exact h
  | connect token source target =>
    show (c.connect token source target).canvas.diagram.IsAnchored
    rcases connect_cases hc token source target with heq | ⟨s, t, drawn, hs, ht, -, rfl, heq⟩
    · rw [heq]
      exact h
    · rw [heq]
      exact h.withDrawn hc hs ht rfl rfl
  | disconnect id =>
    show (c.disconnect id).canvas.diagram.IsAnchored
    rw [Canvas.disconnect]
    split
    · exact h.disconnect hc id
    · exact h
  | setZoom zoom => exact h
  | panBy dx dy => exact h
  | clear => exact isAnchored_empty

theorem Orderly.isAnchored (h : Orderly c) : c.diagram.IsAnchored := by
  induction h with
  | new config width height => exact isAnchored_empty
  | step a h hfresh hok ih => exact isAnchored_act ih h.reachable.consistent hfresh hok

/-! ### The selection -/

/-- Nothing is selected but a node of the diagram. -/
def SelectionExists (c : Canvas) : Prop :=
  ∀ id, c.selected = some id → id ∈ c.diagram.nodes.keys

theorem SelectionExists.of_subset {c' : Canvas} (h : c.SelectionExists)
    (hselected : c'.selected = c.selected)
    (hkeys : c.diagram.nodes.keys ⊆ c'.diagram.nodes.keys) : c'.SelectionExists :=
  fun id hid ↦ hkeys (h id (hselected ▸ hid))

/-- A node that is taken away is no longer selected. -/
theorem SelectionExists.remove (h : c.SelectionExists) (id : String) :
    (c.remove id).canvas.SelectionExists := by
  rw [Canvas.remove]
  split
  · intro k hk
    -- what is selected still is not the node that is gone
    have hsel : c.selected = some k ∧ k ≠ id := by
      by_cases hsame : c.selected = some id
      · simp [hsame] at hk
      · simp only [if_neg hsame] at hk
        exact ⟨hk, fun hkid ↦ hsame (hkid ▸ hk)⟩
    show k ∈ (c.diagram.remove id).nodes.keys
    rw [Diagram.keys_remove, List.mem_filter]
    exact ⟨h k hsel.1, decide_eq_true hsel.2⟩
  · exact h

/-- **One action** leaves the selection right, at fault or not. -/
theorem SelectionExists.act (h : c.SelectionExists) (hc : c.diagram.Consistent) (a : Action) :
    (c.act a).SelectionExists := by
  cases a with
  | add token kind properties category position =>
    show (c.add token kind properties category position).canvas.SelectionExists
    rw [Canvas.add]
    cases position.elim c.viewport.center .ok with
    | error f => exact h
    | ok p =>
      refine h.of_subset rfl fun k hk ↦ ?_
      show k ∈ (c.diagram.nodes.insert (nodeId token) _).keys
      rw [Table.keys_insert]
      split
      · exact hk
      · exact List.mem_append_left _ hk
  | update id changes =>
    show (c.update id changes).canvas.SelectionExists
    have hkeys := keys_update c.diagram id changes
    rcases c.canvas_update id changes with heq | heq | heq
    · rw [heq]
      exact h
    · rw [heq]
      exact h.of_subset rfl fun _ hk ↦ hkeys ▸ hk
    · rw [heq]
      exact h.of_subset rfl fun _ hk ↦ hkeys ▸ hk
  | remove id => exact h.remove id
  | select id =>
    show (c.select id).canvas.SelectionExists
    rcases c.canvas_select id with heq | ⟨heq, hid⟩
    · rw [heq]
      exact h
    · rw [heq]
      exact hid
  | connect token source target =>
    show (c.connect token source target).canvas.SelectionExists
    rcases connect_cases hc token source target with heq | ⟨s, t, drawn, -, -, -, -, heq⟩
    · rw [heq]
      exact h
    · rw [heq]
      exact h.of_subset rfl fun _ hk ↦ (keys_withDrawn c.diagram drawn).symm ▸ hk
  | disconnect id =>
    show (c.disconnect id).canvas.SelectionExists
    rw [Canvas.disconnect]
    split
    · exact h.of_subset rfl fun _ hk ↦ (keys_disconnect c.diagram id).symm ▸ hk
    · exact h
  | setZoom zoom => exact h
  | panBy dx dy => exact h
  | clear =>
    intro k hk
    cases hk

theorem Reachable.selectionExists (h : Reachable c) : c.SelectionExists := by
  induction h with
  | new config width height => exact nofun
  | step a h _ ih => exact ih.act h.consistent a

/-! ### Sessions -/

/-- **What a session shows is right** as long as no action is at fault: the selected node exists,
and wherever the end of a connection is a pin of its node, the connection is drawn there. -/
theorem Orderly.drawn_at_anchors (h : Orderly c) :
    (c.selected = none ∨ ∃ id, c.selected = some id ∧ id ∈ c.diagram.nodes.keys) ∧
      ∀ b ∈ c.diagram.connections, ∃ s t, c.diagram.nodes.find? b.source.node = some s ∧
        c.diagram.nodes.find? b.target.node = some t ∧
        (b.source.pin ∈ s.pins.map Pin.id → b.sourcePoint = s.anchor b.source.pin) ∧
        (b.target.pin ∈ t.pins.map Pin.id → b.targetPoint = t.anchor b.target.pin) := by
  have hd := h.reachable.consistent
  constructor
  · cases hid : c.selected with
    | none => exact Or.inl rfl
    | some id => exact Or.inr ⟨id, rfl, h.reachable.selectionExists id hid⟩
  · intro b hb
    obtain ⟨s, hs⟩ := Table.exists_find?_of_mem_keys (hd.source_mem b hb)
    obtain ⟨t, ht⟩ := Table.exists_find?_of_mem_keys (hd.target_mem b hb)
    have hb' := h.isAnchored b hb
    exact ⟨s, t, hs, ht, hb'.1 s hs, hb'.2 t ht⟩

/-- A connection follows the node that it lands on when this is moved. -/
theorem exists_drawn_after_move :
    ∃ c b s t, Orderly c ∧ c.selected = some "node_000000000002" ∧
      c.diagram.nodes.find? b.source.node = some s ∧ c.diagram.nodes.find? b.target.node = some t ∧
      b ∈ c.diagram.connections ∧ b.source = ⟨"node_000000000001", "result"⟩ ∧
      b.target = ⟨"node_000000000002", "left"⟩ ∧ t.position.x == 40 ∧
      b.sourcePoint = s.anchor "result" ∧ b.targetPoint = t.anchor "left" := by
  let c := (new .default none none).actAll
    [.add "000000000001" "arithmetic" .empty none none,
      .add "000000000002" "comparison" .empty none none,
      .connect "000000000003" ⟨"node_000000000001", "result"⟩ ⟨"node_000000000002", "left"⟩,
      .select (some "node_000000000002"),
      .update "node_000000000002" [.position (.arr [.float 40, .float 30])]]
  have h : Orderly c := (Orderly.new .default none none).actAll (by decide +kernel)
  have hdrawn : c.diagram.connections.head?.map (fun b ↦ (b.source, b.target)) =
      some (⟨"node_000000000001", "result"⟩, ⟨"node_000000000002", "left"⟩) := by decide +kernel
  obtain ⟨b, hb, heq⟩ := Option.map_eq_some_iff.1 hdrawn
  obtain ⟨hsource, htarget⟩ := Prod.mk.inj heq
  obtain ⟨s, t, hs, ht, hfrom, hto⟩ := h.drawn_at_anchors.2 b (List.mem_of_head? hb)
  rw [hsource] at hs hfrom
  rw [htarget] at ht hto
  have hresult : (c.diagram.nodes.find? "node_000000000001").map (fun n ↦
      decide ("result" ∈ n.pins.map Pin.id)) = some true := by decide +kernel
  have hleft : (c.diagram.nodes.find? "node_000000000002").map (fun n ↦
      decide ("left" ∈ n.pins.map Pin.id) && n.position.x == 40) = some true := by decide +kernel
  rw [hs, Option.map_some, Option.some.injEq, decide_eq_true_eq] at hresult
  rw [ht, Option.map_some, Option.some.injEq, Bool.and_eq_true, decide_eq_true_eq] at hleft
  have hselected : c.selected = some "node_000000000002" := by decide +kernel
  exact ⟨c, b, s, t, h, hselected, hsource ▸ hs, htarget ▸ ht, List.mem_of_head? hb, hsource,
    htarget, hleft.2, hfrom hresult, hto hleft.1⟩

end Canvas

end FlowCanvas
