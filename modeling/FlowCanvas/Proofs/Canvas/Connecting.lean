import FlowCanvas.Proofs.Canvas.History
import FlowCanvas.Proofs.Diagram.Drawing

/-!
# Connecting on a canvas

A canvas answers twice whether two nodes may be connected: before, when it is only asked
(`canConnect`), and when it connects. Both answers are those of the diagram, so they agree. What
could come between them is a fault in the binding of the target, after the connection is drawn; on
a consistent diagram inputs are as long as slots, and there is none (`connect_cases`).

What is drawn depends on the two pins alone, and besides the connection at most one entry of one
node is written (`Consistent.nodes_withDrawn_eq`).
-/

namespace FlowCanvas

namespace Node

/-- Does a name on a node stand for the flow of execution? It is the id of an execution pin, or it
is no pin's id and the name of the signal itself. -/
def MeansExecution (n : Node) (pin : String) : Prop :=
  (∃ p, n.pin? pin = some p ∧ p.signal = .execution) ∨ (n.pin? pin = none ∧ pin = "execution")

theorem isExecution_iff {n : Node} {pin : String} :
    n.isExecution pin = true ↔ n.MeansExecution pin := by
  rw [isExecution, MeansExecution]
  cases n.pin? pin with
  | none =>
    refine ⟨fun h ↦ Or.inr ⟨rfl, of_decide_eq_true h⟩, ?_⟩
    rintro (⟨p, hp, -⟩ | ⟨-, rfl⟩)
    · cases hp
    · rfl
  | some p => simp

/-- A declared input stands behind the input pin with this id, at this place. -/
def HasSlotAt (n : Node) (pin : String) (i : Nat) : Prop :=
  (n.inputPins[i]?).map Pin.id = some pin ∧ i < n.slots.length

/-- Where the type of a pin is fixed, it has a name. -/
theorem IsStandard.dataType?_ne_empty {n : Node} (h : n.IsStandard) (pin : String) :
    n.dataType? pin ≠ some "" := by
  have hc : ∀ c : Construct, ∀ p ∈ c.pins, p.dataType ≠ some "" := by
    intro c
    cases c <;> decide
  intro hempty
  obtain ⟨p, hp, htype⟩ := Option.bind_eq_some_iff.1 hempty
  have hmem : p ∈ Catalog.pins n.kind n.category := h.pins ▸ List.mem_of_find?_eq_some hp
  rw [Catalog.pins] at hmem
  split at hmem
  · exact hc _ p hmem htype
  · exact List.not_mem_nil hmem

end Node

namespace Connection

variable {s t : Node} {sourcePin targetPin : String}

theorem signalBetween_eq_execution_iff : signalBetween s t sourcePin targetPin = .execution ↔
    s.MeansExecution sourcePin ∨ t.MeansExecution targetPin := by
  rw [signalBetween, ← Node.isExecution_iff, ← Node.isExecution_iff, ← Bool.or_eq_true]
  split
  · next h => exact iff_of_true rfl h
  · next h => exact iff_of_false (by decide) h

theorem dataTypeBetween_eq (hs : s.dataType? sourcePin ≠ some "") :
    dataTypeBetween s t sourcePin targetPin =
      (s.dataType? sourcePin).or (t.dataType? targetPin) := by
  rw [dataTypeBetween]
  cases htype : s.dataType? sourcePin with
  | none => rfl
  | some name =>
    have hname : name.isEmpty ≠ true := fun hempty ↦
      hs (htype.trans (congrArg some (String.isEmpty_iff.1 hempty)))
    simp only [if_neg hname]
    rfl

end Connection

namespace Diagram

variable {d : Diagram}

/-- **What drawing writes.** If a value lands on a pin behind which an input is declared, the entry
of this input becomes the id of the source; otherwise no node changes. -/
theorem Consistent.nodes_withDrawn_eq (h : d.Consistent) {c : Connection} {t : Node}
    (ht : d.nodes.find? c.target.node = some t) :
    (∃ i, c.signal = .data ∧ t.HasSlotAt c.target.pin i ∧ i < t.inputs.length ∧
      (d.withDrawn c).nodes =
        d.nodes.modify c.target.node fun _ ↦ { t with inputs := t.inputs.set i c.source.node }) ∨
    ((∀ i, c.signal = .data → ¬ t.HasSlotAt c.target.pin i) ∧ (d.withDrawn c).nodes = d.nodes) := by
  have hnodes : (d.withDrawn c).nodes = d.nodes.modify c.target.node fun _ ↦ t.fedBy c :=
    (h.modify_fedBy ht).symm
  have hpins := (h.standard ht).nodup_inputPins
  have hl := h.length_inputs ht
  rw [hnodes]
  cases hsignal : c.signal with
  | execution =>
    have hself : t.fedBy c = t :=
      Node.fedBy_eq_self fun hf ↦ absurd (hsignal.symm.trans hf.1) nofun
    rw [hself, Table.modify_eq_self ht]
    exact Or.inr ⟨nofun, rfl⟩
  | data =>
    have hfed : t.fedBy c = t.bindIfPossible c.target.pin c.source.node :=
      (Node.bindIfPossible_eq_feed hpins hl hsignal (h.keyed ht).symm).symm
    rw [hfed, Node.bindIfPossible_eq hl]
    cases hslot : t.slotIndex? c.target.pin with
    | none =>
      rw [Table.modify_eq_self ht]
      refine Or.inr ⟨fun i _ hi ↦ ?_, rfl⟩
      rw [(Node.slotIndex?_eq_some_iff hpins).2 hi] at hslot
      exact absurd hslot nofun
    | some i =>
      have hi : t.HasSlotAt c.target.pin i := (Node.slotIndex?_eq_some_iff hpins).1 hslot
      exact Or.inl ⟨i, rfl, hi, hl ▸ hi.2, rfl⟩

end Diagram

namespace Canvas

open Diagram

variable {c : Canvas} {token : String}

/-- The question is whether both nodes exist, differ, and are not connected the other way round. -/
theorem canConnect_iff {source target : String} : c.canConnect source target = true ↔
    source ∈ c.diagram.nodes.keys ∧ target ∈ c.diagram.nodes.keys ∧ source ≠ target ∧
      ¬ Graph.Path c.diagram.edges target source := by
  rw [canConnect, admits, Bool.and_eq_true, Bool.and_eq_true, Bool.not_eq_true',
    ← Bool.not_eq_true, Graph.closesCycle_eq_true_iff, Table.contains_iff, Table.contains_iff,
    and_assoc]
  -- a loop is one of the paths
  have hne : ¬ Graph.Path c.diagram.edges target source → source ≠ target :=
    fun hpath heq ↦ hpath (heq ▸ .refl source)
  exact and_congr_right' (and_congr_right' ⟨fun h ↦ ⟨hne h, h⟩, And.right⟩)

theorem connect_of_not_canConnect (h : c.diagram.Consistent) {source target : Terminal}
    (hno : c.canConnect source.node target.node = false) :
    c.connect token source target = c.unchanged (.ok none) := by
  rcases connect_cases h token source target with heq | ⟨_, _, _, -, -, hyes, -, -⟩
  · exact heq
  · exact absurd (hyes.symm.trans hno) nofun

/-- What is admitted is drawn. -/
theorem connect_of_canConnect (h : c.diagram.Consistent) (token : String) {source target : Terminal}
    (hyes : c.canConnect source.node target.node = true) :
    ∃ s t drawn, c.diagram.nodes.find? source.node = some s ∧
      c.diagram.nodes.find? target.node = some t ∧
      drawn = .between (connectionId token) s t source target (s.anchor source.pin)
        (t.anchor target.pin) ∧
      c.connect token source target = ⟨{ c with diagram := c.diagram.withDrawn drawn },
        .ok (some drawn), [.connected drawn.id, .changed]⟩ := by
  obtain ⟨hsource, htarget, -⟩ := canConnect_iff.1 hyes
  obtain ⟨s, hs⟩ := Table.exists_find?_of_mem_keys hsource
  obtain ⟨t, ht⟩ := Table.exists_find?_of_mem_keys htarget
  refine ⟨s, t, _, hs, ht, rfl, ?_⟩
  rw [Canvas.connect, hs, ht]
  simp only [h.connect_of_admits hs ht hyes rfl]
  rfl

/-- What a connection drawn on a canvas is, and what it leaves. -/
structure Draws (c : Canvas) (token : String) (drawn : Connection) (c' : Canvas) (s t : Node) :
    Prop where
  id : drawn.id = connectionId token
  source : c.diagram.nodes.find? drawn.source.node = some s
  target : c.diagram.nodes.find? drawn.target.node = some t
  /-- It is for execution if either pin is. -/
  signal : drawn.signal = .execution ↔
    s.MeansExecution drawn.source.pin ∨ t.MeansExecution drawn.target.pin
  /-- What carries a value carries the type of the source pin, or else that of the target pin. -/
  dataType : drawn.dataType = if drawn.signal = .data then
    (s.dataType? drawn.source.pin).or (t.dataType? drawn.target.pin) else none
  /-- Where a value lands on a declared input, the entry of this input becomes the id of the source.
  Apart from that the connection is appended. -/
  canvas : ∃ nodes, c' = { c with diagram := ⟨nodes, c.diagram.connections ++ [drawn]⟩ } ∧
    ((∃ i, drawn.signal = .data ∧ t.HasSlotAt drawn.target.pin i ∧ i < t.inputs.length ∧
      nodes = c.diagram.nodes.modify drawn.target.node fun _ ↦
        { t with inputs := t.inputs.set i drawn.source.node }) ∨
    ((∀ i, drawn.signal = .data → ¬ t.HasSlotAt drawn.target.pin i) ∧ nodes = c.diagram.nodes))

theorem draws_between (h : c.diagram.Consistent) {source target : Terminal} {s t : Node}
    (hs : c.diagram.nodes.find? source.node = some s)
    (ht : c.diagram.nodes.find? target.node = some t) (p q : Point) :
    c.Draws token (.between (connectionId token) s t source target p q)
      { c with
        diagram := c.diagram.withDrawn (.between (connectionId token) s t source target p q) }
      s t where
  id := rfl
  source := hs
  target := ht
  signal := Connection.signalBetween_eq_execution_iff
  dataType := by
    rw [← Connection.dataTypeBetween_eq ((h.standard hs).dataType?_ne_empty _)]
    rfl
  canvas := ⟨_, rfl, h.nodes_withDrawn_eq ht⟩

/-- **Connecting is exact**, whatever token is drawn for it. It never fails. It draws a connection
just if the canvas says so when it is asked before, which it does just if both nodes exist and differ
and no connections lead from the target to the source. What is refused changes nothing, tells no one,
and would be refused in the same way with any other token, so none needs to be drawn; what is drawn
goes from the one pin to the other, and `Draws` says what it is and what it leaves. -/
theorem Reachable.connect_exact (h : Reachable c) (token : String) (source target : Terminal) :
    (c.canConnect source.node target.node = true ↔
      source.node ∈ c.diagram.nodes.keys ∧ target.node ∈ c.diagram.nodes.keys ∧
        source.node ≠ target.node ∧ ¬ Graph.Path c.diagram.edges target.node source.node) ∧
    ((∃ drawn, (c.connect token source target).result = .ok (some drawn)) ↔
      c.canConnect source.node target.node = true) ∧
    ((∀ drawn, (c.connect token source target).result ≠ .ok (some drawn)) →
      ∀ other, c.connect other source target = ⟨c, .ok none, []⟩) ∧
    ∀ drawn, (c.connect token source target).result = .ok (some drawn) →
      drawn.source = source ∧ drawn.target = target ∧
        (c.connect token source target).notices = [.connected drawn.id, .changed] ∧
        ∃ s t, c.Draws token drawn (c.connect token source target).canvas s t := by
  have hc := h.consistent
  refine ⟨canConnect_iff, ?_⟩
  cases hyes : c.canConnect source.node target.node with
  | false =>
    rw [connect_of_not_canConnect hc hyes]
    have hno : ∀ drawn,
        (c.unchanged (.ok none) : Outcome (Except Fault (Option Connection))).result ≠
          .ok (some drawn) := fun _ heq ↦ absurd (Except.ok.inj heq) nofun
    exact ⟨⟨fun ⟨drawn, heq⟩ ↦ absurd heq (hno drawn), nofun⟩,
      fun _ _ ↦ connect_of_not_canConnect hc hyes, fun drawn heq ↦ absurd heq (hno drawn)⟩
  | true =>
    obtain ⟨s, t, drawn, hs, ht, rfl, heq⟩ := connect_of_canConnect hc token hyes
    rw [heq]
    refine ⟨⟨fun _ ↦ rfl, fun _ ↦ ⟨_, rfl⟩⟩, fun hno ↦ absurd rfl (hno _), ?_⟩
    intro drawn hdrawn
    obtain rfl := Option.some.inj (Except.ok.inj hdrawn)
    exact ⟨rfl, rfl, rfl, s, t, draws_between hc hs ht _ _⟩

/-- A value is connected to the second operand of a comparison, and the way back is refused. -/
theorem exists_connect_then_refused :
    ∃ (c : Canvas) (drawn : Connection) (s t : Node), Reachable c ∧
      let a : Terminal := ⟨"node_7f", "result"⟩
      let b : Terminal := ⟨"node_2c", "right"⟩
      let c' := (c.connect "e0" a b).canvas
      drawn.source = a ∧ drawn.target = b ∧ c.Draws "e0" drawn c' s t ∧
        c'.diagram.nodes.values.map Node.inputs = [["left", "right"], ["left", "node_7f"]] ∧
        c'.canConnect b.node a.node = false ∧
        ∀ token, c'.connect token b a = ⟨c', .ok none, []⟩ := by
  let c := (new .default none none).actAll
    [.add "7f" "arithmetic" .empty none none, .add "2c" "comparison" .empty none none]
  have h : Reachable c := (Reachable.new .default none none).actAll (by decide +kernel)
  obtain ⟨-, hyes, -, hdrawn⟩ :=
    h.connect_exact "e0" ⟨"node_7f", "result"⟩ ⟨"node_2c", "right"⟩
  obtain ⟨drawn, heq⟩ := hyes.2 (by decide +kernel)
  obtain ⟨hsource, htarget, -, s, t, hdraws⟩ := hdrawn drawn heq
  have h' := h.step (.connect "e0" ⟨"node_7f", "result"⟩ ⟨"node_2c", "right"⟩) (by decide +kernel)
  obtain ⟨-, hback, hrefused, -⟩ :=
    h'.connect_exact "e1" ⟨"node_2c", "right"⟩ ⟨"node_7f", "result"⟩
  have hno : (c.act (.connect "e0" ⟨"node_7f", "result"⟩
      ⟨"node_2c", "right"⟩)).canConnect "node_2c" "node_7f" = false := by decide +kernel
  exact ⟨c, drawn, s, t, h, hsource, htarget, hdraws, by decide +kernel, hno,
    hrefused fun _ hback' ↦ absurd (hback.1 ⟨_, hback'⟩) (by rw [hno]; exact Bool.false_ne_true)⟩

end Canvas

end FlowCanvas
