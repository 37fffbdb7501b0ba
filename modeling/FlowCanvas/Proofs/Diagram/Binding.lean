import FlowCanvas.Proofs.Diagram.Shape
import Mathlib.Data.List.Induction

/-!
# What the inputs of a node are bound to

`boundBy` says what the inputs of a node are in view of some connections: the slot names, over which
each data connection that lands on an input pin of the node writes its source, one after the other.
It speaks of pins by their place, and not of how an operation finds the place of a pin.

Diagrams get there in two ways. Drawing a connection writes one entry (`bindIfPossible_eq_feed`),
taking connections away starts again from the slots (`rebound_eq`). Both need that a pin's id belongs
to one place only, which `IsStandard.nodup_inputPins` gives. That the two agree after every history
is then a matter of which connections land on a node: those that do not can be left out
(`boundBy_filter`).
-/

namespace FlowCanvas

namespace Node

/-- Does a connection carry a value to the node's i-th input pin? -/
def IsFedBy (n : Node) (c : Connection) (i : Nat) : Prop :=
  c.signal = .data ∧ c.target.node = n.id ∧ (n.inputPins[i]?).map Pin.id = some c.target.pin

instance (n : Node) (c : Connection) (i : Nat) : Decidable (n.IsFedBy c i) :=
  inferInstanceAs (Decidable (_ ∧ _ ∧ _))

/-- Writes the source of a connection over the entry of the input that it feeds. -/
def feed (n : Node) (inputs : List String) (c : Connection) : List String :=
  inputs.mapIdx fun i entry ↦ if n.IsFedBy c i then c.source.node else entry

/-- The inputs of a node as some connections bind them, the last one on a pin counting. -/
def boundBy (n : Node) (connections : List Connection) : List String :=
  connections.foldl n.feed n.slots

/-! ### Entries -/

@[simp] theorem length_feed (n : Node) (inputs : List String) (c : Connection) :
    (n.feed inputs c).length = inputs.length := List.length_mapIdx

theorem getElem?_feed (n : Node) (inputs : List String) (c : Connection) (i : Nat) :
    (n.feed inputs c)[i]? =
      (inputs[i]?).map fun entry ↦ if n.IsFedBy c i then c.source.node else entry :=
  List.getElem?_mapIdx

/-- A connection that does not land on the node with a value leaves the inputs as they are. -/
theorem feed_eq_self {n : Node} {inputs : List String} {c : Connection}
    (h : ¬ (c.signal = .data ∧ c.target.node = n.id)) : n.feed inputs c = inputs := by
  refine List.ext_getElem? fun i ↦ ?_
  have hno : ¬ n.IsFedBy c i := fun hf ↦ h ⟨hf.1, hf.2.1⟩
  rw [getElem?_feed]
  simp only [hno, if_false, Option.map_id']

/-- Feeding looks at the signal and the ends of a connection, and at nothing else. -/
theorem feed_congr {b c : Connection} (hsource : b.source = c.source) (htarget : b.target = c.target)
    (hsignal : b.signal = c.signal) (n : Node) (inputs : List String) :
    n.feed inputs b = n.feed inputs c := by
  have hfed : ∀ i, n.IsFedBy b i ↔ n.IsFedBy c i := fun i ↦ by
    rw [IsFedBy, IsFedBy, htarget, hsignal]
  simp only [feed, hfed, hsource]

theorem length_foldl_feed (n : Node) (connections : List Connection) (inputs : List String) :
    (connections.foldl n.feed inputs).length = inputs.length := by
  induction connections generalizing inputs with
  | nil => rfl
  | cons c rest ih => rw [List.foldl_cons, ih, length_feed]

theorem length_boundBy (n : Node) (connections : List Connection) :
    (n.boundBy connections).length = n.slots.length := n.length_foldl_feed connections n.slots

theorem boundBy_append_singleton (n : Node) (connections : List Connection) (c : Connection) :
    n.boundBy (connections ++ [c]) = n.feed (n.boundBy connections) c := by
  rw [boundBy, List.foldl_append]
  rfl

/-- An entry is the name of its slot, or the source of a connection to its pin. -/
theorem eq_slot_or_fed_of_mem_boundBy {n : Node} {connections : List Connection} {i : Nat}
    {entry : String} (h : (n.boundBy connections)[i]? = some entry) :
    n.slots[i]? = some entry ∨ ∃ c ∈ connections, n.IsFedBy c i ∧ c.source.node = entry := by
  -- from the end, since the last connection to a pin is the one that counts
  induction connections using List.reverseRecOn generalizing entry with
  | nil => exact Or.inl h
  | append_singleton rest c ih =>
    rw [boundBy_append_singleton, getElem?_feed] at h
    obtain ⟨earlier, hearlier, hentry⟩ := Option.map_eq_some_iff.1 h
    by_cases hc : n.IsFedBy c i
    · rw [if_pos hc] at hentry
      exact Or.inr ⟨c, by simp, hc, hentry⟩
    · rw [if_neg hc] at hentry
      rcases ih (hentry ▸ hearlier) with hslot | ⟨b, hb, hfed⟩
      · exact Or.inl hslot
      · exact Or.inr ⟨b, List.mem_append_left _ hb, hfed⟩

/-- Only the connections that land on the node with a value count. -/
theorem boundBy_filter {n : Node} {connections : List Connection} {keep : Connection → Bool}
    (h : ∀ c ∈ connections, c.signal = .data → c.target.node = n.id → keep c = true) :
    n.boundBy (connections.filter keep) = n.boundBy connections := by
  induction connections using List.reverseRecOn with
  | nil => rfl
  | append_singleton rest c ih =>
    have hrest := ih fun b hb ↦ h b (List.mem_append_left _ hb)
    rw [List.filter_append, boundBy_append_singleton]
    by_cases hc : keep c = true
    · rw [List.filter_cons_of_pos hc, List.filter_nil, boundBy_append_singleton, hrest]
    · rw [List.filter_cons_of_neg hc, List.filter_nil, List.append_nil, hrest, feed_eq_self]
      exact fun hl ↦ hc (h c (by simp) hl.1 hl.2)

theorem SameShape.boundBy {n m : Node} (h : n.SameShape m) (connections : List Connection) :
    n.boundBy connections = m.boundBy connections := by
  have hfed : ∀ c i, n.IsFedBy c i ↔ m.IsFedBy c i := fun c i ↦ by
    rw [IsFedBy, IsFedBy, h.id, h.inputPins]
  have hfeed : n.feed = m.feed := by
    funext inputs c
    simp only [feed, hfed]
  rw [Node.boundBy, hfeed, h.slots, Node.boundBy]

/-! ### Binding -/

/-- The place of a pin is that of its slot. -/
theorem slotIndex?_eq_some_iff {n : Node} (h : (n.inputPins.map Pin.id).Nodup) {pin : String}
    {i : Nat} : n.slotIndex? pin = some i ↔
      (n.inputPins[i]?).map Pin.id = some pin ∧ i < n.slots.length := by
  rw [slotIndex?, Option.filter_eq_some_iff, decide_eq_true_eq, List.findIdx?_eq_some_iff_getElem]
  refine and_congr_left fun _ ↦ ?_
  constructor
  · rintro ⟨hi, hid, -⟩
    rw [List.getElem?_eq_getElem hi, Option.map_some, of_decide_eq_true hid]
  · intro hid
    obtain ⟨p, hp, rfl⟩ := Option.map_eq_some_iff.1 hid
    obtain ⟨hi, rfl⟩ := List.getElem?_eq_some_iff.1 hp
    refine ⟨hi, decide_eq_true rfl, fun j hj hjid ↦ ?_⟩
    have heq : n.inputPins[j].id = n.inputPins[i].id := of_decide_eq_true hjid
    -- the ids differ, so this is the same place
    have hi' : i < (n.inputPins.map Pin.id).length := by simpa using hi
    have hj' : j < (n.inputPins.map Pin.id).length := Nat.lt_trans hj hi'
    have heq' : (n.inputPins.map Pin.id)[j] = (n.inputPins.map Pin.id)[i] := by simpa using heq
    exact absurd (h.getElem_inj_iff.1 heq') (Nat.ne_of_lt hj)

/-- Binding behind the pin that a data connection lands on writes its source there. -/
theorem bindIfPossible_eq_feed {n : Node} (hpins : (n.inputPins.map Pin.id).Nodup)
    (hl : n.inputs.length = n.slots.length) {c : Connection} (hc : c.signal = .data)
    (ht : c.target.node = n.id) :
    n.bindIfPossible c.target.pin c.source.node = { n with inputs := n.feed n.inputs c } := by
  rw [bindIfPossible_eq hl]
  cases hs : n.slotIndex? c.target.pin with
  | none =>
    -- no input in reach of the slots lies behind this pin, so nothing is written
    have hself : n.feed n.inputs c = n.inputs := by
      refine List.ext_getElem? fun i ↦ ?_
      rw [getElem?_feed]
      by_cases hi : i < n.inputs.length
      · have hno : ¬ n.IsFedBy c i := fun hf ↦ by
          rw [(slotIndex?_eq_some_iff hpins).2 ⟨hf.2.2, hl ▸ hi⟩] at hs
          exact absurd hs nofun
        simp only [hno, if_false, Option.map_id']
      · rw [List.getElem?_eq_none (Nat.le_of_not_lt hi)]
        rfl
    rw [hself]
  | some i =>
    obtain ⟨hid, hi⟩ := (slotIndex?_eq_some_iff hpins).1 hs
    have hset : n.inputs.set i c.source.node = n.feed n.inputs c := by
      refine List.ext_getElem? fun j ↦ ?_
      rw [getElem?_feed, List.getElem?_set]
      -- the pin's place is `i`, and no other pin has its id
      by_cases hij : i = j
      · subst hij
        have hfed : n.IsFedBy c i := ⟨hc, ht, hid⟩
        have hi' : i < n.inputs.length := hl ▸ hi
        simp [hfed, hi']
      · by_cases hj : j < n.inputs.length
        · have hno : ¬ n.IsFedBy c j := fun hf ↦ by
            have := (slotIndex?_eq_some_iff hpins).2 ⟨hf.2.2, hl ▸ hj⟩
            rw [hs] at this
            exact hij (Option.some.inj this)
          simp [hij, hno]
        · simp [hij, List.getElem?_eq_none (Nat.le_of_not_lt hj)]
    exact congrArg (fun inputs ↦ { n with inputs }) hset

end Node

namespace Diagram

/-- Recomputing the inputs of a node gives what its connections bind. -/
theorem rebound_eq {n : Node} (hpins : (n.inputPins.map Pin.id).Nodup)
    (connections : List Connection) :
    rebound n.id connections n = { n with inputs := n.boundBy connections } := by
  -- for a node whose inputs have the length of its slots, in whatever state they are
  have key : ∀ m : Node, m.inputPins = n.inputPins → m.id = n.id →
      m.inputs.length = m.slots.length →
      (connections.filter fun c ↦ c.target.node = n.id && c.signal = .data).foldl
        (fun m c ↦ m.bindIfPossible c.target.pin c.source.node) m =
          { m with inputs := connections.foldl m.feed m.inputs } := by
    intro m hp hid hl
    induction connections generalizing m with
    | nil => rfl
    | cons c rest ih =>
      by_cases hc : c.target.node = n.id ∧ c.signal = .data
      · rw [List.filter_cons_of_pos (by simpa using hc), List.foldl_cons, List.foldl_cons,
          Node.bindIfPossible_eq_feed (hp ▸ hpins) hl hc.2 (hc.1.trans hid.symm),
          ih { m with inputs := m.feed m.inputs c } hp hid (by rw [m.length_feed]; exact hl)]
        rfl
      · rw [List.filter_cons_of_neg (by simpa using hc), List.foldl_cons, ih m hp hid hl,
          Node.feed_eq_self (fun hl ↦ hc ⟨hid ▸ hl.2, hl.1⟩)]
  exact key n.reset rfl rfl rfl

theorem sameShape_rebound (key : String) (connections : List Connection) (n : Node) :
    (rebound key connections n).SameShape n := by
  have h : ∀ (cs : List Connection) (m : Node),
      (cs.foldl (fun m c ↦ m.bindIfPossible c.target.pin c.source.node) m).SameShape m := by
    intro cs
    induction cs with
    | nil => exact fun m ↦ .refl m
    | cons c rest ih => exact fun m ↦ (ih _).trans (m.sameShape_bindIfPossible _ _)
  exact (h _ n.reset).trans n.sameShape_reset

end Diagram

end FlowCanvas
