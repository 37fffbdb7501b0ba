import FlowCanvas.Proofs.Diagram.Binding
import FlowCanvas.Proofs.Graph.Acyclic

/-!
# Consistent diagrams

`Consistent` collects what the operations of a diagram keep: nodes stand under their own ids and in
the shape of their kind, connections have ids of their own and end on nodes, they close no cycle,
and the inputs of a node are what its connections bind.

Each operation that adds something has a lemma of its own (`Consistent.insert`,
`Consistent.connect`). Those that take away share one (`Consistent.drop`): some connections stay, and
the nodes that a dropped connection landed on are bound anew. For these it is enough to know which
nodes are found under which keys afterwards (`find?_foldl_rebind`).

Two facts are in the invariant only so that others can be carried. A data connection never lands on
an execution pin (`data_target`), since the pins of a node never change; that keeps the slots for
the flow of execution free. And a new id is none of the keys, while both ends of a connection are,
so a new node starts without connections.
-/

namespace FlowCanvas

/-- The node with a connection's source written over the input that it feeds. -/
def Node.fedBy (n : Node) (c : Connection) : Node := { n with inputs := n.feed n.inputs c }

theorem Node.sameShape_fedBy (n : Node) (c : Connection) : (n.fedBy c).SameShape n :=
  ⟨rfl, rfl, rfl, rfl, rfl, rfl, rfl⟩

theorem Node.fedBy_eq_self {n : Node} {c : Connection}
    (h : ¬ (c.signal = .data ∧ c.target.node = n.id)) : n.fedBy c = n := by
  rw [fedBy, feed_eq_self h]

namespace Diagram

/-- What every operation keeps. -/
structure Consistent (d : Diagram) : Prop where
  /-- A node stands under its own id. -/
  keyed : ∀ {k n}, d.nodes.find? k = some n → n.id = k
  standard : ∀ {k n}, d.nodes.find? k = some n → n.IsStandard
  nodup_ids : (d.connections.map Connection.id).Nodup
  source_mem : ∀ c ∈ d.connections, c.source.node ∈ d.nodes.keys
  target_mem : ∀ c ∈ d.connections, c.target.node ∈ d.nodes.keys
  acyclic : Graph.Acyclic d.edges
  /-- A value never lands on an execution pin. -/
  data_target : ∀ c ∈ d.connections, c.signal = .data →
    ∀ n, d.nodes.find? c.target.node = some n → n.isExecution c.target.pin = false
  bound : ∀ {k n}, d.nodes.find? k = some n → n.inputs = n.boundBy d.connections

theorem consistent_empty : Consistent .empty where
  keyed := nofun
  standard := nofun
  nodup_ids := List.nodup_nil
  source_mem := nofun
  target_mem := nofun
  acyclic := Graph.acyclic_nil
  data_target := nofun
  bound := nofun

variable {d : Diagram}

theorem Consistent.length_inputs (h : d.Consistent) {k : String} {n : Node}
    (hn : d.nodes.find? k = some n) : n.inputs.length = n.slots.length := by
  rw [h.bound hn, n.length_boundBy]

theorem Consistent.mem_values_iff (h : d.Consistent) {n : Node} :
    n ∈ d.nodes.values ↔ d.nodes.find? n.id = some n := by
  rw [Table.mem_values_iff]
  constructor
  · rintro ⟨k, hk⟩
    rwa [h.keyed hk]
  · exact fun hn ↦ ⟨n.id, hn⟩

theorem Consistent.map_id_values (h : d.Consistent) : d.nodes.values.map Node.id = d.nodes.keys := by
  rw [Table.values, Table.keys, List.map_map]
  refine List.map_congr_left fun e he ↦ ?_
  exact h.keyed (Table.find?_eq_some_iff.2 he)

/-- The nodes have different ids. -/
theorem Consistent.nodup_node_ids (h : d.Consistent) : (d.nodes.values.map Node.id).Nodup := by
  rw [h.map_id_values]
  exact d.nodes.keys_nodup

/-! ### Binding anew -/

@[simp] theorem connections_foldl_rebind (keys : List String) (d : Diagram) :
    (keys.foldl rebind d).connections = d.connections := by
  induction keys generalizing d with
  | nil => rfl
  | cons k rest ih => exact ih (d.rebind k)

@[simp] theorem keys_foldl_rebind (keys : List String) (d : Diagram) :
    (keys.foldl rebind d).nodes.keys = d.nodes.keys := by
  induction keys generalizing d with
  | nil => rfl
  | cons k rest ih => exact (ih (d.rebind k)).trans (Table.keys_modify _ _ _)

/-- Binding anew changes nothing but bindings. -/
theorem reset_rebound (key : String) (connections : List Connection) (n : Node) :
    (rebound key connections n).reset = n.reset := by
  have h : ∀ (cs : List Connection) (m : Node),
      (cs.foldl (fun m c ↦ m.bindIfPossible c.target.pin c.source.node) m).reset = m.reset := by
    intro cs
    induction cs with
    | nil => exact fun _ ↦ rfl
    | cons c rest ih => exact fun m ↦ (ih _).trans (m.reset_bindIfPossible _ _)
  exact h _ n.reset

/-- Binding anew starts from the slots, so doing it twice is doing it once. -/
theorem rebound_rebound (key : String) (connections : List Connection) (n : Node) :
    rebound key connections (rebound key connections n) = rebound key connections n := by
  rw [rebound, reset_rebound]
  rfl

/-- The nodes whose keys are listed are bound anew, and the others stay. -/
theorem find?_foldl_rebind (keys : List String) (d : Diagram) (k : String) :
    (keys.foldl rebind d).nodes.find? k =
      (d.nodes.find? k).map fun n ↦ if k ∈ keys then rebound k d.connections n else n := by
  induction keys generalizing d with
  | nil => simp
  | cons key rest ih =>
    rw [List.foldl_cons, ih, rebind, Table.find?_modify]
    by_cases hk : k = key
    · subst hk
      rw [if_pos rfl]
      cases d.nodes.find? k with
      | none => rfl
      | some n =>
        by_cases hr : k ∈ rest
        · simp [hr, rebound_rebound]
        · simp [hr]
    · simp [hk]

/-- What is found after nodes have been bound anew was there before, in the same shape. -/
theorem sameShape_of_find?_foldl_rebind {keys : List String} {d : Diagram} {k : String} {n' : Node}
    (hn' : (keys.foldl rebind d).nodes.find? k = some n') :
    ∃ n, d.nodes.find? k = some n ∧ n'.SameShape n ∧
      n' = if k ∈ keys then rebound k d.connections n else n := by
  rw [find?_foldl_rebind] at hn'
  obtain ⟨n, hn, rfl⟩ := Option.map_eq_some_iff.1 hn'
  refine ⟨n, hn, ?_, rfl⟩
  split
  · exact sameShape_rebound k d.connections n
  · exact .refl n

/-! ### Taking away -/

/-- Some connections are dropped, and perhaps nodes, and whatever a dropped connection landed on is
bound anew. -/
theorem Consistent.drop (h : d.Consistent) {nodes : Table String Node} {keep : Connection → Bool}
    {affected : List String} (hnodes : ∀ k n, nodes.find? k = some n → d.nodes.find? k = some n)
    (hends : ∀ c ∈ d.connections, keep c = true →
      c.source.node ∈ nodes.keys ∧ c.target.node ∈ nodes.keys)
    (haffected : ∀ c ∈ d.connections, keep c = false → c.target.node ∈ nodes.keys →
      c.target.node ∈ affected) :
    (affected.foldl rebind ⟨nodes, d.connections.filter keep⟩).Consistent := by
  have hold : ∀ {k n'}, (affected.foldl rebind ⟨nodes, d.connections.filter keep⟩).nodes.find? k =
      some n' → ∃ n, d.nodes.find? k = some n ∧ n'.SameShape n ∧
        n' = if k ∈ affected then rebound k (d.connections.filter keep) n else n := by
    intro k n' hn'
    obtain ⟨n, hn, hshape⟩ := sameShape_of_find?_foldl_rebind hn'
    exact ⟨n, hnodes k n hn, hshape⟩
  have hsub : (d.connections.filter keep).Sublist d.connections := List.filter_sublist
  constructor
  · intro k n' hn'
    obtain ⟨n, hn, hshape, -⟩ := hold hn'
    rw [hshape.id, h.keyed hn]
  · intro k n' hn'
    obtain ⟨n, hn, hshape, -⟩ := hold hn'
    exact hshape.isStandard (h.standard hn)
  · rw [connections_foldl_rebind]
    exact h.nodup_ids.sublist (hsub.map _)
  · intro c hc
    rw [connections_foldl_rebind, List.mem_filter] at hc
    rw [keys_foldl_rebind]
    exact (hends c hc.1 hc.2).1
  · intro c hc
    rw [connections_foldl_rebind, List.mem_filter] at hc
    rw [keys_foldl_rebind]
    exact (hends c hc.1 hc.2).2
  · rw [edges, connections_foldl_rebind]
    exact h.acyclic.mono (hsub.map _).subset
  · intro c hc hdata n' hn'
    rw [connections_foldl_rebind, List.mem_filter] at hc
    obtain ⟨n, hn, hshape, -⟩ := hold hn'
    rw [hshape.isExecution, h.data_target c hc.1 hdata n hn]
  · intro k n' hn'
    obtain ⟨n, hn, hshape, hn''⟩ := hold hn'
    have hid := h.keyed hn
    rw [hshape.boundBy, connections_foldl_rebind, hn'']
    by_cases hk : k ∈ affected
    · rw [if_pos hk, ← hid, rebound_eq (h.standard hn).nodup_inputPins]
    · -- a node that is not bound anew has lost no connection
      rw [if_neg hk, h.bound hn, Node.boundBy_filter]
      intro c hc _ htarget
      by_contra hkeep
      rw [hid] at htarget
      have hmem : c.target.node ∈ nodes.keys := by
        have hkey := Table.mem_keys_of_find? hn'
        rw [keys_foldl_rebind] at hkey
        exact htarget ▸ hkey
      exact hk (htarget ▸ haffected c hc (by simpa using hkeep) hmem)

/-- With ids of their own, the connection with an id is the only one. -/
theorem eraseP_id_eq_filter {cs : List Connection} (h : (cs.map Connection.id).Nodup)
    (id : String) : cs.eraseP (·.id = id) = cs.filter (·.id ≠ id) := by
  induction cs with
  | nil => rfl
  | cons c rest ih =>
    rw [List.map_cons, List.nodup_cons] at h
    by_cases hc : c.id = id
    · rw [List.eraseP_cons_of_pos (by simpa using hc), List.filter_cons_of_neg (by simpa using hc)]
      refine (List.filter_eq_self.2 fun b hb ↦ ?_).symm
      have : b.id ≠ id := fun hbid ↦ h.1 (hc ▸ hbid ▸ List.mem_map_of_mem hb)
      simpa using this
    · rw [List.eraseP_cons_of_neg (by simpa using hc), List.filter_cons_of_pos (by simpa using hc),
        ih h.2]

/-- **Disconnecting** keeps a diagram consistent. -/
theorem Consistent.disconnect (h : d.Consistent) (id : String) : (d.disconnect id).Consistent := by
  rw [Diagram.disconnect]
  cases hc : d.connection? id with
  | none => exact h
  | some c =>
    have hmem : c ∈ d.connections := List.mem_of_find?_eq_some hc
    have hid : c.id = id := by simpa using List.find?_some hc
    show (rebind { d with connections := _ } _).Consistent
    rw [eraseP_id_eq_filter h.nodup_ids]
    -- one node is bound anew, the one that the connection landed on
    show ([c.target.node].foldl rebind ⟨d.nodes, d.connections.filter (·.id ≠ id)⟩).Consistent
    refine h.drop (fun _ _ hn ↦ hn) (fun b hb _ ↦ ⟨h.source_mem b hb, h.target_mem b hb⟩) ?_
    intro b hb hkeep _
    -- what is dropped has this id, and so is this connection
    have hbid : b.id = id := by simpa using hkeep
    rw [List.inj_on_of_nodup_map h.nodup_ids hb hmem (hbid.trans hid.symm)]
    exact List.mem_singleton_self _

/-- **Removing** a node together with its connections keeps a diagram consistent. -/
theorem Consistent.remove (h : d.Consistent) (node : String) : (d.remove node).Consistent := by
  rw [Diagram.remove]
  split
  case isFalse => exact h
  case isTrue =>
    have hkey : ∀ k, k ∈ (d.nodes.erase node).keys ↔ k ∈ d.nodes.keys ∧ k ≠ node := fun k ↦ by
      rw [Table.keys_erase, List.mem_filter, decide_eq_true_eq]
    refine h.drop ?_ ?_ ?_
    · intro k n hn
      rw [Table.find?_erase] at hn
      split at hn
      · cases hn
      · exact hn
    · intro c hc hkeep
      have htouch : ¬ (c.source.node = node ∨ c.target.node = node) := by
        simpa [Connection.touches] using hkeep
      rw [hkey, hkey]
      exact ⟨⟨h.source_mem c hc, fun hs ↦ htouch (Or.inl hs)⟩,
        h.target_mem c hc, fun ht ↦ htouch (Or.inr ht)⟩
    · intro c hc hkeep hmem
      rw [hkey] at hmem
      have htouch : c.touches node = true := by simpa using hkeep
      rw [List.mem_filter, decide_eq_true_eq]
      exact ⟨List.mem_map_of_mem (List.mem_filter.2 ⟨hc, htouch⟩), hmem.2⟩

/-! ### Changing -/

/-- Replacing a node by one of its shape with the same inputs keeps a diagram consistent. -/
theorem Consistent.replace (h : d.Consistent) {id : String} {n n' : Node}
    (hn : d.nodes.find? id = some n) (hshape : n'.SameShape n) (hinputs : n'.inputs = n.inputs) :
    { d with nodes := d.nodes.modify id fun _ ↦ n' }.Consistent := by
  have hold : ∀ {k m}, (d.nodes.modify id fun _ ↦ n').find? k = some m →
      ∃ m₀, d.nodes.find? k = some m₀ ∧ m.SameShape m₀ ∧ m.inputs = m₀.inputs := by
    intro k m hm
    rw [Table.find?_modify] at hm
    split at hm
    · next hk =>
      obtain ⟨m₀, hm₀, rfl⟩ := Option.map_eq_some_iff.1 hm
      obtain rfl : n = m₀ := Option.some.inj (hn.symm.trans (hk ▸ hm₀))
      exact ⟨n, hm₀, hshape, hinputs⟩
    · exact ⟨m, hm, .refl m, rfl⟩
  exact {
    keyed := fun hm ↦ by
      obtain ⟨m₀, hm₀, hs, -⟩ := hold hm
      rw [hs.id, h.keyed hm₀]
    standard := fun hm ↦ by
      obtain ⟨m₀, hm₀, hs, -⟩ := hold hm
      exact hs.isStandard (h.standard hm₀)
    nodup_ids := h.nodup_ids
    source_mem := fun c hc ↦ by rw [Table.keys_modify]; exact h.source_mem c hc
    target_mem := fun c hc ↦ by rw [Table.keys_modify]; exact h.target_mem c hc
    acyclic := h.acyclic
    data_target := fun c hc hdata m hm ↦ by
      obtain ⟨m₀, hm₀, hs, -⟩ := hold hm
      rw [hs.isExecution, h.data_target c hc hdata m₀ hm₀]
    bound := fun hm ↦ by
      obtain ⟨m₀, hm₀, hs, hi⟩ := hold hm
      rw [hi, hs.boundBy, h.bound hm₀] }

/-- **Changing** a node keeps a diagram consistent, also if the change is at fault half way. -/
theorem Consistent.update (h : d.Consistent) (id : String) (changes : List Change) :
    (d.update id changes).1.Consistent := by
  rw [Diagram.update]
  cases Change.operand? changes with
  | some operand => exact h
  | none =>
    cases hn : d.nodes.find? id with
    | none => exact h
    | some n =>
      have hs := n.sameShape_changeAll changes
      exact h.replace hn hs.1 hs.2

/-! ### Adding -/

/-- **Entering** a node under a new id keeps a diagram consistent. -/
theorem Consistent.insert (h : d.Consistent) {n : Node} (hfresh : n.id ∉ d.nodes.keys)
    (hstandard : n.IsStandard) (hinputs : n.inputs = n.slots) : (d.put n).Consistent := by
  have hfind : ∀ {k m}, (d.put n).nodes.find? k = some m →
      (k = n.id ∧ m = n) ∨ d.nodes.find? k = some m := by
    intro k m hm
    rw [put, Table.find?_insert] at hm
    split at hm
    · next hk => exact Or.inl ⟨hk, (Option.some.inj hm).symm⟩
    · exact Or.inr hm
  have hmem : ∀ {k}, k ∈ d.nodes.keys → k ∈ (d.put n).nodes.keys := fun hk ↦ by
    rw [put, Table.keys_insert, if_neg hfresh]
    exact List.mem_append_left _ hk
  constructor
  · intro k m hm
    rcases hfind hm with ⟨rfl, rfl⟩ | hm
    · rfl
    · exact h.keyed hm
  · intro k m hm
    rcases hfind hm with ⟨-, rfl⟩ | hm
    · exact hstandard
    · exact h.standard hm
  · exact h.nodup_ids
  · exact fun c hc ↦ hmem (h.source_mem c hc)
  · exact fun c hc ↦ hmem (h.target_mem c hc)
  · exact h.acyclic
  · intro c hc hdata m hm
    rcases hfind hm with ⟨hk, -⟩ | hm
    · -- both ends of a connection were there before
      exact absurd (hk ▸ h.target_mem c hc) hfresh
    · exact h.data_target c hc hdata m hm
  · intro k m hm
    rcases hfind hm with ⟨-, rfl⟩ | hm
    · -- no connection lands on the new node
      have : m.boundBy (d.connections.filter fun _ ↦ false) = m.boundBy d.connections :=
        Node.boundBy_filter fun c hc _ ht ↦ absurd (ht ▸ h.target_mem c hc) hfresh
      show m.inputs = m.boundBy d.connections
      rw [← this, List.filter_false, hinputs]
      rfl
    · exact h.bound hm

theorem Consistent.add (h : d.Consistent) {id : String} (hfresh : id ∉ d.nodes.keys)
    (kind : String) (properties : Properties) (name : Option String) (position : Point)
    (category : Option Label) : (d.add id kind properties name position category).1.Consistent :=
  h.insert hfresh (newNode_isStandard id kind properties name position category)
    (inputs_newNode id kind properties name position category)

/-! ### Connecting -/

/-- What is refused changes nothing. -/
theorem connect_of_not_admits {source target : Terminal}
    (hno : d.admits source.node target.node = false) (id : String) (sourcePoint targetPoint : Point) :
    d.connect id source target sourcePoint targetPoint = (d, .ok none) := by
  rw [Diagram.connect]
  rw [admits, Table.contains, Table.contains] at hno
  cases hs : d.nodes.find? source.node with
  | none => rfl
  | some s =>
    cases ht : d.nodes.find? target.node with
    | none => rfl
    | some t =>
      rw [hs, ht] at hno
      have hcycle : Graph.closesCycle d.edges source.node target.node = true := by simpa using hno
      simp only [hcycle, if_true]

/-- Of all nodes only the one that a connection lands on can be fed by it. -/
theorem Consistent.modify_fedBy (h : d.Consistent) {c : Connection} {t : Node}
    (ht : d.nodes.find? c.target.node = some t) :
    (d.nodes.modify c.target.node fun _ ↦ t.fedBy c) = d.nodes.mapValues fun _ n ↦ n.fedBy c := by
  refine Table.eq_of_find? (by rw [Table.keys_modify, Table.keys_mapValues]) fun k ↦ ?_
  rw [Table.find?_modify, Table.find?_mapValues]
  split
  · next hk =>
    rw [hk, ht]
    rfl
  · next hk =>
    cases hn : d.nodes.find? k with
    | none => rfl
    | some n =>
      have hself : n.fedBy c = n :=
        Node.fedBy_eq_self fun hf ↦ hk ((h.keyed hn).symm.trans hf.2.symm)
      rw [Option.map_some, hself]

/-- What is admitted is drawn: the connection comes last, and it is written into the input that it
feeds, if any. Binding is never at fault. -/
theorem Consistent.connect_of_admits (h : d.Consistent) {source target : Terminal} {s t : Node}
    (hs : d.nodes.find? source.node = some s) (ht : d.nodes.find? target.node = some t)
    (hyes : d.admits source.node target.node = true) {id : String}
    {sourcePoint targetPoint : Point} {c : Connection}
    (hc : c = .between id s t source target sourcePoint targetPoint) :
    d.connect id source target sourcePoint targetPoint =
      (⟨d.nodes.mapValues fun _ n ↦ n.fedBy c, d.connections ++ [c]⟩, .ok (some c)) := by
  have hsource : c.source = source := hc ▸ rfl
  have htarget : c.target = target := hc ▸ rfl
  have hcycle : Graph.closesCycle d.edges source.node target.node = false := by
    rw [admits, Bool.and_eq_true, Bool.not_eq_true'] at hyes
    exact hyes.2
  rw [Diagram.connect, hs, ht, ← h.modify_fedBy (htarget ▸ ht), htarget]
  simp only [hcycle, Bool.false_eq_true, if_false, ← hc]
  cases hsignal : c.signal with
  | execution =>
    have hself : t.fedBy c = t :=
      Node.fedBy_eq_self fun hf ↦ absurd (hsignal.symm.trans hf.1) nofun
    rw [hself, Table.modify_eq_self ht]
    rfl
  | data =>
    have hl := h.length_inputs ht
    have hid : c.target.node = t.id := htarget ▸ (h.keyed ht).symm
    have hfed : t.bindIfPossible target.pin source.node = t.fedBy c :=
      htarget ▸ hsource ▸
        Node.bindIfPossible_eq_feed (h.standard ht).nodup_inputPins hl hsignal hid
    rw [Node.bindIfPossible] at hfed
    have hok := t.bind_eq_ok hl target.pin source.node
    cases hi : t.slotIndex? target.pin with
    | none =>
      -- no slot lies behind the pin, so the node stays as it is
      rw [hi, Option.map_none] at hok
      rw [hok] at hfed ⊢
      rw [← hfed, Table.modify_eq_self ht]
      rfl
    | some i =>
      rw [hi, Option.map_some] at hok
      rw [hok] at hfed ⊢
      rw [← hfed]
      rfl

/-- Feeding a new connection to every node keeps a diagram consistent, if the connection is sound:
its id is new, its ends are there, it closes no cycle, and a value lands on no execution pin. -/
theorem Consistent.draw (h : d.Consistent) {c : Connection}
    (hfresh : c.id ∉ d.connections.map Connection.id) (hsource : c.source.node ∈ d.nodes.keys)
    {t : Node} (ht : d.nodes.find? c.target.node = some t)
    (hguard : ¬ Graph.Path d.edges c.target.node c.source.node)
    (hpin : c.signal = .data → t.isExecution c.target.pin = false) :
    Consistent ⟨d.nodes.mapValues fun _ n ↦ n.fedBy c, d.connections ++ [c]⟩ := by
  have hold : ∀ {k m}, (d.nodes.mapValues fun _ n ↦ n.fedBy c).find? k = some m →
      ∃ n, d.nodes.find? k = some n ∧ m = n.fedBy c := by
    intro k m hm
    rw [Table.find?_mapValues] at hm
    obtain ⟨n, hn, rfl⟩ := Option.map_eq_some_iff.1 hm
    exact ⟨n, hn, rfl⟩
  constructor
  · intro k m hm
    obtain ⟨n, hn, rfl⟩ := hold hm
    exact (n.sameShape_fedBy c).id.trans (h.keyed hn)
  · intro k m hm
    obtain ⟨n, hn, rfl⟩ := hold hm
    exact (n.sameShape_fedBy c).isStandard (h.standard hn)
  · rw [List.map_append, List.nodup_append]
    refine ⟨h.nodup_ids, List.nodup_singleton _, ?_⟩
    intro a ha b hb hab
    rw [List.map_singleton, List.mem_singleton] at hb
    exact hfresh (hb ▸ hab ▸ ha)
  · intro b hb
    rw [Table.keys_mapValues]
    rcases List.mem_append.1 hb with hb | hb
    · exact h.source_mem b hb
    · exact List.mem_singleton.1 hb ▸ hsource
  · intro b hb
    rw [Table.keys_mapValues]
    rcases List.mem_append.1 hb with hb | hb
    · exact h.target_mem b hb
    · exact List.mem_singleton.1 hb ▸ Table.mem_keys_of_find? ht
  · rw [edges, List.map_append]
    exact h.acyclic.append hguard
  · intro b hb hdata m hm
    obtain ⟨n, hn, rfl⟩ := hold hm
    rw [(n.sameShape_fedBy c).isExecution]
    rcases List.mem_append.1 hb with hb | hb
    · exact h.data_target b hb hdata n hn
    · obtain rfl := List.mem_singleton.1 hb
      obtain rfl : t = n := Option.some.inj (ht.symm.trans hn)
      exact hpin hdata
  · intro k m hm
    obtain ⟨n, hn, rfl⟩ := hold hm
    show n.feed n.inputs c = _
    rw [(n.sameShape_fedBy c).boundBy, Node.boundBy_append_singleton, ← h.bound hn]

/-- **Connecting** keeps a diagram consistent. -/
theorem Consistent.connect (h : d.Consistent) {id : String}
    (hfresh : id ∉ d.connections.map Connection.id) (source target : Terminal)
    (sourcePoint targetPoint : Point) :
    (d.connect id source target sourcePoint targetPoint).1.Consistent := by
  cases hyes : d.admits source.node target.node with
  | false =>
    rw [connect_of_not_admits hyes]
    exact h
  | true =>
    have hall := hyes
    rw [admits, Bool.and_eq_true, Bool.and_eq_true, Bool.not_eq_true', ← Bool.not_eq_true,
      Graph.closesCycle_eq_true_iff, Table.contains_iff, Table.contains_iff] at hall
    obtain ⟨⟨hsource, htarget⟩, hguard⟩ := hall
    obtain ⟨s, hs⟩ := Table.exists_find?_of_mem_keys hsource
    obtain ⟨t, ht⟩ := Table.exists_find?_of_mem_keys htarget
    rw [h.connect_of_admits hs ht hyes rfl]
    refine h.draw hfresh hsource ht hguard fun hdata ↦ ?_
    -- a data connection has no execution pin at either end
    have hsignal : Connection.signalBetween s t source.pin target.pin = .data := hdata
    rw [Connection.signalBetween] at hsignal
    split at hsignal
    · exact absurd hsignal nofun
    · next hno =>
      rw [Bool.or_eq_true, not_or] at hno
      exact Bool.eq_false_iff.2 hno.2

end Diagram

end FlowCanvas
