import FlowCanvas.Proofs.Diagram.History

/-!
# Where nodes come from

A node gets its shape when it is created, and it keeps it for as long as it is there: kind and
category, pins, slots and outputs never change, whatever an update says. So the shape of a node is
told by the operation that created it, and that operation by the history of the diagram.

An operation either creates a node (`Operation.created?`) or keeps the shapes of all nodes
(`keepsShapes_perform`). Followed back through a history, a node leads to the last operation that
created one under its key (`exists_creation`). What that operation made is standard, so a node has
at all times the pins, slots and outputs that the catalog gives to its kind and category
(`sameShape_of_mem_performAll`). New ids need not be new for that: a node under an id that is taken
would stand in the place of the other one, in a shape of its own.
-/

namespace FlowCanvas

/-- The node that an operation creates. -/
def Operation.created? : Operation → Option Node
  | add id kind properties name position category =>
    some (Diagram.newNode id kind properties name position category)
  | update .. | remove _ | connect .. | disconnect _ | clear => none

/-- What an operation creates is standard. -/
theorem Operation.isStandard_of_created? {op : Operation} {made : Node}
    (h : op.created? = some made) : made.IsStandard := by
  cases op with
  | add id kind properties name position category =>
    obtain rfl := Option.some.inj h
    exact Diagram.newNode_isStandard id kind properties name position category
  | _ => exact absurd h nofun

theorem Node.sameShape_of_bind {n m : Node} {pin producer : String}
    (h : n.bind pin producer = .ok (some m)) : m.SameShape n := by
  have hm : n.bindIfPossible pin producer = m := by rw [bindIfPossible, h]
  exact hm ▸ n.sameShape_bindIfPossible pin producer

/-- What a standard node declares is what the catalog says of its kind and category. -/
theorem Node.IsStandard.declares {n : Node} (h : n.IsStandard) :
    match Catalog.find? n.kind (some n.category) with
    | some e => n.slots = e.inputs ∧ n.outputs = e.outputs
    | none => n.slots = [] ∧ n.outputs = [] := by
  have hslots := h.slots
  have houtputs := h.outputs
  cases he : Catalog.find? n.kind (some n.category) with
  | none =>
    rw [he] at hslots houtputs
    exact ⟨hslots, houtputs⟩
  | some e =>
    rw [he] at hslots houtputs
    exact ⟨hslots, houtputs⟩

namespace Diagram

/-! ### Operations that create nothing -/

/-- Was every node of a diagram there before, under the same key and in the same shape? -/
def KeepsShapes (d d' : Diagram) : Prop :=
  ∀ k n', d'.nodes.find? k = some n' → ∃ n, d.nodes.find? k = some n ∧ n'.SameShape n

theorem KeepsShapes.refl (d : Diagram) : KeepsShapes d d := fun _ n' hn' ↦ ⟨n', hn', .refl n'⟩

/-- Putting a node of the same shape in the place of another keeps all shapes. -/
theorem keepsShapes_modify {d : Diagram} {id : String} {n m : Node}
    (hn : d.nodes.find? id = some n) (hshape : m.SameShape n) (connections : List Connection) :
    KeepsShapes d ⟨d.nodes.modify id fun _ ↦ m, connections⟩ := by
  intro k n' hn'
  rw [Table.find?_modify] at hn'
  split at hn'
  · next hk =>
    subst hk
    rw [hn, Option.map_some] at hn'
    exact ⟨n, hn, Option.some.inj hn' ▸ hshape⟩
  · exact ⟨n', hn', .refl n'⟩

theorem keepsShapes_foldl_rebind (d : Diagram) (affected : List String) :
    KeepsShapes d (affected.foldl rebind d) := by
  intro k n' hn'
  obtain ⟨n, hn, hshape, -⟩ := sameShape_of_find?_foldl_rebind hn'
  exact ⟨n, hn, hshape⟩

/-- **Updating** keeps the shapes: an update may replace the whole settings of a node, but kind and
category stay. -/
theorem keepsShapes_update (d : Diagram) (id : String) (changes : List Change) :
    KeepsShapes d (d.update id changes).1 := by
  rw [update]
  cases Change.operand? changes with
  | some operand => exact .refl d
  | none =>
    cases hn : d.nodes.find? id with
    | none => exact .refl d
    | some n => exact keepsShapes_modify hn (n.sameShape_changeAll changes).1 d.connections

theorem keepsShapes_remove (d : Diagram) (id : String) : KeepsShapes d (d.remove id) := by
  rw [remove]
  split
  · intro k n' hn'
    obtain ⟨n, hn, hshape⟩ := keepsShapes_foldl_rebind _ _ k n' hn'
    rw [Table.find?_erase] at hn
    split at hn
    · cases hn
    · exact ⟨n, hn, hshape⟩
  · exact .refl d

theorem keepsShapes_disconnect (d : Diagram) (id : String) : KeepsShapes d (d.disconnect id) := by
  rw [disconnect]
  cases d.connection? id with
  | none => exact .refl d
  | some c => exact keepsShapes_foldl_rebind ⟨d.nodes, _⟩ [c.target.node]

/-- **Connecting** keeps the shapes, also if the binding is at fault. -/
theorem keepsShapes_connect (d : Diagram) (id : String) (source target : Terminal)
    (sourcePoint targetPoint : Point) :
    KeepsShapes d (d.connect id source target sourcePoint targetPoint).1 := by
  rw [connect]
  split
  · next s t hs ht =>
    split
    · exact .refl d
    · dsimp only
      split
      · exact .refl d
      · -- the node that the connection lands on is the only one that is written to
        split
        · next bound hbound => exact keepsShapes_modify ht (Node.sameShape_of_bind hbound) _
        · exact .refl d
        · exact .refl d
  · exact .refl d

/-- **What creates no node keeps the shapes** of all nodes. -/
theorem keepsShapes_perform {op : Operation} (h : op.created? = none) (d : Diagram) :
    KeepsShapes d (d.perform op) := by
  cases op with
  | add id kind properties name position category => exact absurd h nofun
  | update id changes => exact keepsShapes_update d id changes
  | remove id => exact keepsShapes_remove d id
  | connect id source target sourcePoint targetPoint =>
    exact keepsShapes_connect d id source target sourcePoint targetPoint
  | disconnect id => exact keepsShapes_disconnect d id
  | clear => exact nofun

/-! ### Histories -/

/-- **One step back.** A node was created by the operation before, or it was there already in the
same shape. -/
theorem find?_perform {d : Diagram} {op : Operation} {k : String} {n' : Node}
    (h : (d.perform op).nodes.find? k = some n') :
    (op.created? = some n' ∧ n'.id = k) ∨ (op.created?.map Node.id ≠ some k ∧
      ∃ n, d.nodes.find? k = some n ∧ n'.SameShape n) := by
  cases hmade : op.created? with
  | none => exact Or.inr ⟨nofun, keepsShapes_perform hmade d k n' h⟩
  | some made =>
    have hput : d.perform op = d.put made := by
      cases op with
      | add id kind properties name position category =>
        obtain rfl := Option.some.inj hmade
        rfl
      | _ => exact absurd hmade nofun
    rw [hput, put, Table.find?_insert] at h
    split at h
    · next hk =>
      obtain rfl := Option.some.inj h
      exact Or.inl ⟨rfl, hk.symm⟩
    · next hk =>
      exact Or.inr ⟨fun hid ↦ hk (Option.some.inj hid).symm, n', h, .refl n'⟩

theorem performAll_append_singleton (d : Diagram) (ops : List Operation) (op : Operation) :
    d.performAll (ops ++ [op]) = (d.performAll ops).perform op := by
  rw [performAll, List.foldl_append]
  rfl

/-- **All steps back.** A node leads to the last operation that created one under its key, and at
any time since then the node under that key has had the shape that it was created in. -/
theorem exists_creation {ops : List Operation} {k : String} {n : Node}
    (h : (empty.performAll ops).nodes.find? k = some n) :
    ∃ before creation after made, ops = before ++ creation :: after ∧
      creation.created? = some made ∧ made.id = k ∧
      (∀ later ∈ after, later.created?.map Node.id ≠ some k) ∧
      ∀ done, done <+: after → ∃ m,
        (empty.performAll (before ++ creation :: done)).nodes.find? k = some m ∧
          m.SameShape made := by
  -- the last operation either created the node or left it in its shape, back to the creation
  induction ops using List.reverseRecOn generalizing n with
  | nil => exact absurd h nofun
  | append_singleton rest op ih =>
    rw [performAll_append_singleton] at h
    rcases find?_perform h with ⟨hmade, hid⟩ | ⟨hother, m, hm, hshape⟩
    · refine ⟨rest, op, [], n, rfl, hmade, hid, nofun, fun done hdone ↦ ?_⟩
      rw [List.prefix_nil.1 hdone, performAll_append_singleton]
      exact ⟨n, h, .refl n⟩
    · obtain ⟨before, creation, after, made, rfl, hmade, hid, hlater, hsince⟩ := ih hm
      refine ⟨before, creation, after ++ [op], made, by simp, hmade, hid, ?_, ?_⟩
      · intro later hmem
        rcases List.mem_append.1 hmem with hmem | hmem
        · exact hlater later hmem
        · exact List.mem_singleton.1 hmem ▸ hother
      · intro done hdone
        rcases List.prefix_concat_iff.1 hdone with rfl | hdone
        · -- this is now, and the step from the last time has kept the shape
          obtain ⟨m', hm', hshape'⟩ := hsince after (List.prefix_refl after)
          obtain rfl : m = m' := Option.some.inj (hm.symm.trans hm')
          rw [← List.cons_append, ← List.append_assoc, performAll_append_singleton]
          exact ⟨n, h, hshape.trans hshape'⟩
        · exact hsince done hdone

/-- **A node never drifts from its kind.** Whatever a history did, each node was created by one
operation of it, the last one to create a node under its id, and ever since it has had the id, the
kind, the category, the pins, the outputs and the slots that it was created with, and the kind in
its settings. Those go together: the kind in the settings is that of the node, the pins are those of
its kind and category, and the slots and outputs are those of their entry in the catalog, or none
where there is no entry. -/
theorem sameShape_of_mem_performAll (ops : List Operation) {n : Node}
    (hn : n ∈ (empty.performAll ops).nodes.values) :
    (∃ before creation after made, ops = before ++ creation :: after ∧
      creation.created? = some made ∧
      (∀ later ∈ after, later.created?.map Node.id ≠ some n.id) ∧
      (∀ done, done <+: after → ∃ m,
        (empty.performAll (before ++ creation :: done)).nodes.find? n.id = some m ∧
          m.SameShape made) ∧
      n.SameShape made) ∧
    n.configKind = n.kind ∧ n.pins = Catalog.pins n.kind n.category ∧
    match Catalog.find? n.kind (some n.category) with
    | some e => n.slots = e.inputs ∧ n.outputs = e.outputs
    | none => n.slots = [] ∧ n.outputs = [] := by
  obtain ⟨k, hk⟩ := Table.mem_values_iff.1 hn
  obtain ⟨before, creation, after, made, hops, hmade, hid, hlater, hsince⟩ := exists_creation hk
  have hshape : n.SameShape made := by
    obtain ⟨m, hm, hshape⟩ := hsince after (List.prefix_refl after)
    rw [← hops, hk] at hm
    exact Option.some.inj hm ▸ hshape
  have hstandard : n.IsStandard := hshape.isStandard (Operation.isStandard_of_created? hmade)
  obtain rfl : n.id = k := hshape.id.trans hid
  exact ⟨⟨before, creation, after, made, hops, hmade, hlater, hsince, hshape⟩,
    hstandard.configKind, hstandard.pins, hstandard.declares⟩

/-- A comparison stays one through settings of another kind and category, a field that is named for
the kind and a connection, and a loop that once had its id does not matter. -/
theorem exists_shape_after_updates :
    ∃ ops n, n ∈ (empty.performAll ops).nodes.values ∧
      n.id = "a" ∧ n.configKind = n.kind ∧ n.pins = Construct.comparison.pins ∧
      n.slots = ["left", "right"] ∧ n.outputs = ["result"] := by
  let ops : List Operation :=
    [.add "a" "loop" .empty none .origin none, .remove "a",
      .add "a" "comparison" .empty none .origin (some (.text "operators")),
      .add "b" "nested_loop" .empty none .origin (some (.text "control_flow")),
      .update "a" [.config (.obj [("type", .str "loop"), ("category", .str "control_flow")]),
        .other "type", .settings "loop" (.text "control_flow") (.obj [("operation", .str "lt")])],
      .connect "p" ⟨"b", "body"⟩ ⟨"a", "left"⟩ .origin .origin,
      .update "b" [.properties (.int 5)]]
  have hshape : ((empty.performAll ops).nodes.find? "a").map (fun n ↦
      (n.id, n.pins, n.slots, n.outputs)) =
        some ("a", Construct.comparison.pins, ["left", "right"], ["result"]) := by decide +kernel
  obtain ⟨n, hn, heq⟩ := Option.map_eq_some_iff.1 hshape
  simp only [Prod.mk.injEq] at heq
  obtain ⟨hid, hpins, hslots, houtputs⟩ := heq
  have hmem : n ∈ (empty.performAll ops).nodes.values := Table.mem_values_iff.2 ⟨"a", hn⟩
  exact ⟨ops, n, hmem, hid, (sameShape_of_mem_performAll ops hmem).2.1, hpins, hslots, houtputs⟩

end Diagram

end FlowCanvas
