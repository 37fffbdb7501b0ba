import FlowCanvas.Diagram.Validation
import FlowCanvas.Proofs.Diagram.Consistency

/-!
# Histories of diagrams

`Reachable` holds of the diagrams that any series of operations leads to, from the empty one on and
with arguments of any kind. New ids are asked to be new and nothing else: they are drawn somewhere
else, and an id that was given up may come back. An operation that is at fault half way counts with
whatever it has done until then.

One step keeps a diagram consistent, so every reachable diagram is (`Reachable.consistent`). Two
readings of that are the main statements: its structure is never broken and validation finds nothing
(`Reachable.intact`), and the inputs of its nodes are what its connections bind
(`Reachable.inputs_eq_boundBy`).
-/

namespace FlowCanvas

/-- What can be done to a diagram. -/
inductive Operation where
  | add (id kind : String) (properties : Properties) (name : Option String) (position : Point)
    (category : Option Label)
  | update (id : String) (changes : List Change)
  | remove (id : String)
  | connect (id : String) (source target : Terminal) (sourcePoint targetPoint : Point)
  | disconnect (id : String)
  | clear

/-- Is the id that an operation draws, if it draws one, new to a diagram? -/
def Operation.IsFresh (d : Diagram) : Operation → Prop
  | add id .. => id ∉ d.nodes.keys
  | connect id .. => id ∉ d.connections.map Connection.id
  | update .. | remove _ | disconnect _ | clear => True

instance (d : Diagram) : DecidablePred (Operation.IsFresh d)
  | .add id .. => inferInstanceAs (Decidable (id ∉ d.nodes.keys))
  | .connect id .. => inferInstanceAs (Decidable (id ∉ d.connections.map Connection.id))
  | .update .. | .remove _ | .disconnect _ | .clear => inferInstanceAs (Decidable True)

namespace Diagram

/-- The diagram after an operation, whatever its answer. -/
def perform (d : Diagram) : Operation → Diagram
  | .add id kind properties name position category =>
    (d.add id kind properties name position category).1
  | .update id changes => (d.update id changes).1
  | .remove id => d.remove id
  | .connect id source target sourcePoint targetPoint =>
    (d.connect id source target sourcePoint targetPoint).1
  | .disconnect id => d.disconnect id
  | .clear => .empty

/-- The diagram after several operations. -/
def performAll (d : Diagram) (ops : List Operation) : Diagram := ops.foldl perform d

/-- Is every id that a series of operations draws new when it is drawn? -/
def FreshRun (d : Diagram) : List Operation → Prop
  | [] => True
  | op :: rest => op.IsFresh d ∧ FreshRun (d.perform op) rest

instance decidableFreshRun : (d : Diagram) → DecidablePred (FreshRun d)
  | _, [] => inferInstanceAs (Decidable True)
  | d, op :: rest =>
    have := decidableFreshRun (d.perform op) rest
    inferInstanceAs (Decidable (op.IsFresh d ∧ FreshRun (d.perform op) rest))

/-- Operations lead to the diagram from the empty one. -/
inductive Reachable : Diagram → Prop where
  | empty : Reachable .empty
  | step {d : Diagram} (op : Operation) : Reachable d → op.IsFresh d → Reachable (d.perform op)

variable {d : Diagram}

/-- **One step** keeps a diagram consistent. -/
theorem Consistent.perform (h : d.Consistent) {op : Operation} (hfresh : op.IsFresh d) :
    (d.perform op).Consistent := by
  cases op with
  | add id kind properties name position category =>
    exact h.add hfresh kind properties name position category
  | update id changes => exact h.update id changes
  | remove id => exact h.remove id
  | connect id source target sourcePoint targetPoint =>
    exact h.connect hfresh source target sourcePoint targetPoint
  | disconnect id => exact h.disconnect id
  | clear => exact consistent_empty

theorem Reachable.consistent (h : Reachable d) : d.Consistent := by
  induction h with
  | empty => exact consistent_empty
  | step op _ hfresh ih => exact ih.perform hfresh

/-- A series of operations leads from a reachable diagram to reachable ones. -/
theorem Reachable.performAll (h : Reachable d) {ops : List Operation} (hfresh : d.FreshRun ops) :
    Reachable (d.performAll ops) := by
  induction ops generalizing d with
  | nil => exact h
  | cons op rest ih => exact ih (h.step op hfresh.1) hfresh.2

/-! ### The structure is never broken -/

/-- In a consistent diagram validation finds nothing. -/
theorem Consistent.problems_eq_nil (h : d.Consistent) : d.problems = [] := by
  have hends : ∀ c ∈ d.connections, d.missingEnds c = [] := by
    intro c hc
    rw [missingEnds, if_pos (Table.contains_iff.2 (h.source_mem c hc)),
      if_pos (Table.contains_iff.2 (h.target_mem c hc)), List.append_nil]
  have hcycle : d.hasCycle = false := h.acyclic.hasCycle_eq_false
  rw [problems, List.flatMap_eq_nil_iff.2 hends, hcycle]
  rfl

/-- **The structure of a diagram is never broken.** Nodes stand under their ids, connections have
ids of their own and end on nodes of the diagram, no connections go round in a circle, and so
validation finds nothing. -/
theorem Reachable.intact (h : Reachable d) :
    (∀ k n, d.nodes.find? k = some n → n.id = k) ∧
      (d.connections.map Connection.id).Nodup ∧
      (∀ c ∈ d.connections, c.source.node ∈ d.nodes.keys ∧ c.target.node ∈ d.nodes.keys) ∧
      (∀ u v, (u, v) ∈ d.edges → ¬ Graph.Path d.edges v u) ∧
      d.problems = [] := by
  have hd := h.consistent
  exact ⟨fun _ _ hn ↦ hd.keyed hn, hd.nodup_ids,
    fun c hc ↦ ⟨hd.source_mem c hc, hd.target_mem c hc⟩, hd.acyclic, hd.problems_eq_nil⟩

/-- A history with a refused circle, a cascade and an id that comes back leaves two nodes and one
connection, and nothing to complain about. -/
theorem exists_intact_after_cascade :
    ∃ d, Reachable d ∧ d.nodes.keys = ["b", "a"] ∧ d.connections.map Connection.id = ["q"] ∧
      (∀ u v, (u, v) ∈ d.edges → ¬ Graph.Path d.edges v u) ∧ d.problems = [] := by
  have h : Reachable (empty.performAll
      [.add "a" "arithmetic" .empty none .origin none,
        .add "b" "arithmetic" .empty none .origin none,
        .connect "p" ⟨"a", "result"⟩ ⟨"b", "left"⟩ .origin .origin,
        .connect "q" ⟨"b", "result"⟩ ⟨"a", "left"⟩ .origin .origin,
        .remove "a", .remove "nowhere",
        .add "a" "no such kind" .empty none .origin none,
        .connect "q" ⟨"b", "result"⟩ ⟨"a", "left"⟩ .origin .origin]) :=
    Reachable.empty.performAll (by decide +kernel)
  exact ⟨_, h, by decide +kernel, by decide +kernel, h.intact.2.2.2.1, h.intact.2.2.2.2⟩

/-! ### The inputs are what the connections bind -/

/-- An input named for the flow of execution is never written over. -/
theorem Consistent.execution_unbound (h : d.Consistent) {k : String} {n : Node}
    (hn : d.nodes.find? k = some n) {i : Nat} (hslot : n.slots[i]? = some "execution") :
    n.inputs[i]? = some "execution" := by
  have hi : i < n.inputs.length := by
    rw [h.length_inputs hn]
    exact (List.getElem?_eq_some_iff.1 hslot).1
  have hentry : (n.boundBy d.connections)[i]? = some n.inputs[i] := by
    rw [← h.bound hn, List.getElem?_eq_getElem hi]
  rcases Node.eq_slot_or_fed_of_mem_boundBy hentry with hsame | ⟨c, hc, ⟨hdata, htarget, hpin⟩, -⟩
  · rw [List.getElem?_eq_getElem hi, ← hsame, hslot]
  · -- a connection that feeds it would be one for execution
    obtain ⟨p, hp, hid⟩ := Option.map_eq_some_iff.1 hpin
    have hexec := (h.standard hn).isExecution_of_slot hslot hp
    have hfind : d.nodes.find? c.target.node = some n := by rw [htarget, h.keyed hn, hn]
    rw [hid, h.data_target c hc hdata n hfind] at hexec
    exact absurd hexec Bool.false_ne_true

/-- **The inputs of a node are what the connections of the diagram bind**, whatever happened before:
the slots, over which each connection that carries a value to the i-th input pin writes its source.
So there are as many inputs as slots, each entry is the name of its slot or the id of a node that is
connected there, and a slot for the flow of execution keeps its name. -/
theorem Reachable.inputs_eq_boundBy (h : Reachable d) {n : Node} (hn : n ∈ d.nodes.values) :
    n.inputs = n.boundBy d.connections ∧
      (n.inputPins.map Pin.id).Nodup ∧
      n.inputs.length = n.slots.length ∧
      (∀ (i : Nat) (entry : String), n.inputs[i]? = some entry → n.slots[i]? = some entry ∨
        (entry ∈ d.nodes.keys ∧ ∃ c ∈ d.connections, n.IsFedBy c i ∧ c.source.node = entry)) ∧
      ∀ i : Nat, n.slots[i]? = some "execution" → n.inputs[i]? = some "execution" := by
  obtain ⟨k, hk⟩ := Table.mem_values_iff.1 hn
  have hd := h.consistent
  refine ⟨hd.bound hk, (hd.standard hk).nodup_inputPins, hd.length_inputs hk, ?_,
    fun i hslot ↦ hd.execution_unbound hk hslot⟩
  intro i entry hentry
  rw [hd.bound hk] at hentry
  rcases Node.eq_slot_or_fed_of_mem_boundBy hentry with hslot | ⟨c, hc, hfed, rfl⟩
  · exact Or.inl hslot
  · exact Or.inr ⟨hd.source_mem c hc, c, hc, hfed, rfl⟩

/-- Of three connections to one operand the last that is left counts. -/
theorem exists_inputs_after_shadowing :
    ∃ d n, Reachable d ∧ n ∈ d.nodes.values ∧ n.inputs = ["b", "right"] ∧
      n.inputs = n.boundBy d.connections := by
  let d := empty.performAll
    [.add "a" "let_declaration" .empty none .origin none,
      .add "b" "function_call" .empty none .origin none,
      .add "c" "comparison" .empty none .origin none,
      .connect "p" ⟨"a", "var_out"⟩ ⟨"c", "left"⟩ .origin .origin,
      .connect "q" ⟨"b", "return"⟩ ⟨"c", "left"⟩ .origin .origin,
      .connect "r" ⟨"a", "var_out"⟩ ⟨"c", "left"⟩ .origin .origin,
      .disconnect "r"]
  have h : Reachable d := Reachable.empty.performAll (by decide +kernel)
  have hc : (d.nodes.find? "c").map Node.inputs = some ["b", "right"] := by decide +kernel
  obtain ⟨n, hn, hinputs⟩ := Option.map_eq_some_iff.1 hc
  have hmem : n ∈ d.nodes.values := Table.mem_values_iff.2 ⟨"c", hn⟩
  exact ⟨d, n, h, hmem, hinputs, (h.inputs_eq_boundBy hmem).1⟩

end Diagram

end FlowCanvas
