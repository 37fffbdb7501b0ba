import FlowCanvas.Emission.Export
import Mathlib.Data.List.Induction

/-!
# The variables of an export

In the course of an export each node that has a value leaves the variable that holds it. Which
variable that is depends on the node alone (`outputName?`), neither on the state it is written in
nor on where it goes (`output_contribution`). So the variables known at any point of an export are
those of the nodes written until then (`find?_outputs_stateAfter`).
-/

namespace FlowCanvas.Emission

/-- The variable that holds a node's value once the node is written, if it has a value. -/
def outputName? (n : Node) : Option String :=
  match emittedAs? n.effectiveKind n.category with
  | some .letDeclaration => some ((n.textProperty? "name").getD ("var_" ++ n.id))
  | some .assignment => some ((n.textProperty? "target").getD ("var_" ++ n.id))
  | some .functionCall => some ("call_" ++ n.id)
  | some .arithmetic | some .comparison => some ("temp_" ++ n.id)
  | some .functionDef | some .ifStatement | some .loop | none => none

/-- What a node leaves does not depend on what is written already. -/
theorem output_contribution (config : Config) (s : State) (scope : Nat) (n : Node) :
    (contribution config s scope n).output = outputName? n := by
  rw [contribution, outputName?]
  cases emittedAs? n.effectiveKind n.category with
  | none => rfl
  | some c => cases c <;> rfl

variable {config : Config} {connections : List Connection}

/-- The state of an export in which some nodes are written. -/
def stateAfter (config : Config) (connections : List Connection) (nodes : List Node) : State :=
  nodes.foldl (write config connections) .start

theorem stateAfter_append_singleton (nodes : List Node) (n : Node) :
    stateAfter config connections (nodes ++ [n]) =
      write config connections (stateAfter config connections nodes) n := by
  rw [stateAfter, List.foldl_append]
  rfl

/-- Writing a node enters its own variable and changes no other. -/
theorem find?_outputs_write (s : State) (n : Node) (x : String) :
    (write config connections s n).outputs.find? x =
      if x = n.id then (outputName? n).or (s.outputs.find? x) else s.outputs.find? x := by
  have houtput := output_contribution config s (s.scopeAt (home s connections n.id)) n
  rw [write, State.apply]
  cases hv : outputName? n with
  | none =>
    rw [houtput, hv, Option.none_or, ite_self]
  | some v =>
    rw [houtput, hv]
    show (s.outputs.insert n.id v).find? x = _
    rw [Table.find?_insert, Option.some_or]

/-- Only nodes that are written have variables. -/
theorem mem_ids_of_mem_outputs {nodes : List Node} {x : String}
    (hx : x ∈ (stateAfter config connections nodes).outputs.keys) : x ∈ nodes.map Node.id := by
  obtain ⟨v, hv⟩ := Table.exists_find?_of_mem_keys hx
  induction nodes using List.reverseRecOn with
  | nil => exact absurd hv nofun
  | append_singleton rest n ih =>
    rw [stateAfter_append_singleton, find?_outputs_write] at hv
    rw [List.map_append, List.mem_append]
    split at hv
    · next hid => exact Or.inr (List.mem_singleton.2 hid)
    · exact Or.inl (ih (Table.mem_keys_of_find? hv) hv)

/-- **The variables known** after some nodes are those that these nodes leave. -/
theorem find?_outputs_stateAfter {nodes : List Node} (hids : (nodes.map Node.id).Nodup)
    (x : String) : (stateAfter config connections nodes).outputs.find? x =
      (nodes.find? (·.id = x)).bind outputName? := by
  induction nodes using List.reverseRecOn with
  | nil => rfl
  | append_singleton rest n ih =>
    rw [List.map_append, List.nodup_append] at hids
    have hrest := ih hids.1
    rw [stateAfter_append_singleton, find?_outputs_write, hrest, List.find?_append]
    by_cases hx : x = n.id
    · -- the id is new, so none of the nodes before has it
      have hnone : rest.find? (·.id = x) = none := by
        refine List.find?_eq_none.2 fun m hm hid ↦ ?_
        exact hids.2.2 m.id (List.mem_map_of_mem hm) n.id (by simp)
          ((of_decide_eq_true hid).trans hx)
      have hlast : [n].find? (·.id = x) = some n :=
        List.find?_cons_of_pos (decide_eq_true hx.symm)
      rw [if_pos hx, hnone, Option.none_or, hlast]
      exact Option.or_none
    · have hlast : [n].find? (·.id = x) = none :=
        List.find?_cons_of_neg (by simpa using Ne.symm hx)
      rw [if_neg hx, hlast, Option.or_none]

end FlowCanvas.Emission
