import FlowCanvas.Diagram.Basic

/-!
# Changing a node

Users replace a node's name, position or properties as a whole; kind and category never change.
Changes are applied in order, and one that is at fault leaves the earlier ones in place. Nothing is
changed at all if one of them bears the name of an operand of the update itself.
-/

namespace FlowCanvas

/-- A new value for one field of a node, as it came in. -/
inductive Change where
  | name (value : Json)
  /-- Two coordinates in an array or a text. -/
  | position (value : Json)
  /-- An object, or pairs. -/
  | properties (value : Json)
  /-- A mapping that holds the properties. -/
  | config (value : Json)
  /-- Complete settings, of which only the properties are taken over. -/
  | settings (kind : String) (category : Label) (properties : Json)
  /-- A field that cannot be changed. -/
  | other (field : String)

namespace Change

/-- The field that is changed. -/
def field : Change → String
  | name _ => "name"
  | position _ => "position"
  | properties _ => "properties"
  | config _ | settings .. => "config"
  | other field => field

/-- Puts a change in the place of an earlier one of the same field, else at the end. -/
def enter (c : Change) : List Change → List Change
  | [] => [c]
  | d :: rest => if d.field = c.field then c :: rest else d :: enter c rest

/-- At most one change of each field: the last one, at the place of the first. -/
def merge (cs : List Change) : List Change := cs.foldl (fun acc c ↦ enter c acc) []

/-- The operands of an update itself, which no change may give again. -/
def operands : List String := ["self", "node_id"]

/-- The first operand of the update that one of its changes gives again. -/
def operand? (cs : List Change) : Option String := (cs.map field).find? operands.contains

/-- The properties inside a configuration. -/
def propertiesOf (config : Json) : Except Fault Properties :=
  if config.isVoid then .ok .empty
  else match config with
    | .obj members =>
      match Table.lookup "properties" members with
      | some v => v.toTableOrEmpty
      | none => .ok .empty
    | v => .error (.noMembers v.shape)

end Change

/-- A node after one change. -/
def Node.change (n : Node) : Change → Except Fault Node
  | .name v => .ok { n with name := v }
  | .position v => do
    let x ← (← v.item 0).toFloat
    let y ← (← v.item 1).toFloat
    return { n with position := ⟨x, y⟩ }
  | .properties v => do return { n with properties := ← v.toTableOrEmpty }
  | .config v => do return { n with properties := ← Change.propertiesOf v }
  | .settings _ _ v => do return { n with properties := ← v.toTable }
  | .other _ => .ok n

/-- A node after several changes, up to the first that is at fault. -/
def Node.changeAll (n : Node) : List Change → Node × Except Fault Unit
  | [] => (n, .ok ())
  | c :: rest =>
    match n.change c with
    | .ok n' => n'.changeAll rest
    | .error f => (n, .error f)

/-- Changes a node; an unknown id is ignored. -/
def Diagram.update (d : Diagram) (id : String) (changes : List Change) :
    Diagram × Except Fault Unit :=
  match Change.operand? changes with
  | some operand => (d, .error (.givenTwice "VisualModel.update_node()" operand))
  | none =>
    match d.nodes.find? id with
    | none => (d, .ok ())
    | some n =>
      let changed := n.changeAll changes
      ({ d with nodes := d.nodes.modify id fun _ ↦ changed.1 }, changed.2)

end FlowCanvas
