import FlowCanvas.Catalog.Pins
import FlowCanvas.Json.Conversion
import FlowCanvas.Point

/-!
# Nodes

A node of the diagram: its kind and category, what the user set on it, its pins, and its declared
inputs. An input holds the name of its slot until a data connection binds it to the id of the node
that produces the value; the n-th input pin feeds the n-th slot.

On a node whose inputs are as long as its slots binding never fails (`bind_eq_ok`).
-/

namespace FlowCanvas

/-- What is set on a node, under keys. -/
abbrev Properties := Table Json.Key Json

/-- A node of the diagram. -/
structure Node where
  id : String
  /-- The kind it was created as. -/
  kind : String
  /-- What is shown as its name. -/
  name : Json
  position : Point
  /-- The kind in its settings, which counts where `kind` is empty. -/
  configKind : String
  category : Label
  properties : Properties
  pins : List Pin
  inputs : List String
  outputs : List String
  /-- The names of the inputs as declared. -/
  slots : List String
  deriving Inhabited

namespace Node

/-- Fills in what follows from the rest: without slots the inputs are the slots, and without a
kind in the settings the node's own kind stands there. -/
def complete (n : Node) : Node :=
  { n with
    slots := if n.slots.isEmpty then n.inputs else n.slots
    configKind := if n.configKind.isEmpty then n.kind else n.configKind }

/-- The kind that counts. -/
def effectiveKind (n : Node) : String := if n.kind.isEmpty then n.configKind else n.kind

/-- The pin with an id. -/
def pin? (n : Node) (id : String) : Option Pin := n.pins.find? (·.id = id)

/-- The pins that let something in. -/
def inputPins (n : Node) : List Pin := n.pins.filter (·.direction = .input)

/-- The pins that let something out. -/
def outputPins (n : Node) : List Pin := n.pins.filter (·.direction = .output)

/-- Which declared input a pin feeds. -/
def slotIndex? (n : Node) (pin : String) : Option Nat :=
  (n.inputPins.findIdx? (·.id = pin)).filter (· < n.slots.length)

/-- Takes every binding off the inputs. -/
def reset (n : Node) : Node := { n with inputs := n.slots }

/-- Binds the input behind a pin to a producer. There is nothing to bind behind a pin without a
slot; a slot beyond the end of the inputs is a fault. -/
def bind (n : Node) (pin producer : String) : Except Fault (Option Node) :=
  match n.slotIndex? pin with
  | none => .ok none
  | some i =>
    if i < n.inputs.length then .ok (some { n with inputs := n.inputs.set i producer })
    else .error .slotOutOfRange

/-- Binds where that is possible and leaves the node as it is elsewhere. -/
def bindIfPossible (n : Node) (pin producer : String) : Node :=
  match n.bind pin producer with
  | .ok (some bound) => bound
  | _ => n

/-- The value of a property that has a name. -/
def property? (n : Node) (key : String) : Option Json := n.properties.find? (.text key)

/-- A property that is a text with something to see in it. -/
def textProperty? (n : Node) (key : String) : Option String :=
  match n.property? key with
  | some (.str s) => if Text.isBlankText s then none else some s
  | _ => none

/-- A property that is there and is neither null nor a text. -/
def malformed? (n : Node) (key : String) : Option Json :=
  match n.property? key with
  | none | some .null | some (.str _) => none
  | some v => some v

/-! ### Binding -/

theorem slotIndex?_lt {n : Node} {pin : String} {i : Nat} (h : n.slotIndex? pin = some i) :
    i < n.slots.length := by
  simpa using (Option.filter_eq_some_iff.1 h).2

/-- On a node whose inputs are as long as its slots, binding never fails. -/
theorem bind_eq_ok {n : Node} (hl : n.inputs.length = n.slots.length) (pin producer : String) :
    n.bind pin producer = .ok ((n.slotIndex? pin).map fun i ↦
      { n with inputs := n.inputs.set i producer }) := by
  unfold bind
  cases h : n.slotIndex? pin with
  | none => rfl
  | some i =>
    have : i < n.inputs.length := hl ▸ slotIndex?_lt h
    simp [this]

theorem bindIfPossible_eq {n : Node} (hl : n.inputs.length = n.slots.length)
    (pin producer : String) :
    n.bindIfPossible pin producer =
      match n.slotIndex? pin with
      | some i => { n with inputs := n.inputs.set i producer }
      | none => n := by
  unfold bindIfPossible
  rw [bind_eq_ok hl]
  cases n.slotIndex? pin <;> rfl

end Node

end FlowCanvas
