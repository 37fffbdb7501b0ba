import FlowCanvas.Catalog.Basic
import FlowCanvas.Pin

/-!
# The pins of each kind

Every construct has a fixed list of pins. A node gets the pins of the construct whose kind stands
inside its own kind, so `nested_loop` has the pins of `loop`; in the category of operators all
kinds have the same pins.
-/

namespace FlowCanvas

namespace Pin

/-- A pin for the flow of execution. -/
def exec (id name : String) (direction : Direction) : Pin :=
  ⟨id, name, .execution, direction, none, "#FF6B6B"⟩

/-- A pin for values. -/
def value (id name : String) (direction : Direction) (dataType : Option String) : Pin :=
  ⟨id, name, .data, direction, dataType, "#4ECDC4"⟩

end Pin

/-- The pins of a construct. -/
def Construct.pins : Construct → List Pin
  | ifStatement =>
    [.exec "exec_in" "In" .input, .value "condition" "Condition" .input (some "bool"),
      .exec "then" "Then" .output, .exec "else" "Else" .output]
  | loop =>
    [.exec "exec_in" "In" .input, .exec "body" "Loop Body" .output,
      .exec "completed" "Completed" .output]
  | letDeclaration | assignment =>
    [.exec "exec_in" "In" .input, .value "value" "Value" .input none,
      .exec "exec_out" "Out" .output, .value "var_out" "Variable" .output none]
  | functionDef =>
    [.exec "exec_body" "Body" .output, .value "return_value" "Return" .input none]
  | functionCall =>
    [.exec "exec_in" "In" .input, .exec "exec_out" "Out" .output,
      .value "params" "Parameters" .input none, .value "return" "Return Value" .output none]
  | arithmetic | comparison =>
    [.value "left" "Left" .input none, .value "right" "Right" .input none,
      .value "result" "Result" .output none]

namespace Catalog

/-- The first of some constructs whose kind stands inside a given kind. -/
def contained? (kind : String) (candidates : List Construct) : Option Construct :=
  candidates.find? fun c ↦ Text.occurs c.key kind

/-- The construct whose pins a node of a kind and category gets. -/
def pinnedAs? (kind : String) (category : Label) : Option Construct :=
  match Category.ofLabel? category with
  | some .controlFlow => contained? kind [.ifStatement, .loop]
  | some .bindings => contained? kind [.letDeclaration, .assignment]
  | some .functions => contained? kind [.functionDef, .functionCall]
  | some .operators => some .arithmetic
  | none => none

/-- The pins of a kind and category, in order; none for an unknown pair. -/
def pins (kind : String) (category : Label) : List Pin :=
  match pinnedAs? kind category with
  | some c => c.pins
  | none => []

end Catalog

end FlowCanvas
