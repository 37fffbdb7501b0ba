import FlowCanvas.Label
import FlowCanvas.Table
import FlowCanvas.Text.Blank
import FlowCanvas.Text.Case
import FlowCanvas.Text.Occurrence

/-!
# The catalog of node kinds

Every node is created from one of eight constructs in four categories. An entry of the catalog
fixes the construct's name, its editable properties, and the inputs and outputs that a new node
declares. `Catalog.find?` looks an entry up by kind and category; `Catalog.search` filters the
catalog for the menu of new nodes.
-/

namespace FlowCanvas

/-- The categories of constructs. -/
inductive Category where
  | controlFlow
  | bindings
  | functions
  | operators
  deriving DecidableEq

/-- The name of a category. -/
def Category.key : Category → String
  | controlFlow => "control_flow"
  | bindings => "variables"
  | functions => "functions"
  | operators => "operators"

/-- The categories in catalog order. -/
def Category.all : List Category := [controlFlow, bindings, functions, operators]

/-- The category that a label names. -/
def Category.ofLabel? (l : Label) : Option Category := all.find? fun c ↦ l.isText c.key

/-- The constructs a program is built from. -/
inductive Construct where
  | ifStatement
  | loop
  | letDeclaration
  | assignment
  | functionDef
  | functionCall
  | arithmetic
  | comparison
  deriving DecidableEq

namespace Construct

/-- The constructs in catalog order. -/
def all : List Construct :=
  [ifStatement, loop, letDeclaration, assignment, functionDef, functionCall, arithmetic,
    comparison]

/-- The kind of a construct's nodes. -/
def key : Construct → String
  | ifStatement => "if_statement"
  | loop => "loop"
  | letDeclaration => "let_declaration"
  | assignment => "assignment"
  | functionDef => "function_def"
  | functionCall => "function_call"
  | arithmetic => "arithmetic"
  | comparison => "comparison"

/-- The category of a construct. -/
def category : Construct → Category
  | ifStatement | loop => .controlFlow
  | letDeclaration | assignment => .bindings
  | functionDef | functionCall => .functions
  | arithmetic | comparison => .operators

end Construct

/-- An editable property of a node. -/
structure Property where
  key : String
  /-- The kind of editor it is shown in. -/
  type : String
  label : String
  description : String
  required : Bool
  /-- What a new node has, if anything. -/
  initial : Option Json
  /-- Values to choose from, each with the text that is shown for it. -/
  options : List (String × String)

/-- An entry of the catalog. -/
structure Entry where
  key : String
  name : String
  category : Category
  description : String
  properties : List Property
  /-- The inputs that a new node declares. -/
  inputs : List String
  /-- The outputs that a new node declares. -/
  outputs : List String

/-- The property values that a new node starts with. -/
def Entry.defaults (e : Entry) : Table String Json :=
  Table.ofList (e.properties.filterMap fun p ↦ p.initial.map fun v ↦ (p.key, v))

namespace Catalog

/-- A required property without options. -/
def required (key type label : String) : Property := ⟨key, type, label, "", true, none, []⟩

/-- What the editor shows for each construct. -/
def description : Construct → String × String
  | .ifStatement => ("If Statement", "Conditional branching")
  | .loop => ("Loop", "Infinite loop with break condition")
  | .letDeclaration => ("Let Declaration", "Variable declaration")
  | .assignment => ("Assignment", "Assign value to variable")
  | .functionDef => ("Function Definition", "Define a new function")
  | .functionCall => ("Function Call", "Call a function")
  | .arithmetic => ("Arithmetic", "Basic arithmetic operations")
  | .comparison => ("Comparison", "Comparison operations")

/-- The editable properties of each construct. -/
def properties : Construct → List Property
  | .ifStatement =>
    [⟨"condition", "string", "Condition", "Boolean expression", true, none, []⟩]
  | .loop =>
    [⟨"break_condition", "string", "Break Condition",
      "Expression that breaks the loop when true", false, none, []⟩]
  | .letDeclaration =>
    [required "name" "string" "Variable Name",
      ⟨"type", "rust_type", "Type", "", true, none,
        [("i32", "i32 (32-bit integer)"), ("f64", "f64 (64-bit float)"), ("String", "String"),
          ("bool", "bool"), ("Vec<T>", "Vec (Vector)")]⟩,
      ⟨"mutable", "boolean", "Mutable", "", false, some (.bool false), []⟩]
  | .assignment => [required "target" "string" "Target Variable"]
  | .functionDef =>
    [required "name" "string" "Function Name",
      ⟨"return_type", "rust_type", "Return Type", "", true, none,
        [("()", "Unit (no return)"), ("i32", "i32"), ("String", "String"), ("bool", "bool")]⟩]
  | .functionCall => [required "function_name" "string" "Function Name"]
  | .arithmetic =>
    [⟨"operation", "select", "Operation", "", true, none,
      [("add", "Add (+)"), ("subtract", "Subtract (-)"), ("multiply", "Multiply (*)"),
        ("divide", "Divide (/)")]⟩]
  | .comparison =>
    [⟨"operation", "select", "Operation", "", true, none,
      [("eq", "Equals (==)"), ("neq", "Not Equals (!=)"), ("gt", "Greater Than (>)"),
        ("lt", "Less Than (<)"), ("gte", "Greater Than or Equal (>=)"),
        ("lte", "Less Than or Equal (<=)")]⟩]

/-- The inputs that a new node of each construct declares. -/
def inputs : Construct → List String
  | .ifStatement => ["execution", "condition"]
  | .loop => ["execution"]
  | .letDeclaration | .assignment => ["execution", "value"]
  | .functionDef => []
  | .functionCall => ["execution", "arguments"]
  | .arithmetic | .comparison => ["left", "right"]

/-- The outputs that a new node of each construct declares. -/
def outputs : Construct → List String
  | .ifStatement => ["true_branch", "false_branch"]
  | .loop => ["body", "after_loop"]
  | .letDeclaration | .assignment => ["execution"]
  | .functionDef => ["body"]
  | .functionCall => ["execution", "return_value"]
  | .arithmetic | .comparison => ["result"]

/-- The entry of a construct. -/
def entry (c : Construct) : Entry :=
  ⟨c.key, (description c).1, c.category, (description c).2, properties c, inputs c, outputs c⟩

/-- All entries in catalog order. -/
def entries : List Entry := Construct.all.map entry

/-- The entry of a kind, in a given category or in any. -/
def find? (kind : String) (category : Option Label) : Option Entry :=
  entries.find? fun e ↦
    e.key == kind && (match category with
      | some l => l.isText e.category.key
      | none => true)

/-- The entries whose kind or name holds a search term, in either case. White space around the
term does not count, and an empty term is in every entry. -/
def matching (term : String) : List Entry :=
  let wanted := Text.lower (Text.strip term)
  entries.filter fun e ↦
    Text.occurs wanted (Text.lower e.key) || Text.occurs wanted (Text.lower e.name)

/-- The matching entries by category; a category without any is left out. -/
def search (term : String) : List (Category × List Entry) :=
  (Category.all.map fun c ↦ (c, (matching term).filter (·.category = c))).filter (!·.2.isEmpty)

end Catalog

end FlowCanvas
