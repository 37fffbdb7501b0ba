import FlowCanvas.Catalog.Pins

/-!
# What a node is written as

`emittedAs?` says which construct a node of a kind and category is written as. Assignments and
calls are looked for before declarations and definitions, and operators by their exact kinds.
A node that is no construct is left out of the export.

The operators write a symbol, which their `operation` names; a name that is not in the table is
written as it stands. The texts that a construct is made of are set on its node under the names in
`textKeys`.
-/

namespace FlowCanvas.Emission

/-- The construct that a node of a kind and category is written as. -/
def emittedAs? (kind : String) (category : Label) : Option Construct :=
  match Category.ofLabel? category with
  | some .controlFlow => Catalog.contained? kind [.ifStatement, .loop]
  | some .bindings => Catalog.contained? kind [.assignment, .letDeclaration]
  | some .functions => Catalog.contained? kind [.functionCall, .functionDef]
  | some .operators => [Construct.arithmetic, .comparison].find? (·.key = kind)
  | none => none

/-- The names of the texts that a node of a construct is read for, in the order of reading. -/
def textKeys : Construct → List String
  | .letDeclaration => ["type", "name"]
  | .assignment => ["target"]
  | .functionDef => ["name", "return_type"]
  | .functionCall => ["function_name"]
  | .arithmetic | .comparison => ["operation"]
  | .ifStatement => ["condition"]
  | .loop => ["break_condition"]

/-- The symbols of the operations. -/
def symbols : List (String × String) := [
  ("add", "+"), ("subtract", "-"), ("multiply", "*"), ("divide", "/"),
  ("eq", "=="), ("neq", "!="), ("gt", ">"), ("lt", "<"), ("gte", ">="), ("lte", "<=")]

/-- The symbol of an operation. -/
def symbol (operation : String) : String := (Table.lookup operation symbols).getD operation

/-- The value that a variable of a type starts with. -/
def zeroValue (type : String) : String :=
  if Text.isBlankText type then "0"
  else
    let t := Text.strip type
    if ["i32", "i64", "u32", "u64"].contains t then "0"
    else if ["f32", "f64"].contains t then "0.0"
    else if t = "bool" then "false"
    else if t = "String" then "String::new()"
    else if "Vec<".toList.isPrefixOf t.toList then "vec![]"
    else "Default::default()"

/-- The value that a variable starts with whose type came in as any value. -/
def zeroValueOf : Json → String
  | .str type => zeroValue type
  | _ => "0"

end FlowCanvas.Emission
