import FlowCanvas.Config
import FlowCanvas.Emission.State
import FlowCanvas.Node

/-!
# What each construct contributes

The value that a node reads is found among the variables of the nodes already written: the first
whose node stands among the reader's inputs or, for operands, whose id stands inside the input.
Where there is none, a declaration or assignment takes the zero value of its type, a condition is
`true`, and an operand is a default.
-/

namespace FlowCanvas.Emission

/-- The variable of the first node written that is one of the node's inputs. -/
def producer? (s : State) (n : Node) : Option String :=
  (s.outputs.entries.find? fun e ↦ n.inputs.contains e.1).map Prod.snd

/-- The variable of the first node written whose id stands inside an input. -/
def operand? (s : State) (input : String) : Option String :=
  (s.outputs.entries.find? fun e ↦ Text.occurs e.1 input).map Prod.snd

/-- What stands for a value that is not there. -/
def unresolved : String := "Default::default()"

/-- The inputs that carry values. -/
def valueInputs (n : Node) : List String := n.inputs.filter (· ≠ "execution")

/-- A variable declaration. -/
def letDeclaration (config : Config) (s : State) (n : Node) : Contribution :=
  let type := (n.textProperty? "type").getD config.defaultType
  let name := (n.textProperty? "name").getD ("var_" ++ n.id)
  let mutable := match n.property? "mutable" with
    | some (.bool true) => "mut "
    | _ => ""
  let value := (producer? s n).getD (zeroValue type)
  { lines := [(0, "let " ++ mutable ++ name ++ ": " ++ type ++ " = " ++ value ++ ";")]
    declares := some (name, type)
    output := some name
    opens := [] }

/-- An assignment. -/
def assignment (config : Config) (s : State) (scope : Nat) (n : Node) : Contribution :=
  let target := (n.textProperty? "target").getD ("var_" ++ n.id)
  let type := (s.scopes.lookup scope target).getD config.defaultType
  let value := (producer? s n).getD (zeroValue type)
  { lines := [(0, target ++ " = " ++ value ++ ";")]
    declares := none
    output := some target
    opens := [] }

/-- A function definition; its inputs are the parameters. -/
def functionDef (config : Config) (s : State) (scope : Nat) (n : Node) : Contribution :=
  let name := (n.textProperty? "name").getD ("func_" ++ n.id)
  let result := (n.textProperty? "return_type").getD config.defaultReturnType
  let params := (valueInputs n).map fun p ↦ (p, (s.scopes.lookup scope p).getD config.defaultType)
  let shown := ", ".intercalate (params.map fun p ↦ p.1 ++ ": " ++ p.2)
  { lines := [(0, "fn " ++ name ++ "(" ++ shown ++ ") -> " ++ result ++ " \x7b")]
    declares := none
    output := none
    opens := [(n.id, params)] }

/-- A function call; the inputs that nodes already written are bound to are the arguments. -/
def functionCall (s : State) (n : Node) : Contribution :=
  let name := (n.textProperty? "function_name").getD ("func_" ++ n.id)
  let args := (valueInputs n).filterMap s.outputs.find?
  let result := "call_" ++ n.id
  { lines := [(0, "let " ++ result ++ " = " ++ name ++ "(" ++ ", ".intercalate args ++ ");")]
    declares := none
    output := some result
    opens := [] }

/-- The operation of an operator that names none. -/
def defaultOperation : Construct → String
  | .comparison => "eq"
  | _ => "add"

/-- An operator between the first two inputs. -/
def operator (s : State) (construct : Construct) (n : Node) : Contribution :=
  let operation := (n.textProperty? "operation").getD (defaultOperation construct)
  let operand := fun (i : Nat) ↦ ((n.inputs[i]?).bind (operand? s)).getD unresolved
  let result := "temp_" ++ n.id
  { lines := [(0, "let " ++ result ++ " = " ++ operand 0 ++ " " ++ symbol operation ++ " " ++
      operand 1 ++ ";")]
    declares := none
    output := some result
    opens := [] }

/-- A conditional; it opens both branches. -/
def ifStatement (s : State) (n : Node) : Contribution :=
  let condition := ((n.textProperty? "condition").or (producer? s n)).getD "true"
  { lines := [(0, "if " ++ condition ++ " \x7b")]
    declares := none
    output := none
    opens := [(n.id ++ "_true", []), (n.id ++ "_false", [])] }

/-- A loop; with a break condition its first line inside tests it. -/
def loop (n : Node) : Contribution :=
  let test := match n.textProperty? "break_condition" with
    | some c => [(1, "if " ++ c ++ " \x7b break; \x7d")]
    | none => []
  { lines := (0, "loop \x7b") :: test
    declares := none
    output := none
    opens := [(n.id ++ "_body", [])] }

/-- What a node that is no construct adds. -/
def nothing : Contribution := ⟨[], none, none, []⟩

/-- What a node adds, in view of what is written and of the scope where it stands. -/
def contribution (config : Config) (s : State) (scope : Nat) (n : Node) : Contribution :=
  match emittedAs? n.effectiveKind n.category with
  | some .letDeclaration => letDeclaration config s n
  | some .assignment => assignment config s scope n
  | some .functionDef => functionDef config s scope n
  | some .functionCall => functionCall s n
  | some .ifStatement => ifStatement s n
  | some .loop => loop n
  | some .arithmetic => operator s .arithmetic n
  | some .comparison => operator s .comparison n
  | none => nothing

end FlowCanvas.Emission
