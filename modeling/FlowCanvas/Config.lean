import FlowCanvas.Machine
import FlowCanvas.Number.Reading
import FlowCanvas.Table
import FlowCanvas.Text.Blank
import FlowCanvas.Text.Case

/-!
# Configuration

The settings of code export and canvas. `Config.load` starts from the defaults, takes what the
environment sets, and lays explicit settings over both. A variable that is blank counts as not
set; an indentation that is not a whole number is ignored, and a negative one is zero. Any whole
number can be chosen explicitly, also one by which no machine can indent a line.
-/

namespace FlowCanvas

/-- The settings of export and canvas. -/
structure Config where
  /-- How many spaces one level of indentation has; below zero none. -/
  indentSize : Int
  /-- The lines at the top of an export. -/
  headerLines : List String
  /-- The type of a variable that names none. -/
  defaultType : String
  /-- The type of a function that names none. -/
  defaultReturnType : String
  /-- The file name of an export. -/
  exportFilename : String
  /-- Are consumers written before producers? -/
  consumersFirst : Bool
  canvasWidth : Float
  canvasHeight : Float

namespace Config

/-- The settings without any choice made. -/
def default : Config where
  indentSize := 4
  headerLines := ["// Generated Rust Code", "use std::io;", ""]
  defaultType := "i32"
  defaultReturnType := "()"
  exportFilename := "generated_code.rs"
  consumersFirst := false
  canvasWidth := 1920
  canvasHeight := 1080

instance : Inhabited Config := ⟨default⟩

/-- The indentation at a level. -/
def indent (c : Config) (level : Nat) : String :=
  String.ofList (List.replicate (c.indentSize.toNat * level) ' ')

/-- One level of indentation, if the machine has room for it. -/
def indentUnit (machine : Machine) (c : Config) : Except Fault String :=
  match machine.indentFault? c.indentSize 1 with
  | some f => .error f
  | none => .ok (c.indent 1)

/-- Choices for some of the settings. -/
structure Choices where
  indentSize : Option Int
  headerLines : Option (List String)
  defaultType : Option String
  defaultReturnType : Option String
  exportFilename : Option String
  consumersFirst : Option Bool
  canvasWidth : Option Float
  canvasHeight : Option Float

/-- No choice at all. -/
def Choices.none : Choices := ⟨.none, .none, .none, .none, .none, .none, .none, .none⟩

/-- The settings with some choices made. -/
def choose (c : Config) (choices : Choices) : Config where
  indentSize := choices.indentSize.getD c.indentSize
  headerLines := choices.headerLines.getD c.headerLines
  defaultType := choices.defaultType.getD c.defaultType
  defaultReturnType := choices.defaultReturnType.getD c.defaultReturnType
  exportFilename := choices.exportFilename.getD c.exportFilename
  consumersFirst := choices.consumersFirst.getD c.consumersFirst
  canvasWidth := choices.canvasWidth.getD c.canvasWidth
  canvasHeight := choices.canvasHeight.getD c.canvasHeight

/-- The value of an environment variable without white space around it, unless it is blank. -/
def setting? (env : Table String String) (name : String) : Option String :=
  match (env.find? name).map Text.strip with
  | some s => if s.isEmpty then .none else some s
  | .none => .none

/-- The words that switch something on. -/
def switchedOn (s : String) : Bool := ["1", "true", "yes", "on"].contains (Text.lower s)

/-- The choices that the environment makes. -/
def Choices.ofEnvironment (env : Table String String) : Choices :=
  { Choices.none with
    indentSize := ((setting? env "VCODEGEN_INDENT_SIZE").bind Number.readInt?).map fun n ↦ max 0 n
    defaultType := setting? env "VCODEGEN_DEFAULT_TYPE"
    exportFilename := setting? env "VCODEGEN_EXPORT_FILENAME"
    consumersFirst := (setting? env "VCODEGEN_LEGACY_ORDER").map switchedOn }

/-- The settings in an environment, with explicit choices on top. -/
def load (env : Table String String) (choices : Choices) : Config :=
  (default.choose (.ofEnvironment env)).choose choices

end Config

end FlowCanvas
