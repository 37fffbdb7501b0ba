import FlowCanvas.Fault

/-!
# Labels

The category of a node is a label. Clients choose labels freely as long as they can be compared:
texts, numbers and truth values, but no arrays and objects.
-/

namespace FlowCanvas

/-- A value that can name a category. -/
inductive Label where
  | text (s : String)
  | whole (i : Int)
  | decimal (x : Float)
  | flag (b : Bool)
  deriving Inhabited

namespace Label

/-- The label as a value. -/
def toJson : Label → Json
  | text s => .str s
  | whole i => .int i
  | decimal x => .float x
  | flag b => .bool b

/-- The label that a value stands for; null stands for none. -/
def ofJson : Json → Except Fault (Option Label)
  | .null => .ok none
  | .bool b => .ok (some (flag b))
  | .int i => .ok (some (whole i))
  | .float x => .ok (some (decimal x))
  | .str s => .ok (some (text s))
  | v => .error (.notKey v.shape)

/-- Is it the label with this text? -/
def isText (key : String) : Label → Bool
  | text s => s == key
  | _ => false

/-- The category of a node that is in no catalog: the label asked for, unless that says
nothing. -/
def orUnknown : Option Label → Label
  | some l => if l.toJson.isVoid then text "unknown" else l
  | none => text "unknown"

end Label

end FlowCanvas
