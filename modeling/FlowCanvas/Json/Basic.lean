/-!
# JSON values

Values as clients send them. Whole numbers and numbers written with a point or an exponent are
kept apart, and an object keeps its members in the order in which they were written.
-/

namespace FlowCanvas

/-- A JSON value. -/
inductive Json where
  | null
  | bool (b : Bool)
  | int (i : Int)
  | float (x : Float)
  | str (s : String)
  | arr (items : List Json)
  | obj (members : List (String × Json))
  deriving Inhabited

namespace Json

/-- What sort of value it is. -/
inductive Shape where
  | null
  | bool
  | int
  | float
  | str
  | arr
  | obj
  deriving DecidableEq

/-- The name of a shape in messages. -/
def Shape.name : Shape → String
  | null => "NoneType"
  | bool => "bool"
  | int => "int"
  | float => "float"
  | str => "str"
  | arr => "list"
  | obj => "dict"

/-- The shape of a value. -/
def shape : Json → Shape
  | null => .null
  | bool _ => .bool
  | int _ => .int
  | float _ => .float
  | str _ => .str
  | arr _ => .arr
  | obj _ => .obj

/-- Does the value stand for nothing: null, false, zero, or an empty text, array or object? -/
def isVoid : Json → Bool
  | null => true
  | bool b => !b
  | int i => i == 0
  | float x => x == 0
  | str s => s.isEmpty
  | arr items => items.isEmpty
  | obj members => members.isEmpty

/-! ### Nesting -/

mutual

/-- How deep arrays and objects lie in each other. -/
def depth : Json → Nat
  | arr items => itemDepth items + 1
  | obj members => memberDepth members + 1
  | _ => 0

/-- The depth of the deepest item. -/
def itemDepth : List Json → Nat
  | [] => 0
  | v :: rest => max (depth v) (itemDepth rest)

/-- The depth of the deepest member. -/
def memberDepth : List (String × Json) → Nat
  | [] => 0
  | (_, v) :: rest => max (depth v) (memberDepth rest)

end

/-- Arrays in each other, so many of them. -/
def nested : Nat → Json
  | 0 => null
  | n + 1 => arr [nested n]

end Json

end FlowCanvas
