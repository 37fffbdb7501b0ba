import FlowCanvas.Fault
import FlowCanvas.Json.Display
import FlowCanvas.Number.Comparison
import FlowCanvas.Sort.Basic

/-!
# Keys

The keys of a table may be texts, null, truth values and numbers. Truth values and numbers are the
same key when they have the same value, true being one and false zero (`Key.same`); a key keeps the
form in which it came first. Texts can be put in order, and so can numbers, but there is no order
between a text, a number and null.

`sorted` puts keys in order, and fails with the first two that are compared and have none.
-/

namespace FlowCanvas.Json

/-- A value that can serve as a key. -/
inductive Key where
  | text (s : String)
  | null
  | flag (b : Bool)
  | whole (i : Int)
  /-- A double, by its bits. -/
  | decimal (bits : UInt64)
  deriving DecidableEq

namespace Key

/-- The key as a value. -/
def toJson : Key → Json
  | text s => .str s
  | null => .null
  | flag b => .bool b
  | whole i => .int i
  | decimal bits => .float (Float.ofBits bits)

/-- The key that a value serves as. -/
def ofJson : Json → Except Fault Key
  | .str s => .ok (text s)
  | .null => .ok null
  | .bool b => .ok (flag b)
  | .int i => .ok (whole i)
  | .float x => .ok (decimal x.toBits)
  | v => .error (.notKey v.shape)

/-- The text that takes a key's place. -/
def plain (k : Key) : String := k.toJson.plain

/-- The name that a member has in JSON text under this key. -/
def name : Key → String
  | text s => s
  | null => "null"
  | flag b => if b then "true" else "false"
  | whole i => toString i
  | decimal bits =>
    let shown := Number.text (Float.ofBits bits)
    if shown = "nan" then "NaN"
    else if shown = "inf" then "Infinity"
    else if shown = "-inf" then "-Infinity"
    else shown

/-! ### Comparing keys -/

/-- The value of a number or truth value. -/
def value? : Key → Option Number.Extended
  | flag b => some (.ofInt (if b then 1 else 0))
  | whole i => some (.ofInt i)
  | decimal bits => Number.Extended.ofBits? bits.toNat
  | _ => none

/-- Do two keys stand for the same entry? -/
def same (a b : Key) : Bool :=
  a == b || match a.value?, b.value? with
    | some x, some y => x.same y
    | _, _ => false

/-- Is it a number or a truth value? -/
def isNumeric : Key → Bool
  | flag _ | whole _ | decimal _ => true
  | _ => false

/-- Does the first key stand before the second? A NaN stands before nothing and nothing before it;
keys that have no order are a fault. -/
def precedes (a b : Key) : Except Fault Bool :=
  match a, b with
  | text s, text t => .ok (decide (s < t))
  | a, b =>
    if a.isNumeric && b.isNumeric then
      match a.value?, b.value? with
      | some x, some y => .ok (x.less y)
      | _, _ => .ok false
    else .error (.noOrder a.toJson.shape b.toJson.shape)

/-- The keys in ascending order. -/
def sorted (keys : List Key) : Except Fault (List Key) := Sort.sorted precedes keys

end Key

end FlowCanvas.Json
