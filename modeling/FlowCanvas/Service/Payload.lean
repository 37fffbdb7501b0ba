import FlowCanvas.Json.Conversion
import FlowCanvas.Json.Display
import FlowCanvas.Machine
import FlowCanvas.Point
import FlowCanvas.Table

/-!
# Payloads

The body of a request should be a JSON object. A payload of the wrong shape is rejected, which is the
client's mistake; a fault on the way is a failure of its own kind.
-/

namespace FlowCanvas.Service

/-- What is wrong with a payload. -/
inductive Rejection where
  /-- There is no JSON object. -/
  | notObject
  /-- A required field is missing. -/
  | missing (field : String)
  /-- A field should hold an object. -/
  | notObjectField (field : String)
  /-- A field should hold a point. -/
  | notPoint (field : String)
  /-- A field should hold a number. -/
  | notNumber (field : String)
  /-- The deltas of a pan should be numbers. -/
  | notDeltas
  deriving DecidableEq

namespace Rejection

/-- The wording of a rejection. -/
def message : Rejection → String
  | notObject => "Request body must be a JSON object"
  | missing field => "Missing required field: " ++ field
  | notObjectField field => "Field '" ++ field ++ "' must be an object"
  | notPoint field => "Field '" ++ field ++ "' must be a point"
  | notNumber field => "Field '" ++ field ++ "' must be a number"
  | notDeltas => "Pan deltas must be numbers"

/-- The field that is to blame, if it is a single one. -/
def field? : Rejection → Option String
  | missing field | notObjectField field | notPoint field | notNumber field => some field
  | notObject | notDeltas => none

end Rejection

/-- Why a request fails. -/
inductive Failure where
  | rejected (r : Rejection)
  | fault (f : Fault)
  deriving DecidableEq

/-- The wording of a failure. -/
def Failure.message : Failure → String
  | rejected r => r.message
  | fault f => f.message

/-- What the body of a request is read as: a JSON value, or nothing if it is no JSON. Reading it may
be at fault, as it is with a body that is nested too deep. -/
abbrev Content := Except Fault (Option Json)

/-- The members of a request's object, of which some are required. -/
def payload (content : Content) (required : List String) :
    Except Failure (List (String × Json)) := do
  match ← content.mapError Failure.fault with
  | some (.obj members) =>
    match required.find? fun key ↦ (Table.lookup key members).isNone with
    | some key => .error (.rejected (.missing key))
    | none => .ok members
  | _ => .error (.rejected .notObject)

/-- Reads any value as a text. -/
def readText (machine : Machine) : Json → Except Failure String
  | .str s => .ok s
  | v =>
    match machine.showFault? v with
    | some f => .error (.fault f)
    | none => .ok v.plain

/-- Reads a number. A value that is none is rejected, but a number too large is a fault. -/
def readNumber (r : Rejection) (v : Json) : Except Failure Float :=
  match v.toFloat with
  | .ok x => .ok x
  | .error .integerTooLarge => .error (.fault .integerTooLarge)
  | .error _ => .error (.rejected r)

/-- Reads a point: an object with `x` and `y`, or two items. -/
def readPoint (field : String) (v : Json) : Except Failure Point :=
  let bad : Rejection := .notPoint field
  match v with
  | .obj members => do
    let x ← readNumber bad (← ((Table.lookup "x" members).elim (.error (.rejected bad)) .ok))
    let y ← readNumber bad (← ((Table.lookup "y" members).elim (.error (.rejected bad)) .ok))
    return ⟨x, y⟩
  | _ =>
    match v.items? with
    | some [a, b] => do
      let x ← readNumber bad a
      let y ← readNumber bad b
      return ⟨x, y⟩
    | _ => .error (.rejected bad)

/-- Reads an object. -/
def readObject (field : String) : Json → Except Failure (List (String × Json))
  | .obj members => .ok members
  | _ => .error (.rejected (.notObjectField field))

end FlowCanvas.Service
