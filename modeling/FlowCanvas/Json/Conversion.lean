import FlowCanvas.Json.Key
import FlowCanvas.Number.Reading
import FlowCanvas.Number.Shortest
import FlowCanvas.Table

/-!
# Reading numbers, pairs and tables out of values

Clients may send a number as a number, as true or false, or as text that writes one
(`Json.toFloat`). Properties come as an object, or as an array of pairs, where a pair is anything
that goes through as two items (`Json.toTable`). Each conversion names the cause when it fails.
-/

namespace FlowCanvas.Json

/-- The number that a value stands for. -/
def toFloat : Json → Except Fault Float
  | int i =>
    match Number.ofInt? i with
    | some x => .ok x
    | none => .error .integerTooLarge
  | float x => .ok x
  | bool b => .ok (if b then 1 else 0)
  | str s =>
    match Number.readFloat? s with
    | some x => .ok x
    | none => .error (.unreadableNumber s)
  | v => .error (.notNumeric v.shape)

/-- A text as the list of its characters. -/
def characters (s : String) : List Json := s.toList.map fun c ↦ str (String.singleton c)

/-- The items that a value goes through as: those of an array, the characters of a text, the
names of an object. -/
def items? : Json → Option (List Json)
  | arr items => some items
  | str s => some (characters s)
  | obj members => some (members.map fun m ↦ str m.1)
  | _ => none

/-- The item of a value at a place. -/
def item (v : Json) (place : Nat) : Except Fault Json :=
  match v with
  | arr items =>
    match items[place]? with
    | some x => .ok x
    | none => .error .shortArray
  | str s =>
    match (characters s)[place]? with
    | some x => .ok x
    | none => .error .shortText
  | obj _ => .error (.noMemberAt place)
  | v => .error (.notIndexable v.shape)

/-- The pair at a place of a list of pairs. -/
def toPair (place : Nat) (v : Json) : Except Fault (Key × Json) :=
  match items? v with
  | none => .error (.itemNotSequence place)
  | some [key, value] => (Key.ofJson key).map fun k ↦ (k, value)
  | some items => .error (.itemNotPair place items.length)

/-- The form in which a key stands in a table already, or the key itself. -/
def standing (t : Table Key Json) (k : Key) : Key := (t.keys.find? (·.same k)).getD k

/-- Lays pairs over a table, counting places from `place`. -/
def insertPairs (t : Table Key Json) (place : Nat) :
    List Json → Except Fault (Table Key Json)
  | [] => .ok t
  | v :: rest => do
    let pair ← toPair place v
    insertPairs (t.insert (standing t pair.1) pair.2) (place + 1) rest

/-- The table of some members. -/
def keyed (members : List (String × Json)) : Table Key Json :=
  Table.ofList (members.map fun m ↦ (Key.text m.1, m.2))

/-- The table that a value stands for: the members of an object, or pairs. -/
def toTable : Json → Except Fault (Table Key Json)
  | obj members => .ok (keyed members)
  | v =>
    match items? v with
    | some items => insertPairs .empty 0 items
    | none => .error (.notIterable v.shape)

/-- The table that a value stands for, where nothing stands for the empty table. -/
def toTableOrEmpty (v : Json) : Except Fault (Table Key Json) :=
  if v.isVoid then .ok .empty else v.toTable

end FlowCanvas.Json
