import FlowCanvas.Json.Basic
import FlowCanvas.Text.Quoted

/-!
# Faults

What can go wrong inside an operation, by cause, and the wording of each cause. A fault ends the
operation where it arises; what the operation changed before stays changed.
-/

namespace FlowCanvas

/-- The cause of an operation's failure. -/
inductive Fault where
  /-- A text that should hold a number does not. -/
  | unreadableNumber (text : String)
  /-- A value that cannot be read as a number. -/
  | notNumeric (shape : Json.Shape)
  /-- A whole number beyond the largest double. -/
  | integerTooLarge
  /-- A value without places to pick from. -/
  | notIndexable (shape : Json.Shape)
  /-- An array without the place that is asked for. -/
  | shortArray
  /-- A text without the place that is asked for. -/
  | shortText
  /-- An object has no member under a place's number. -/
  | noMemberAt (place : Nat)
  /-- A value without members to look up by name. -/
  | noMembers (shape : Json.Shape)
  /-- A value is nested too deep for what is being done with it. -/
  | tooDeep (doing : String)
  /-- A value that cannot be gone through item by item. -/
  | notIterable (shape : Json.Shape)
  /-- An item that should be a pair is not a sequence at all. -/
  | itemNotSequence (place : Nat)
  /-- An item that should be a pair has another length. -/
  | itemNotPair (place length : Nat)
  /-- A value that cannot serve as a key. -/
  | notKey (shape : Json.Shape)
  /-- Two keys that have no order. -/
  | noOrder (first second : Json.Shape)
  /-- A pin's slot lies beyond the end of the node's inputs. -/
  | slotOutOfRange
  /-- A change gives an operand that its operation has been given already. -/
  | givenTwice (operation operand : String)
  /-- A size that no index can count up to. -/
  | sizeOutOfRange
  /-- A text too long to be held. -/
  | outOfMemory
  /-- A division by zero. -/
  | divisionByZero
  /-- A text that would break the line of a header. -/
  | brokenHeader
  deriving DecidableEq

/-- The wording of a fault. -/
def Fault.message : Fault → String
  | unreadableNumber text => "could not convert string to float: " ++ Text.quoted text
  | notNumeric shape =>
    "float() argument must be a string or a real number, not '" ++ shape.name ++ "'"
  | integerTooLarge => "int too large to convert to float"
  | notIndexable shape => "'" ++ shape.name ++ "' object is not subscriptable"
  | shortArray => "list index out of range"
  | shortText => "string index out of range"
  | noMemberAt place => toString place
  | noMembers shape => "'" ++ shape.name ++ "' object has no attribute 'get'"
  | tooDeep doing => "maximum recursion depth exceeded" ++ doing
  | notIterable shape => "'" ++ shape.name ++ "' object is not iterable"
  | itemNotSequence place =>
    "cannot convert dictionary update sequence element #" ++ toString place ++ " to a sequence"
  | itemNotPair place length =>
    "dictionary update sequence element #" ++ toString place ++ " has length " ++
      toString length ++ "; 2 is required"
  | notKey shape => "unhashable type: '" ++ shape.name ++ "'"
  | noOrder first second =>
    "'<' not supported between instances of '" ++ first.name ++ "' and '" ++ second.name ++ "'"
  | slotOutOfRange => "list assignment index out of range"
  | givenTwice operation operand =>
    operation ++ " got multiple values for argument '" ++ operand ++ "'"
  | sizeOutOfRange => "cannot fit 'int' into an index-sized integer"
  | outOfMemory => ""
  | divisionByZero => "float division by zero"
  | brokenHeader => "Header values must not contain newline characters."

/-- Of two steps that succeed one after the other, each does. -/
theorem exists_of_bind_eq_ok {ε α β : Type} {x : Except ε α} {f : α → Except ε β} {b : β}
    (h : (x >>= f) = .ok b) : ∃ a, x = .ok a ∧ f a = .ok b := by
  cases x with
  | error e => exact absurd h nofun
  | ok a => exact ⟨a, rfl, h⟩

theorem eq_ok_of_toOption {ε α : Type} {x : Except ε α} {a : α} (h : x.toOption = some a) :
    x = .ok a := by
  cases x with
  | error e => exact absurd h nofun
  | ok b => exact congrArg Except.ok (Option.some.inj h)

end FlowCanvas
