import FlowCanvas.Fault

/-!
# The machine

Some of what is done here can be refused by the machine that it is done on: values may be nested too
deep in each other to be shown or written as text, a line may be indented too far, a text may be too
long to be held or unfit for a header. Where the limits are depends on the machine and on what it is
busy with, so they are supplied data. A `Machine` says what is refused and with which fault, and
nothing here depends on where its limits are.

`Machine.bounded` is one machine among others, with limits that can be computed.
-/

namespace FlowCanvas

/-- What a machine refuses, and with which fault. -/
structure Machine where
  /-- Why a value that is no text cannot be shown as one. -/
  showFault? : Json → Option Fault
  /-- Why a value that is no text cannot be entered in the log. -/
  logFault? : Json → Option Fault
  /-- Why a line cannot be indented, by the size of a level and the number of levels. -/
  indentFault? : Int → Nat → Option Fault
  /-- Why a text cannot be put together and held. -/
  holdFault? : String → Option Fault
  /-- Why a value cannot be written as JSON text. -/
  writeFault? : Json → Option Fault
  /-- Why a text cannot stand in a header. -/
  headerFault? : String → Option Fault

namespace Machine

/-- A machine that refuses nothing. -/
def unlimited : Machine where
  showFault? _ := none
  logFault? _ := none
  indentFault? _ _ := none
  holdFault? _ := none
  writeFault? _ := none
  headerFault? _ := none

/-- From here on, in either direction, a number is too large for an index: `2 ^ 63`. -/
def indexLimit : Int := 0x8000000000000000

/-- A machine that has to go into values for what it does with them, and that can go so deep and not
deeper. Its texts have no more than so many characters, and its indices 64 bits. A header is one
line. -/
def bounded (nesting memory : Nat) : Machine where
  showFault? v := if nesting < v.depth then some (.tooDeep " while getting the repr of an object")
    else none
  logFault? v := if nesting < v.depth then some (.tooDeep " while getting the repr of an object")
    else none
  indentFault? size level :=
    if size < -indexLimit ∨ indexLimit ≤ size then some .sizeOutOfRange
    else if memory < size.toNat * max 1 level then some .outOfMemory
    else none
  holdFault? text := if memory < text.length then some .outOfMemory else none
  writeFault? v := if nesting < v.depth then some (.tooDeep " while encoding a JSON object")
    else none
  headerFault? text := if text.toList.any fun c ↦ c = '\r' || c = '\n' then some .brokenHeader
    else none

end Machine

end FlowCanvas
