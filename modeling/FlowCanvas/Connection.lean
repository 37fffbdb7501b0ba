import FlowCanvas.Node

/-!
# Connections

A connection leads from a pin of one node to a pin of another. Its ends name nodes and pins; an
end may also name the kind of a pin instead of a pin.
-/

namespace FlowCanvas

/-- One end of a connection: a node and one of its pins, by their ids. -/
structure Terminal where
  node : String
  pin : String
  deriving DecidableEq, Inhabited

/-- A connection between two nodes. -/
structure Connection where
  id : String
  source : Terminal
  target : Terminal
  signal : Signal
  /-- The type of the value it carries, where one is known. -/
  dataType : Option String
  /-- Where it is drawn from. -/
  sourcePoint : Point
  /-- Where it is drawn to. -/
  targetPoint : Point
  deriving Inhabited

/-- Does a name on a node mean the flow of execution? A name that is no pin's id may be the name
of the signal itself. -/
def Node.isExecution (n : Node) (pin : String) : Bool :=
  match n.pin? pin with
  | some p => p.signal = .execution
  | none => pin = Signal.execution.key

/-- The value type of a pin. -/
def Node.dataType? (n : Node) (pin : String) : Option String := (n.pin? pin).bind (·.dataType)

namespace Connection

/-- The edge that a connection draws between nodes. -/
def edge (c : Connection) : String × String := (c.source.node, c.target.node)

/-- Does the connection end on a node? -/
def touches (c : Connection) (node : String) : Bool :=
  c.source.node = node || c.target.node = node

/-- What a connection between two pins carries: execution if either end does. -/
def signalBetween (s t : Node) (sourcePin targetPin : String) : Signal :=
  if s.isExecution sourcePin || t.isExecution targetPin then .execution else .data

/-- The value type of a data connection: that of the source pin, or else that of the target
pin. -/
def dataTypeBetween (s t : Node) (sourcePin targetPin : String) : Option String :=
  match s.dataType? sourcePin with
  | some name => if name.isEmpty then t.dataType? targetPin else some name
  | none => t.dataType? targetPin

/-- A connection between two nodes. -/
def between (id : String) (s t : Node) (source target : Terminal)
    (sourcePoint targetPoint : Point) : Connection :=
  let signal := signalBetween s t source.pin target.pin
  { id, source, target, signal, sourcePoint, targetPoint,
    dataType := if signal = .data then dataTypeBetween s t source.pin target.pin else none }

end Connection

end FlowCanvas
