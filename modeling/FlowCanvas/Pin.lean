/-!
# Pins

A pin is where a connection ends on a node. It carries either the flow of execution or a value,
and it lets it in or out.
-/

namespace FlowCanvas

/-- What a pin or a connection carries. -/
inductive Signal where
  | execution
  | data
  deriving DecidableEq, Inhabited

/-- The name of a signal. -/
def Signal.key : Signal → String
  | execution => "execution"
  | data => "data"

/-- Which way a pin leads. -/
inductive Direction where
  | input
  | output
  deriving DecidableEq, Inhabited

/-- The name of a direction. -/
def Direction.key : Direction → String
  | input => "input"
  | output => "output"

/-- An end for connections on a node. -/
structure Pin where
  id : String
  name : String
  signal : Signal
  direction : Direction
  /-- The type of the value, where it is fixed. -/
  dataType : Option String
  color : String
  deriving DecidableEq, Inhabited

end FlowCanvas
