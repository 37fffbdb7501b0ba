import FlowCanvas.Diagram.Basic
import FlowCanvas.Graph.Cycle

/-!
# Validation

What can be wrong with the structure of a diagram: a connection may end on a node that is not
there, and the connections may go round in a circle. `Diagram.problems` reports each missing end,
in the order of the connections, and then the circle.
-/

namespace FlowCanvas

/-- A structural problem of a diagram. -/
inductive Problem where
  | missingSource (connection node : String)
  | missingTarget (connection node : String)
  | circular
  deriving DecidableEq

namespace Problem

/-- The wording of a problem. -/
def message : Problem → String
  | missingSource _ node => "Connection references missing source node: " ++ node
  | missingTarget _ node => "Connection references missing target node: " ++ node
  | circular => "Model contains circular dependencies"

/-- The connection that has the problem. -/
def connection? : Problem → Option String
  | missingSource c _ | missingTarget c _ => some c
  | circular => none

end Problem

namespace Diagram

/-- Do the connections go round in a circle? -/
def hasCycle (d : Diagram) : Bool := Graph.hasCycle d.edges

/-- The missing ends of a connection. -/
def missingEnds (d : Diagram) (c : Connection) : List Problem :=
  (if d.nodes.contains c.source.node then [] else [.missingSource c.id c.source.node]) ++
    (if d.nodes.contains c.target.node then [] else [.missingTarget c.id c.target.node])

/-- All problems of a diagram. -/
def problems (d : Diagram) : List Problem :=
  d.connections.flatMap d.missingEnds ++ (if d.hasCycle then [.circular] else [])

end Diagram

end FlowCanvas
