import FlowCanvas.Connection
import FlowCanvas.Graph.Guard

/-!
# Diagrams

A diagram owns the nodes and the connections between them. Its operations keep the two consistent:
a connection is drawn only between nodes that exist and only if it closes no cycle, and taking a
node away takes its connections along. The inputs of a node say which data connections land on
it; drawing a connection writes one input, and taking connections away recomputes the inputs of
the nodes they landed on.

New ids are arguments of the operations that need one, so a diagram does not say where they come
from.
-/

namespace FlowCanvas

/-- The nodes and connections of a program. -/
structure Diagram where
  /-- The nodes by id, in order of creation. -/
  nodes : Table String Node
  /-- The connections in the order in which they were drawn. -/
  connections : List Connection
  deriving Inhabited

namespace Diagram

/-- The diagram without nodes. -/
def empty : Diagram := ⟨.empty, []⟩

/-- The graph that the connections draw. -/
def edges (d : Diagram) : List (String × String) := d.connections.map Connection.edge

/-- The connection with an id. -/
def connection? (d : Diagram) (id : String) : Option Connection :=
  d.connections.find? (·.id = id)

/-- The connections that end on a node. -/
def connectionsOf (d : Diagram) (node : String) : List Connection :=
  d.connections.filter (·.touches node)

/-- A new node of a kind. The properties given are laid over those a new node of the kind starts
with. A kind that is not in the catalog makes a node without inputs and outputs. -/
def newNode (id kind : String) (properties : Properties) (name : Option String)
    (position : Point) (category : Option Label) : Node :=
  let info := Catalog.find? kind category
  let given := match info with
    | some e => Label.text e.category.key
    | none => Label.orUnknown category
  let start := match info with
    | some e => Json.keyed e.defaults.entries
    | none => .empty
  let inputs := (info.map Entry.inputs).getD []
  Node.complete {
    id, kind, position, inputs
    name := .str (name.getD ((info.map Entry.name).getD kind))
    configKind := kind
    category := given
    properties := start.insertAll properties.entries
    pins := Catalog.pins kind given
    outputs := (info.map Entry.outputs).getD []
    slots := [] }

/-- Enters a node under its id. -/
def put (d : Diagram) (n : Node) : Diagram := { d with nodes := d.nodes.insert n.id n }

/-- Enters a new node of a kind. -/
def add (d : Diagram) (id kind : String) (properties : Properties) (name : Option String)
    (position : Point) (category : Option Label) : Diagram × Node :=
  let n := newNode id kind properties name position category
  (d.put n, n)

/-- Appends a connection as it is. -/
def push (d : Diagram) (c : Connection) : Diagram :=
  { d with connections := d.connections ++ [c] }

/-- May an edge be drawn between two nodes? Both must exist, and it must close no cycle. -/
def admits (d : Diagram) (source target : String) : Bool :=
  d.nodes.contains source && d.nodes.contains target && !Graph.closesCycle d.edges source target

/-- Draws a connection and binds the input that it lands on; answers nothing if the connection is
refused. If the binding is at fault the connection stays. -/
def connect (d : Diagram) (id : String) (source target : Terminal)
    (sourcePoint targetPoint : Point) : Diagram × Except Fault (Option Connection) :=
  match d.nodes.find? source.node, d.nodes.find? target.node with
  | some s, some t =>
    if Graph.closesCycle d.edges source.node target.node then (d, .ok none)
    else
      let c := Connection.between id s t source target sourcePoint targetPoint
      let drawn := d.push c
      match c.signal with
      | .execution => (drawn, .ok (some c))
      | .data =>
        match t.bind target.pin source.node with
        | .ok (some bound) =>
          ({ drawn with nodes := drawn.nodes.modify target.node fun _ ↦ bound }, .ok (some c))
        | .ok none => (drawn, .ok (some c))
        | .error f => (drawn, .error f)
  | _, _ => (d, .ok none)

/-- The inputs of a node as its slots and some connections give them: each data connection that
lands on the node writes its source, the last one on a pin counting. -/
def rebound (key : String) (connections : List Connection) (n : Node) : Node :=
  (connections.filter fun c ↦ c.target.node = key && c.signal = .data).foldl
    (fun n c ↦ n.bindIfPossible c.target.pin c.source.node) n.reset

/-- Recomputes the inputs of a node. -/
def rebind (d : Diagram) (node : String) : Diagram :=
  { d with nodes := d.nodes.modify node (rebound node d.connections) }

/-- Takes away the connection with an id. -/
def disconnect (d : Diagram) (id : String) : Diagram :=
  match d.connection? id with
  | none => d
  | some c =>
    rebind { d with connections := d.connections.eraseP (·.id = id) } c.target.node

/-- Takes away a node and every connection that ends on it. -/
def remove (d : Diagram) (node : String) : Diagram :=
  if d.nodes.contains node then
    let affected := ((d.connectionsOf node).map (·.target.node)).filter (· ≠ node)
    affected.foldl rebind {
      nodes := d.nodes.erase node
      connections := d.connections.filter fun c ↦ !c.touches node }
  else d

end Diagram

end FlowCanvas
