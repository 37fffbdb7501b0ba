import FlowCanvas.Diagram.Change
import FlowCanvas.Diagram.Validation
import FlowCanvas.Emission.Export
import FlowCanvas.Viewport

/-!
# The canvas

A canvas is an editing session: a diagram, the viewport it is shown through, the selected node,
and the settings. Each operation answers with the canvas afterwards, its result, and the notices that
it gives to whoever listens.

The ids of new nodes and connections are made of tokens, which are drawn at random. The operations
that need one take it as an argument, so a canvas does not say where tokens come from.
-/

namespace FlowCanvas

/-- What an operation tells its listeners. -/
inductive Notice where
  | selected (node : String)
  | connected (connection : String)
  | changed
  deriving DecidableEq

/-- An editing session. -/
structure Canvas where
  config : Config
  diagram : Diagram
  viewport : Viewport
  selected : Option String
  deriving Inhabited

/-- The outcome of an operation on a canvas. -/
structure Canvas.Outcome (α : Type) where
  canvas : Canvas
  result : α
  notices : List Notice

namespace Canvas

/-- The id of a node, of the token drawn for it. -/
def nodeId (token : String) : String := "node_" ++ token

/-- The id of a connection, of the token drawn for it. -/
def connectionId (token : String) : String := "conn_" ++ token

/-- An empty canvas. -/
def new (config : Config) (width height : Option Float) : Canvas where
  config := config
  diagram := .empty
  viewport := .ofSize (width.getD config.canvasWidth) (height.getD config.canvasHeight)
  selected := none

/-- Nothing happens, and this is the result. -/
def unchanged {α : Type} (c : Canvas) (result : α) : Outcome α := ⟨c, result, []⟩

/-- The name of a new node: what it is called in the catalog and its number. -/
def nameOfNew (c : Canvas) (kind : String) (category : Option Label) : String :=
  ((Catalog.find? kind category).map Entry.name).getD kind ++ "-" ++
    toString (c.diagram.nodes.size + 1)

/-- Adds a node, in the middle of the view unless a position is given. -/
def add (c : Canvas) (token kind : String) (properties : Properties) (category : Option Label)
    (position : Option Point) : Outcome (Except Fault Node) :=
  match position.elim c.viewport.center .ok with
  | .error f => c.unchanged (.error f)
  | .ok p =>
    let added := c.diagram.add (nodeId token) kind properties (some (c.nameOfNew kind category)) p
      category
    ⟨{ c with diagram := added.1 }, .ok added.2, [.changed]⟩

/-- Where a connection is drawn, from where its nodes are now; an end without a node stays. -/
def reanchor (nodes : Table String Node) (c : Connection) : Connection :=
  { c with
    sourcePoint := ((nodes.find? c.source.node).map (·.anchor c.source.pin)).getD c.sourcePoint
    targetPoint := ((nodes.find? c.target.node).map (·.anchor c.target.pin)).getD c.targetPoint }

/-- Draws the connections of a node anew. -/
def reanchorAll (d : Diagram) (node : String) : Diagram :=
  { d with connections := d.connections.map fun c ↦
      if c.touches node then reanchor d.nodes c else c }

/-- Changes a node; the result says whether there is one. A new position moves the connections
along. -/
def update (c : Canvas) (id : String) (changes : List Change) : Outcome (Except Fault Bool) :=
  match Change.operand? changes with
  | some operand => c.unchanged (.error (.givenTwice "Canvas.update_node()" operand))
  | none =>
    if c.diagram.nodes.contains id then
      match c.diagram.update id changes with
      | (d, .error f) => ⟨{ c with diagram := d }, .error f, []⟩
      | (d, .ok ()) =>
        let moved := changes.any fun change ↦ change.field = "position"
        ⟨{ c with diagram := if moved then reanchorAll d id else d }, .ok true, [.changed]⟩
    else c.unchanged (.ok false)

/-- Takes a node and its connections away; the result says whether there was one. -/
def remove (c : Canvas) (id : String) : Outcome Bool :=
  if c.diagram.nodes.contains id then
    let selected := if c.selected = some id then none else c.selected
    ⟨{ c with diagram := c.diagram.remove id, selected }, true, [.changed]⟩
  else c.unchanged false

/-- Selects a node, or nothing; the result says whether that was possible. -/
def select (c : Canvas) : Option String → Outcome Bool
  | none => ⟨{ c with selected := none }, true, []⟩
  | some id =>
    if c.diagram.nodes.contains id then ⟨{ c with selected := some id }, true, [.selected id]⟩
    else c.unchanged false

/-- May a connection be drawn between two nodes? -/
def canConnect (c : Canvas) (source target : String) : Bool := c.diagram.admits source target

/-- Draws a connection between the anchors of two pins; answers nothing if it is refused. -/
def connect (c : Canvas) (token : String) (source target : Terminal) :
    Outcome (Except Fault (Option Connection)) :=
  match c.diagram.nodes.find? source.node, c.diagram.nodes.find? target.node with
  | some s, some t =>
    match c.diagram.connect (connectionId token) source target (s.anchor source.pin)
      (t.anchor target.pin) with
    | (d, .ok (some drawn)) =>
      ⟨{ c with diagram := d }, .ok (some drawn), [.connected drawn.id, .changed]⟩
    | (d, result) => ⟨{ c with diagram := d }, result, []⟩
  | _, _ => c.unchanged (.ok none)

/-- Takes a connection away; the result says whether there was one. -/
def disconnect (c : Canvas) (id : String) : Outcome Bool :=
  if (c.diagram.connection? id).isSome then
    ⟨{ c with diagram := c.diagram.disconnect id }, true, [.changed]⟩
  else c.unchanged false

/-- Sets the zoom, within its limits. -/
def setZoom (c : Canvas) (zoom : Float) : Canvas := { c with viewport := c.viewport.setZoom zoom }

/-- Shifts the view. -/
def panBy (c : Canvas) (dx dy : Float) : Canvas := { c with viewport := c.viewport.panBy dx dy }

/-- The text of the program. -/
def exportText (c : Canvas) (machine : Machine) : Except Fault String :=
  c.diagram.exportText machine c.config

/-- Takes everything away. -/
def clear (c : Canvas) : Outcome Unit :=
  ⟨{ c with diagram := .empty, selected := none }, (), [.changed]⟩

end Canvas

end FlowCanvas
