import FlowCanvas.Service.Form
import FlowCanvas.Service.Request

/-!
# Answering requests

`respond` answers one request to a canvas: with a status, a body, and the events that are told to
every open editor, and with the canvas afterwards. A rejected payload is answered with status 400,
a refused connection with 409, and a fault with 500; none of these tells an event. Telling itself is
taken not to fail.

An answer is written at the very end, when all is done and told. If the machine refuses to write it
the answer is a fault instead (`Response.written`), and what was done and told stays so.

The ids of new nodes and connections are made of tokens. A request draws one at most, so it comes
with a token here. What the machine refuses may depend on when it is asked, so a request also comes
with a machine of its own (`Turn`).
-/

namespace FlowCanvas.Service

/-- The body of a response. -/
inductive Body where
  /-- No body of interest. -/
  | none
  | json (v : Json)
  /-- A file to save, with the header that names it. -/
  | file (text disposition : String)

/-- Something that is told to every open editor. -/
inductive Event where
  | nodeAdded (n : Node)
  | nodeUpdated (n : Node)
  | nodeRemoved (id : String)
  | connectionAdded (c : Connection)
  | connectionRemoved (id : String)
  | cleared

namespace Event

/-- The name of an event. -/
def name : Event → String
  | nodeAdded _ => "node_added"
  | nodeUpdated _ => "node_updated"
  | nodeRemoved _ => "node_removed"
  | connectionAdded _ => "connection_added"
  | connectionRemoved _ => "connection_removed"
  | cleared => "canvas_cleared"

/-- What is told along with an event. -/
def payload : Event → Json
  | nodeAdded n | nodeUpdated n => .obj [("node", n.form)]
  | nodeRemoved id => .obj [("node_id", .str id)]
  | connectionAdded c => .obj [("connection", c.form)]
  | connectionRemoved id => .obj [("connection_id", .str id)]
  | cleared => .obj []

end Event

/-- The answer to a request. -/
structure Response where
  status : Nat
  body : Body
  events : List Event

namespace Response

/-- Success, with or without data. -/
def success (status : Nat) (data : Option Json) (events : List Event) : Response :=
  ⟨status, .json (.obj (("success", .bool true) ::
    (match data with
      | some v => [("data", v)]
      | none => []))), events⟩

/-- An error with its text. -/
def error (status : Nat) (text : String) : Response :=
  ⟨status, .json (.obj [("success", .bool false), ("error", .str text)]), []⟩

/-- The answer to a request that failed. -/
def ofFailure : Failure → Response
  | .rejected r => error 400 r.message
  | .fault f => error 500 f.message

/-- Only a status. -/
def bare (status : Nat) : Response := ⟨status, .none, []⟩

/-- Why an answer cannot be written, if it cannot. -/
def writeFault? (machine : Machine) (a : Response) : Option Fault :=
  match a.body with
  | .json v => machine.writeFault? v
  | _ => none

/-- The answer that goes out. In the place of one that cannot be written it is a fault, but its events
have been told by then. -/
def written (machine : Machine) (a : Response) : Response :=
  match a.writeFault? machine with
  | some f => { ofFailure (.fault f) with events := a.events }
  | none => a

end Response

/-- Goes on with what was read from a request, or answers that it failed. -/
def orFail {α : Type} (c : Canvas) (read : Except Failure α) (go : α → Canvas × Response) :
    Canvas × Response :=
  match read with
  | .ok a => go a
  | .error f => (c, .ofFailure f)

/-- The value of a member; null if there is none. -/
def memberOrNull (name : String) (members : List (String × Json)) : Json :=
  (Table.lookup name members).getD .null

/-! ### The catalog -/

/-- The catalog, or the entries that a search term matches, by category. -/
def listCatalog (c : Canvas) (term : String) : Canvas × Response :=
  let found := Catalog.search term
  (c, .success 200 (some (.obj (found.map fun g ↦
    (g.1.key, .arr (g.2.map Entry.form))))) [])

/-! ### Nodes -/

/-- Lists the nodes, each with its properties in order. -/
def listNodes (c : Canvas) : Canvas × Response :=
  orFail c ((c.diagram.nodes.values.mapM Node.sortedForm).mapError .fault) fun nodes ↦
    (c, .success 200 (some (.arr nodes)) [])

/-- What a request for a new node asks for. -/
structure NodeRequest where
  kind : String
  properties : List (String × Json)
  category : Option Label
  position : Option Point

/-- Reads a request for a new node. -/
def NodeRequest.read (machine : Machine) (content : Content) : Except Failure NodeRequest := do
  let members ← payload content ["type"]
  let given := memberOrNull "properties" members
  let properties ← if given.isVoid then .ok [] else readObject "properties" given
  let position ← match memberOrNull "position" members with
    | .null => .ok none
    | v => (readPoint "position" v).map some
  let kind ← readText machine (memberOrNull "type" members)
  let category ← (Label.ofJson (memberOrNull "category" members)).mapError .fault
  return { kind, properties, category, position }

/-- Adds a node. -/
def addNode (machine : Machine) (c : Canvas) (token : String) (content : Content) :
    Canvas × Response :=
  orFail c (NodeRequest.read machine content) fun r ↦
    let outcome := c.add token r.kind (Json.keyed r.properties) r.category r.position
    match outcome.result with
    | .ok n =>
      (outcome.canvas, .success 201 (some n.form) [.nodeAdded n])
    | .error f => (outcome.canvas, .ofFailure (.fault f))

/-- The change of a field, if the members hold one. -/
def readChange (field : String) (read : Json → Except Failure Change)
    (members : List (String × Json)) : Except Failure (List Change) :=
  match Table.lookup field members with
  | some v => (read v).map fun c ↦ [c]
  | none => .ok []

/-- Reads the changes of a node. -/
def readChanges (machine : Machine) (content : Content) : Except Failure (List Change) := do
  let members ← payload content []
  let name ← readChange "name" (fun v ↦ (readText machine v).map fun s ↦ .name (.str s)) members
  let position ← readChange "position"
    (fun v ↦ (readPoint "position" v).map fun p ↦ .position (.arr [.float p.x, .float p.y])) members
  let config ← readChange "config"
    (fun v ↦ (readObject "config" v).map fun ms ↦ .config (.obj ms)) members
  let properties ← readChange "properties"
    (fun v ↦ (readObject "properties" v).map fun ms ↦ .properties (.obj ms)) members
  return name ++ position ++ config ++ properties

/-- Changes a node. -/
def updateNode (machine : Machine) (c : Canvas) (id : String) (content : Content) :
    Canvas × Response :=
  orFail c (readChanges machine content) fun changes ↦
    let outcome := c.update id changes
    match outcome.result with
    | .ok updated =>
      let events := match outcome.canvas.diagram.nodes.find? id with
        | some n => if updated then [.nodeUpdated n] else []
        | none => []
      (outcome.canvas, .success 200 (some (.obj [("updated", .bool updated)])) events)
    | .error f => (outcome.canvas, .ofFailure (.fault f))

/-- Takes a node away. -/
def removeNode (c : Canvas) (id : String) : Canvas × Response :=
  let outcome := c.remove id
  (outcome.canvas, .success 200 (some (.obj [("removed", .bool outcome.result)]))
    (if outcome.result then [.nodeRemoved id] else []))

/-! ### Connections -/

/-- Reads the two ends of a new connection. -/
def readTerminals (machine : Machine) (content : Content) : Except Failure (Terminal × Terminal) := do
  let members ← payload content ["from_node", "from_pin", "to_node", "to_pin"]
  let sourceNode ← readText machine (memberOrNull "from_node" members)
  let sourcePin ← readText machine (memberOrNull "from_pin" members)
  let targetNode ← readText machine (memberOrNull "to_node" members)
  let targetPin ← readText machine (memberOrNull "to_pin" members)
  return (⟨sourceNode, sourcePin⟩, ⟨targetNode, targetPin⟩)

/-- Draws a connection. -/
def addConnection (machine : Machine) (c : Canvas) (token : String) (content : Content) :
    Canvas × Response :=
  orFail c (readTerminals machine content) fun ends ↦
    let outcome := c.connect token ends.1 ends.2
    match outcome.result with
    | .ok (some drawn) =>
      (outcome.canvas, .success 201 (some drawn.form) [.connectionAdded drawn])
    | .ok none => (outcome.canvas,
        .error 409 "Connection rejected: missing node or it would create a cycle")
    | .error f => (outcome.canvas, .ofFailure (.fault f))

/-- Takes a connection away. -/
def removeConnection (c : Canvas) (id : String) : Canvas × Response :=
  let outcome := c.disconnect id
  (outcome.canvas, .success 200 (some (.obj [("removed", .bool outcome.result)]))
    (if outcome.result then [.connectionRemoved id] else []))

/-! ### The view -/

/-- Sets the zoom. -/
def setZoom (c : Canvas) (content : Content) : Canvas × Response :=
  orFail c (do readNumber (.notNumber "zoom") (memberOrNull "zoom" (← payload content ["zoom"])))
    fun zoom ↦
      let zoomed := c.setZoom zoom
      (zoomed, .success 200 (some (.obj [("zoom", .float zoomed.viewport.zoom)])) [])

/-- Reads the deltas of a pan. -/
def readDeltas (content : Content) : Except Failure (Float × Float) := do
  let members ← payload content ["delta_x", "delta_y"]
  let dx ← readNumber .notDeltas (memberOrNull "delta_x" members)
  let dy ← readNumber .notDeltas (memberOrNull "delta_y" members)
  return (dx, dy)

/-- Shifts the view. -/
def panView (c : Canvas) (content : Content) : Canvas × Response :=
  orFail c (readDeltas content) fun delta ↦
    let panned := c.panBy delta.1 delta.2
    let pan := panned.viewport.pan
    (panned, .success 200 (some (.obj [("pan_x", .float pan.x), ("pan_y", .float pan.y)])) [])

/-! ### The whole program -/

/-- Reports the structural problems. -/
def validate (c : Canvas) : Canvas × Response :=
  let problems := c.diagram.problems
  (c, .success 200 (some (.obj [("is_valid", .bool problems.isEmpty),
    ("errors", .texts (problems.map Problem.message))])) [])

/-- Takes everything away. -/
def clear (c : Canvas) : Canvas × Response :=
  (c.clear.canvas, .success 200 none [.cleared])

/-- Shows the program. -/
def preview (machine : Machine) (c : Canvas) : Canvas × Response :=
  orFail c ((c.exportText machine).mapError .fault) fun code ↦
    (c, .success 200 (some (.obj [("code", .str code),
      ("filename", .str c.config.exportFilename)])) [])

/-- Hands the program out as a file. -/
def download (machine : Machine) (c : Canvas) : Canvas × Response :=
  orFail c ((c.exportText machine).mapError .fault) fun code ↦
    let disposition := "attachment; filename=" ++ c.config.exportFilename
    match machine.headerFault? disposition with
    | some f => (c, .ofFailure (.fault f))
    | none => (c, ⟨200, .file code disposition, []⟩)

/-! ### Requests -/

/-- Does what a request asks for, with a token for a new id, and answers. -/
def handle (machine : Machine) (c : Canvas) (token : String) (r : Request) :
    Route → Canvas × Response
  | .listCatalog => listCatalog c r.term
  | .showState => (c, .success 200 (some c.form) [])
  | .listNodes => listNodes c
  | .addNode => addNode machine c token r.content
  | .updateNode id => updateNode machine c id r.content
  | .removeNode id => removeNode c id
  | .listConnections =>
    (c, .success 200 (some (.arr (c.diagram.connections.map Connection.form))) [])
  | .addConnection => addConnection machine c token r.content
  | .removeConnection id => removeConnection c id
  | .setZoom => setZoom c r.content
  | .panView => panView c r.content
  | .validate => validate c
  | .clear => clear c
  | .preview => preview machine c
  | .download => download machine c

/-- Answers a request. -/
def respond (machine : Machine) (c : Canvas) (token : String) (r : Request) : Canvas × Response :=
  match r.dispatch with
  | .server status => (c, .bare status)
  | .handler route =>
    let answer := handle machine c token r route
    (answer.1, answer.2.written machine)

/-- A request with what it meets when its turn comes: the machine, and the token for a new id. -/
structure Turn where
  machine : Machine
  token : String
  request : Request

/-- Answers requests one after the other. -/
def serve (c : Canvas) : List Turn → Canvas × List Response
  | [] => (c, [])
  | t :: rest =>
    let first := respond t.machine c t.token t.request
    let others := serve first.1 rest
    (others.1, first.2 :: others.2)

end FlowCanvas.Service
