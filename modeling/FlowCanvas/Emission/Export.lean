import FlowCanvas.Diagram.Basic
import FlowCanvas.Emission.Contribution
import FlowCanvas.Graph.Schedule

/-!
# Exporting a program

The nodes are written in schedule order. A node that follows a branch pin goes into the block of
that branch, a node that follows any other execution pin joins the block of the node before it,
and all others go into the root block. The finished `Export` is a structure of lines; `render`
makes text of it, with the header first, then the root block, then the other blocks in the order
in which they were opened, and last one closing brace for each level of depth.

On the way an export makes demands of the machine (`demands`): a value that is no text where one
should be is logged, each line is indented, the text is held. `generate` gives the text unless one of
them is refused. Indenting is asked for even at level zero, and before the text is put together.
-/

namespace FlowCanvas.Emission

/-- What the key of a branch's block adds to the id of the node that opened it, by output pin. -/
def branchSuffix? (pin : String) : Option String :=
  if pin = "then" then some "_true"
  else if pin = "else" then some "_false"
  else if pin = "body" then some "_body"
  else if pin = "exec_body" then some ""
  else none

/-- The block that a connection leads into, if its source says: the branch behind a branch pin
that is open, else the block that the source was written into. -/
def homeBy? (s : State) (c : Connection) : Option (Option String) :=
  match branchSuffix? c.source.pin with
  | some suffix =>
    let key := c.source.node ++ suffix
    if s.blocks.contains key then some (some key) else s.homes.find? c.source.node
  | none => s.homes.find? c.source.node

/-- The execution connections that land on a node. -/
def incoming (connections : List Connection) (node : String) : List Connection :=
  connections.filter fun c ↦ c.signal = .execution && c.target.node = node

/-- The block that a node is written into: that of the first connection that says. -/
def home (s : State) (connections : List Connection) (node : String) : Option String :=
  ((incoming connections node).findSome? (homeBy? s)).join

/-- Writes a node. -/
def write (config : Config) (connections : List Connection) (s : State) (n : Node) : State :=
  let place := home s connections n.id
  s.apply n.id place (contribution config s (s.scopeAt place) n)

/-- The nodes in the order in which they are written. -/
def order (config : Config) (nodes : List Node) (connections : List Connection) : List Node :=
  let edges := connections.map Connection.edge
  if config.consumersFirst then Graph.scheduleBackwards Node.id edges nodes
  else Graph.schedule Node.id edges nodes

/-- The state after all nodes are written. -/
def run (config : Config) (nodes : List Node) (connections : List Connection) : State :=
  (order config nodes connections).foldl (write config connections) .start

/-- A finished export. -/
structure Export where
  header : List String
  root : List Line
  /-- The other blocks by key, in the order in which they were opened. -/
  blocks : List (String × List Line)
  /-- How many blocks are to be closed. -/
  depth : Nat

/-- The export of a list of nodes and connections. -/
def Export.of (config : Config) (nodes : List Node) (connections : List Connection) : Export :=
  let s := run config nodes connections
  ⟨config.headerLines, s.root.lines, s.blocks.entries.map fun e ↦ (e.1, e.2.lines), s.depth⟩

/-- A line in text. -/
def Line.render (config : Config) (l : Line) : String := config.indent l.level ++ l.text

/-- Lines in text. -/
def renderLines (config : Config) (lines : List Line) : String :=
  "\n".intercalate (lines.map (Line.render config))

/-- The braces that close what is open, the innermost first. -/
def closings (config : Config) (depth : Nat) : List String :=
  (List.range depth).reverse.map fun level ↦ "\n" ++ config.indent level ++ "\x7d"

/-- An export in text. -/
def Export.render (config : Config) (e : Export) : String :=
  "\n".intercalate e.header ++ "\n" ++ renderLines config e.root ++
    String.join (e.blocks.map fun b ↦ "\n" ++ renderLines config b.2) ++
    String.join (closings config e.depth)

/-! ### What an export asks of the machine -/

/-- Something that is asked of the machine in the course of an export. -/
inductive Demand where
  /-- To log a value that is set where a text should be. -/
  | log (value : Json)
  /-- To indent a line or a closing brace. -/
  | indent (level : Nat)
  /-- To hold the finished text. -/
  | hold (text : String)

/-- Why a machine does not meet a demand, if it does not. -/
def Demand.refusal? (machine : Machine) (config : Config) : Demand → Option Fault
  | log value => machine.logFault? value
  | indent level => machine.indentFault? config.indentSize level
  | hold text => machine.holdFault? text

/-- The values that are logged when a node is written. -/
def loggedValues (n : Node) : List Json :=
  match emittedAs? n.effectiveKind n.category with
  | some construct => (textKeys construct).filterMap n.malformed?
  | none => []

/-- What is asked when a node is written: its texts are read before its lines are indented. -/
def writeDemands (config : Config) (connections : List Connection) (s : State) (n : Node) :
    List Demand :=
  let added := contribution config s (s.scopeAt (home s connections n.id)) n
  (loggedValues n).map .log ++ (added.linesAt n.id s.depth).map fun l ↦ .indent l.level

/-- What is asked when nodes are written one after the other. -/
def runDemands (config : Config) (connections : List Connection) : State → List Node → List Demand
  | _, [] => []
  | s, n :: rest => writeDemands config connections s n ++
      runDemands config connections (write config connections s n) rest

/-- What is asked in the course of an export, in order. -/
def demands (config : Config) (nodes : List Node) (connections : List Connection) : List Demand :=
  let e := Export.of config nodes connections
  runDemands config connections .start (order config nodes connections) ++
    ((List.range e.depth).reverse.map .indent ++ [.hold (e.render config)])

/-- The text of a program, unless something is refused on the way. -/
def generate (machine : Machine) (config : Config) (nodes : List Node)
    (connections : List Connection) : Except Fault String :=
  match (demands config nodes connections).findSome? (Demand.refusal? machine config) with
  | some f => .error f
  | none => .ok ((Export.of config nodes connections).render config)

end FlowCanvas.Emission

namespace FlowCanvas.Diagram

/-- The text of the program that a diagram draws. -/
def exportText (machine : Machine) (config : Config) (d : Diagram) : Except Fault String :=
  Emission.generate machine config d.nodes.values d.connections

end FlowCanvas.Diagram
