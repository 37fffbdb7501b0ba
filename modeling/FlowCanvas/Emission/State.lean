import FlowCanvas.Emission.Construct
import FlowCanvas.Scope

/-!
# The state of an export

While nodes are written one after the other, their lines are collected in blocks: the root block,
and a block for each branch, loop body and function body, under a key made from the id of the node
that opened it. The state also knows which variable holds each node's value, which block each node
was written into, the scopes, and how many blocks are open. That depth only grows; what it opened
is closed at the very end.

Two shape decisions separate what a node says from where it goes:

* a node's part in the export is a `Contribution`, a value of its own, and `State.apply` is the one
  way in which the state changes;
* lines stay lines, tagged with the node that wrote them, until the export is rendered.
-/

namespace FlowCanvas.Emission

/-- A line of an export. -/
structure Line where
  /-- The node that wrote it. -/
  node : String
  /-- The level of its indentation. -/
  level : Nat
  text : String
  deriving DecidableEq, Inhabited

/-- The lines of a body or branch, and the scope that holds there. -/
structure Block where
  scope : Nat
  lines : List Line
  deriving Inhabited

/-- What is known in the course of an export. -/
structure State where
  root : Block
  blocks : Table String Block
  /-- The variable with each node's value, the earliest node first. -/
  outputs : Table String String
  /-- The block that each node was written into; none is the root block. -/
  homes : Table String (Option String)
  scopes : ScopeTree
  /-- How many blocks are open. -/
  depth : Nat

/-- Nothing is written yet. -/
def State.start : State := ⟨⟨0, []⟩, .empty, .empty, .empty, .root, 0⟩

/-- What a node adds to an export. -/
structure Contribution where
  /-- Its lines, each with the levels it is indented beyond the depth. -/
  lines : List (Nat × String)
  /-- A variable that it declares where it stands, with its type. -/
  declares : Option (String × String)
  /-- The variable that holds its value. -/
  output : Option String
  /-- The blocks that it opens, each with the variables declared inside. -/
  opens : List (String × List (String × String))

/-- The lines of a contribution as a node writes them at some depth. -/
def Contribution.linesAt (c : Contribution) (node : String) (depth : Nat) : List Line :=
  c.lines.map fun l ↦ ⟨node, depth + l.1, l.2⟩

namespace State

/-- The scope of a block. -/
def scopeAt (s : State) : Option String → Nat
  | none => s.root.scope
  | some key => ((s.blocks.find? key).map Block.scope).getD s.root.scope

/-- Appends lines to a block. -/
def append (s : State) (home : Option String) (lines : List Line) : State :=
  match home with
  | none => { s with root := { s.root with lines := s.root.lines ++ lines } }
  | some key =>
    { s with blocks := s.blocks.modify key fun b ↦ { b with lines := b.lines ++ lines } }

/-- Opens an empty block whose scope lies inside another, with variables declared in it. -/
def openBlock (scope : Nat) (s : State) (block : String × List (String × String)) : State :=
  let child := s.scopes.child scope
  { s with
    blocks := s.blocks.insert block.1 ⟨child.2, []⟩
    scopes := block.2.foldl (fun t v ↦ t.declare child.2 v.1 v.2) child.1 }

/-- Enters what a node adds: its lines go to the end of its block, and if it opens blocks the
depth grows by one. -/
def apply (s : State) (node : String) (home : Option String) (c : Contribution) : State :=
  let scope := s.scopeAt home
  let declared := match c.declares with
    | some v => s.scopes.declare scope v.1 v.2
    | none => s.scopes
  let written := { s with scopes := declared }.append home (c.linesAt node s.depth)
  let opened := c.opens.foldl (openBlock scope) written
  { opened with
    homes := s.homes.insert node home
    outputs := match c.output with
      | some v => s.outputs.insert node v
      | none => s.outputs
    depth := if c.opens.isEmpty then s.depth else s.depth + 1 }

end State

end FlowCanvas.Emission
