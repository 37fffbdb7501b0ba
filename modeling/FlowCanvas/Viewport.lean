import FlowCanvas.Fault
import FlowCanvas.Node

/-!
# The viewport and the anchors

The viewport shows a part of the canvas: the zoom scales it and the pan shifts it. Anchors are
the points of a node's box at which connections are drawn.
-/

namespace FlowCanvas

/-- The part of the canvas that is shown. -/
structure Viewport where
  zoom : Float
  pan : Point
  width : Float
  height : Float
  deriving Inhabited

namespace Viewport

/-- An unshifted view in its natural size. -/
def ofSize (width height : Float) : Viewport := ⟨1, .origin, width, height⟩

/-- Where a place of the canvas is on the screen. -/
def toScreen (v : Viewport) (p : Point) : Point :=
  ⟨p.x * v.zoom + v.pan.x, p.y * v.zoom + v.pan.y⟩

/-- The place of the canvas at a point of the screen; a zoom of zero shows none. -/
def toWorld (v : Viewport) (p : Point) : Except Fault Point :=
  if v.zoom == 0 then .error .divisionByZero
  else .ok ⟨(p.x - v.pan.x) / v.zoom, (p.y - v.pan.y) / v.zoom⟩

/-- The place of the canvas in the middle of the screen. -/
def center (v : Viewport) : Except Fault Point := v.toWorld ⟨v.width / 2, v.height / 2⟩

/-- The least zoom. -/
def minZoom : Float := 0.1

/-- The greatest zoom. -/
def maxZoom : Float := 5

/-- A zoom between the least and the greatest. What is not a number becomes the least. -/
def clampZoom (zoom : Float) : Float :=
  let capped := if maxZoom < zoom then maxZoom else zoom
  if minZoom < capped then capped else minZoom

/-- Sets the zoom. -/
def setZoom (v : Viewport) (zoom : Float) : Viewport := { v with zoom := clampZoom zoom }

/-- Shifts the view. -/
def panBy (v : Viewport) (dx dy : Float) : Viewport :=
  { v with pan := ⟨v.pan.x + dx, v.pan.y + dy⟩ }

end Viewport

namespace Node

/-- The width of a node's box. -/
def boxWidth : Float := 160

/-- The height of a node's box. -/
def boxHeight : Float := 80

/-- On which side of a node a name has its anchor: that of the pin, else that of the declared
input or output of this name. -/
def side? (n : Node) (pin : String) : Option Direction :=
  match n.pin? pin with
  | some p => some p.direction
  | none =>
    if n.inputs.contains pin then some .input
    else if n.outputs.contains pin then some .output
    else none

/-- Where connections to a name on a node are drawn: at half height on the left for what goes in
and on the right for what comes out; anything else in the middle, `parent` at the top and other
names at the bottom. -/
def anchor (n : Node) (pin : String) : Point :=
  let x := n.position.x
  let y := n.position.y
  match n.side? pin with
  | some .input => ⟨x, y + boxHeight / 2⟩
  | some .output => ⟨x + boxWidth, y + boxHeight / 2⟩
  | none => ⟨x + boxWidth / 2, y + (if pin = "parent" then 0 else boxHeight)⟩

end Node

end FlowCanvas
