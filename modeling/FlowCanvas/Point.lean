/-!
# Points

Places on the canvas and on the screen.
-/

namespace FlowCanvas

/-- A place, by its two coordinates. -/
structure Point where
  x : Float
  y : Float
  deriving Inhabited

/-- The origin. -/
def Point.origin : Point := ⟨0, 0⟩

end FlowCanvas
