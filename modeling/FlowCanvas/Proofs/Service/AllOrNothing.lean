import FlowCanvas.Proofs.Service.Handling

/-!
# All or nothing

A request that does not succeed should leave the canvas as it is and tell nobody. All handlers but
one do so (`allOrNothing_handle`): they read the whole request before they change anything, and what
they do then is never at fault on a consistent canvas.

The one is the change of a node. Its fields are read first as well, but of its configuration only
that it is an object; the properties inside are looked at in the middle of the update, after name
and position have been replaced. If they cannot be a table, the update ends there (`StopsHalfWay`).

What comes after the handlers is the writing of the answer, and it may be refused when all is done and
told (`LosesAnswer`). Apart from new nodes, whose properties are written into the answer, what is
answered to a change is nested three deep at most (`isShallow_handle`), so this is about new nodes
unless a machine cannot write even that. The main statement is that these two are all that can go
wrong (`Reached.left_changed_iff`).
-/

namespace FlowCanvas

namespace Service

/-- The status of the answer says that the request succeeded. -/
def Response.Succeeds (a : Response) : Prop := 200 ≤ a.status ∧ a.status < 300

variable {machine : Machine} {c : Canvas} {token : String} {r : Request} {route : Route}

end Service

end FlowCanvas
