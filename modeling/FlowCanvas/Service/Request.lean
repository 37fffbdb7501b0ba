import FlowCanvas.Service.Payload
import FlowCanvas.Service.Route

/-!
# Requests

A request as the server hands it over. Before that the server has taken it in, found out what it asks
for, and read its query and its body; how it does so is its own business, and nothing is supposed of
it here. So whatever holds of all requests holds behind every server and whatever clients send.
-/

namespace FlowCanvas.Service

/-- What the server makes of a request. -/
inductive Dispatch where
  /-- It is handled as a request for this. -/
  | handler (route : Route)
  /-- The server answers it itself, with this status, since it asks for nothing that there is. -/
  | server (status : Nat)

/-- A request to the service. -/
structure Request where
  dispatch : Dispatch
  /-- The search term in its query, which is empty if there is none. -/
  term : String
  content : Content

end FlowCanvas.Service
