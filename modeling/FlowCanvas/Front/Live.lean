import FlowCanvas.Front.Destination
import FlowCanvas.Number.Reading

/-!
# Live connections

Open editors hold a connection to the service over which events are told. The client opens it by
requests of its own, under a path that no resource has: it names the version of the protocol, and
then the number of its session, which the service draws at random. Here no session is ever taken up
again, so only the first request can succeed. Methods are told apart by case.
-/

namespace FlowCanvas.Front.Live

open Text

/-- How the paths of live connections start. -/
def root : List Char := "/socket.io/".toList

/-- The values of a parameter in a query, as they are written. Empty ones do not count. -/
def values (query : List Char) (name : String) : List (List Char) :=
  ((splitOn '&' query).map (cutAt '=')).filterMap fun pair ↦
    if !pair.2.isEmpty ∧ queryText pair.1 = name then some pair.2 else none

/-- Is this the number of a script's callback, in ASCII or escaped? -/
def isCallback (cs : List Char) : Bool :=
  cs.all (fun c ↦ decide (c.toNat < 0x80)) && (Number.readInt? (queryText cs)).isSome

/-- The status of a request under the path of live connections. -/
def status (method : String) (query : List Char) : Nat :=
  let transport := ((values query "transport").head?.map queryText).getD "polling"
  let hasSession := !(values query "sid").isEmpty
  let isCurrent := (values query "EIO").map queryText = ["4"]
  let callbacks := values query "j"
  if transport ≠ "polling" ∧ transport ≠ "websocket" then 400
  else if !hasSession && !isCurrent then 400
  else if !(callbacks.take 1).all isCallback then 400
  else if method = "GET" then if hasSession ∨ transport ≠ "polling" then 400 else 200
  else if method = "POST" then 400
  else if method = "OPTIONS" then 200
  else 405

/-- The status of a request for a live connection, if it is one. -/
def status? (method : String) (d : Destination) : Option Nat :=
  if root.isPrefixOf d.path then some (status method d.query) else none

end FlowCanvas.Front.Live
