import FlowCanvas.Front.Content
import FlowCanvas.Front.Live
import FlowCanvas.Service.Request

/-!
# From clients to the service

What clients send, where it goes, and what the server makes of it: it asks one of the handlers, or the
server answers it by itself. This is one server among others. Nothing in the service depends on it, and
what holds of all requests that are handed over to the service holds of those that come this way.
-/

namespace FlowCanvas.Front

/-- What a client sends. -/
structure Request where
  method : String
  address : String
  content : Content

/-- Where a request goes, if it can be sent. -/
def Request.destination (r : Request) : Except Obstacle Destination := do
  let d ← Destination.ofAddress r.address
  match r.content.fault?.or d.fault? with
  | some f => .error f
  | none => return d

open Service (Route Method Dispatch)

/-- The routes of a path by their methods, and whether the path is that of a file that would be served
as it is, if there were any. -/
structure Resource where
  routes : List Route
  isAsset : Bool

/-- Do the segments of a path name an asset? Such a name is not empty, does not start with a slash,
and has no line break behind its first character. -/
def isAssetName (name : List String) : Bool :=
  match name with
  | first :: _ =>
    !first.isEmpty && (("/".intercalate name).toList.drop 1).all (· ≠ '\n')
  | [] => false

/-- The resource of a decoded path by its segments. -/
def Resource.ofSegments? : List String → Option Resource
  | ["api", "node-types"] => some ⟨[.listCatalog], false⟩
  | ["api", "canvas", "state"] => some ⟨[.showState], false⟩
  | ["api", "canvas", "nodes"] => some ⟨[.listNodes, .addNode], false⟩
  | ["api", "canvas", "nodes", id] =>
    if id.isEmpty then none else some ⟨[.updateNode id, .removeNode id], false⟩
  | ["api", "canvas", "connections"] => some ⟨[.listConnections, .addConnection], false⟩
  | ["api", "canvas", "connections", id] =>
    if id.isEmpty then none else some ⟨[.removeConnection id], false⟩
  | ["api", "canvas", "viewport", "zoom"] => some ⟨[.setZoom], false⟩
  | ["api", "canvas", "viewport", "pan"] => some ⟨[.panView], false⟩
  | ["api", "canvas", "validate"] => some ⟨[.validate], false⟩
  | ["api", "canvas", "clear"] => some ⟨[.clear], false⟩
  | ["api", "export", "preview"] => some ⟨[.preview], false⟩
  | ["api", "export"] => some ⟨[.download], false⟩
  | "static" :: name => if isAssetName name then some ⟨[], true⟩ else none
  | _ => none

/-- The resource of a decoded path. -/
def Resource.ofPath? (path : List Char) : Option Resource := ofSegments? (segments path)

/-- The methods that a resource answers to. -/
def Resource.methods (r : Resource) : List Method :=
  if r.isAsset then [.get] else r.routes.map Route.method

/-- The method of a name, in either case. -/
def methodOfName? (name : String) : Option Method :=
  let n := Text.upper name
  if n = "GET" then some .get
  else if n = "POST" then some .post
  else if n = "PATCH" then some .patch
  else if n = "DELETE" then some .delete
  else none

/-- What becomes of a method at a resource that answers to it or not. -/
def Resource.dispatch (r : Resource) (method : Method) : Dispatch :=
  match r.routes.find? (·.method = method) with
  | some route => .handler route
  | none => .server (if r.isAsset && method = .get then 404 else 405)

/-- What becomes of a request at a resource. Every resource tells its methods, and one that can be
read can be asked for its headers. -/
def Resource.dispatchName (r : Resource) (name : String) : Dispatch :=
  match methodOfName? name with
  | some method => r.dispatch method
  | none =>
    if Text.upper name = "OPTIONS" then .server 200
    else if Text.upper name = "HEAD" ∧ .get ∈ r.methods then r.dispatch .get
    else .server 405

/-- The status of an answer to a request for a connection that stays open, which no resource
gives: either the resource has no such method, or at least not for all of its answers. -/
def openStatus (name : String) (resource : Resource) : Nat :=
  let has := fun (method : Method) ↦
    methodOfName? name = some method || (Text.upper name = "HEAD" && method = .get)
  if Text.upper name = "OPTIONS" ∨ resource.methods.all has then 400 else 405

/-- The status of a redirection to a resource, if the resource has the method. -/
def redirectStatus (name : String) (resource : Resource) : Nat :=
  match resource.dispatchName name with
  | .server 405 => 405
  | _ => 308

/-- What the server makes of a method at a destination. A path that leads nowhere as it stands, but to
a resource with its runs of slashes merged, is redirected. -/
def dispatch (method : String) (d : Destination) : Dispatch :=
  match Live.status? method d with
  | some status => .server status
  | none =>
    if d.isRefused then .server 400
    else
      match Resource.ofPath? d.path, Resource.ofPath? (mergeSlashes d.path) with
      | none, none => .server 404
      | some resource, _ =>
        if d.staysOpen then .server (openStatus method resource)
        else resource.dispatchName method
      | none, some resource =>
        .server (if d.staysOpen then openStatus method resource
          else redirectStatus method resource)

/-- A request as it is handed over to the service. In its body arrays and objects may be nested so
deep. -/
def Request.handOver (nesting : Nat) (r : Request) (d : Destination) : Service.Request where
  dispatch := dispatch r.method d
  term := (parameter? d.query "q").getD ""
  content := r.content.read nesting

end FlowCanvas.Front
