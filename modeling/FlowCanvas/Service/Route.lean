/-!
# Routes

What the service can be asked for, each under a method and a path of its own. Ids in a path may be
any text.
-/

namespace FlowCanvas.Service

/-- The methods of requests. -/
inductive Method where
  | get
  | post
  | patch
  | delete
  deriving DecidableEq

/-- What a request can ask for. -/
inductive Route where
  /-- `/api/node-types` -/
  | listCatalog
  /-- `/api/canvas/state` -/
  | showState
  /-- `/api/canvas/nodes` -/
  | listNodes
  /-- `/api/canvas/nodes` -/
  | addNode
  /-- `/api/canvas/nodes/<node_id>` -/
  | updateNode (id : String)
  /-- `/api/canvas/nodes/<node_id>` -/
  | removeNode (id : String)
  /-- `/api/canvas/connections` -/
  | listConnections
  /-- `/api/canvas/connections` -/
  | addConnection
  /-- `/api/canvas/connections/<connection_id>` -/
  | removeConnection (id : String)
  /-- `/api/canvas/viewport/zoom` -/
  | setZoom
  /-- `/api/canvas/viewport/pan` -/
  | panView
  /-- `/api/canvas/validate` -/
  | validate
  /-- `/api/canvas/clear` -/
  | clear
  /-- `/api/export/preview` -/
  | preview
  /-- `/api/export` -/
  | download
  deriving DecidableEq

/-- The method by which something is asked for. -/
def Route.method : Route → Method
  | listCatalog | showState | listNodes | listConnections | validate | preview | download => .get
  | addNode | addConnection | setZoom | panView | clear => .post
  | updateNode _ => .patch
  | removeNode _ | removeConnection _ => .delete

end FlowCanvas.Service
