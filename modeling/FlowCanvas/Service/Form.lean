import FlowCanvas.Canvas

/-!
# Forms

How catalog entries, nodes, connections and the state of a canvas are written in answers. The
properties of a node come in two forms: with plain text for their keys, and in the order of their
keys, which not all keys have.
-/

namespace FlowCanvas

/-- An array of texts. -/
def Json.texts (items : List String) : Json := .arr (items.map .str)

/-- The form of a point. -/
def Point.form (p : Point) : Json := .obj [("x", .float p.x), ("y", .float p.y)]

/-- The form of a pin; a value type is written only where there is one. -/
def Pin.form (p : Pin) : Json :=
  .obj ([("id", .str p.id), ("name", .str p.name), ("type", .str p.signal.key),
      ("direction", .str p.direction.key), ("color", .str p.color)] ++
    (match p.dataType with
      | some t => [("dataType", .str t)]
      | none => []))

/-- The form of a property; what is empty is left out. -/
def Property.form (p : Property) : Json :=
  .obj ([("type", .str p.type), ("label", .str p.label), ("required", .bool p.required)] ++
    (if p.description.isEmpty then [] else [("description", .str p.description)]) ++
    (match p.initial with
      | some v => [("default", v)]
      | none => []) ++
    (if p.options.isEmpty then []
      else [("options", .arr (p.options.map fun o ↦
        .obj [("value", .str o.1), ("label", .str o.2)]))]))

/-- The form of a catalog entry. -/
def Entry.form (e : Entry) : Json :=
  .obj [("key", .str e.key), ("name", .str e.name), ("category", .str e.category.key),
    ("description", .str e.description),
    ("properties", .obj (e.properties.map fun p ↦ (p.key, p.form))),
    ("inputs", .texts e.inputs), ("outputs", .texts e.outputs)]

/-- Properties with plain text in the place of their keys. -/
def Properties.form (p : Properties) : Json :=
  .obj (Table.ofList (p.entries.map fun e ↦ (e.1.plain, e.2))).entries

/-- Properties as an object of JSON text, its members in the order of their keys. -/
def Properties.sortedForm (p : Properties) : Except Fault Json := do
  let keys ← Json.Key.sorted p.keys
  return .obj (keys.filterMap fun k ↦ (p.find? k).map fun v ↦ (k.name, v))

/-- The form of a node whose properties have been given theirs. -/
def Node.formWith (properties : Json) (n : Node) : Json :=
  .obj [("id", .str n.id), ("type", .str n.kind), ("name", n.name),
    ("position", n.position.form),
    ("config", .obj [("type", .str n.configKind), ("category", n.category.toJson),
      ("properties", properties)]),
    ("pins", .arr (n.pins.map Pin.form)), ("inputs", .texts n.inputs),
    ("outputs", .texts n.outputs)]

/-- The form of a node. -/
def Node.form (n : Node) : Json := n.formWith n.properties.form

/-- The form of a node with its properties in order; a fault if their keys have none. -/
def Node.sortedForm (n : Node) : Except Fault Json :=
  n.properties.sortedForm.map fun p ↦ n.formWith p

/-- The form of a connection; a value type is written only where there is one. -/
def Connection.form (c : Connection) : Json :=
  .obj ([("id", .str c.id), ("fromNode", .str c.source.node), ("fromPin", .str c.source.pin),
      ("toNode", .str c.target.node), ("toPin", .str c.target.pin),
      ("type", .str c.signal.key), ("fromPoint", c.sourcePoint.form),
      ("toPoint", c.targetPoint.form)] ++
    (match c.dataType with
      | some t => [("dataType", .str t)]
      | none => []))

/-- The form of a viewport. -/
def Viewport.form (v : Viewport) : Json :=
  .obj [("zoom", .float v.zoom), ("pan_x", .float v.pan.x), ("pan_y", .float v.pan.y),
    ("width", .float v.width), ("height", .float v.height)]

/-- The form of a canvas: what it shows and how much is on it. -/
def Canvas.form (c : Canvas) : Json :=
  .obj [("viewport", c.viewport.form),
    ("selected_node", c.selected.elim .null .str),
    ("model", .obj [("node_count", .int c.diagram.nodes.size),
      ("connection_count", .int c.diagram.connections.length)]),
    ("export_filename", .str c.config.exportFilename)]

end FlowCanvas
