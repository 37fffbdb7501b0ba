import FlowCanvas.Table
import FlowCanvas.Text.Blank
import FlowCanvas.Text.Quoted
import FlowCanvas.Text.Occurrence
import FlowCanvas.Number.Shortest
import FlowCanvas.Number.Reading
import FlowCanvas.Fault
import FlowCanvas.Machine
import FlowCanvas.Json.Display
import FlowCanvas.Json.Conversion
import FlowCanvas.Graph.Guard
import FlowCanvas.Graph.Cycle
import FlowCanvas.Graph.Schedule
import FlowCanvas.Connection
import FlowCanvas.Diagram.Change
import FlowCanvas.Diagram.Validation
import FlowCanvas.Scope
import FlowCanvas.Viewport
import FlowCanvas.Config
import FlowCanvas.Emission.Export
import FlowCanvas.Canvas
import FlowCanvas.Service.Response
import FlowCanvas.Front.Request
import FlowCanvas.Proofs.Graph.Guard
import FlowCanvas.Proofs.Graph.Acyclic
import FlowCanvas.Proofs.Graph.PostOrder
import FlowCanvas.Proofs.Graph.Variation
import FlowCanvas.Proofs.Graph.Circuit
import FlowCanvas.Proofs.Graph.Cycle
import FlowCanvas.Proofs.Graph.Schedule
import FlowCanvas.Proofs.Graph.Visit
import FlowCanvas.Proofs.Diagram.Shape
import FlowCanvas.Proofs.Diagram.Binding
import FlowCanvas.Proofs.Diagram.Consistency
import FlowCanvas.Proofs.Diagram.History
import FlowCanvas.Proofs.Diagram.Origin
import FlowCanvas.Proofs.Diagram.Identifier
import FlowCanvas.Proofs.Diagram.Outline
import FlowCanvas.Proofs.Diagram.Problems
import FlowCanvas.Proofs.Diagram.Removal
import FlowCanvas.Proofs.Diagram.Drawing
import FlowCanvas.Proofs.Text.Brace
import FlowCanvas.Proofs.Number.Magnitude
import FlowCanvas.Proofs.Scope.Lookup
import FlowCanvas.Proofs.Scope.History
import FlowCanvas.Proofs.Emission.Output
import FlowCanvas.Proofs.Emission.Variant
import FlowCanvas.Proofs.Canvas.Session
import FlowCanvas.Proofs.Canvas.History
import FlowCanvas.Proofs.Canvas.Anchoring
import FlowCanvas.Proofs.Canvas.Connecting
import FlowCanvas.Proofs.Canvas.Zoom
import FlowCanvas.Proofs.Emission.DataFlow
import FlowCanvas.Proofs.Emission.Independence
import FlowCanvas.Proofs.Emission.Relevance
import FlowCanvas.Proofs.Emission.Blocks
import FlowCanvas.Proofs.Emission.Layout
import FlowCanvas.Proofs.Emission.Lookup
import FlowCanvas.Proofs.Emission.Routing
import FlowCanvas.Proofs.Emission.Braces
import FlowCanvas.Proofs.Emission.Scoping
import FlowCanvas.Proofs.Emission.Unbound
import FlowCanvas.Proofs.Service.Handling
import FlowCanvas.Proofs.Service.AllOrNothing
import FlowCanvas.Proofs.Service.Reading
import FlowCanvas.Proofs.Service.Point
import FlowCanvas.Proofs.Service.Oversight
import FlowCanvas.Proofs.Service.Replica
import FlowCanvas.Proofs.Front.Dispatch
