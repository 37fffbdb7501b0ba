import FlowCanvas.Proofs.Canvas.History
import FlowCanvas.Service.Response

/-!
# What requests come down to

What the server answers itself has no effect, so whatever is said about the canvas is a matter of the
handlers (`respond_of_server`, `respond_of_handler`). A handler that only shows something changes
nothing and tells nobody (`handle_get`). To the canvas itself a request does what an action does, or
nothing (`canvas_respond`). That its answer may be impossible to write comes after all this, and is no
more than another answer.

`Reached` holds of the canvases that requests lead to, whatever machines they are served on and
whatever tokens are drawn for them, as long as the ids made of these are not in use
(`Dispatch.IsFresh`). Actions lead to them as well (`Reached.reachable`), so they are consistent, which
a handler may rely on.
-/

namespace FlowCanvas.Service

variable {machine : Machine} {c : Canvas} {token : String} {r : Request} {route : Route}

/-! ### Failing -/

/-- What holds of every failure, and of going on with whatever was read, holds of both together. -/
theorem orFail_induction {α : Type} {motive : Canvas × Response → Prop} {read : Except Failure α}
    {go : α → Canvas × Response} (hfail : ∀ f, motive (c, .ofFailure f))
    (hgo : ∀ a, read = .ok a → motive (go a)) : motive (orFail c read go) := by
  cases read with
  | error f => exact hfail f
  | ok a => exact hgo a rfl

theorem events_ofFailure (f : Failure) : (Response.ofFailure f).events = [] := by
  cases f <;> rfl

/-! ### Coming through -/

theorem events_written (machine : Machine) (a : Response) :
    (a.written machine).events = a.events := by
  rw [Response.written]
  cases a.writeFault? machine <;> rfl

theorem respond_of_handler (h : r.dispatch = .handler route) :
    respond machine c token r = ((handle machine c token r route).1,
      (handle machine c token r route).2.written machine) := by
  rw [respond, h]

theorem respond_of_server {status : Nat} (h : r.dispatch = .server status) :
    respond machine c token r = (c, .bare status) := by
  rw [respond, h]

/-- Asking for what can be read changes nothing and tells nobody. -/
theorem handle_get (machine : Machine) (c : Canvas) (token : String) (r : Request)
    (h : route.method = .get) :
    (handle machine c token r route).1 = c ∧ (handle machine c token r route).2.events = [] := by
  cases route with
  | listNodes | preview =>
    exact orFail_induction (motive := fun a ↦ a.1 = c ∧ a.2.events = [])
      (fun f ↦ ⟨rfl, events_ofFailure f⟩) fun _ _ ↦ ⟨rfl, rfl⟩
  | download =>
    refine orFail_induction (motive := fun a ↦ a.1 = c ∧ a.2.events = [])
      (fun f ↦ ⟨rfl, events_ofFailure f⟩) fun code _ ↦ ?_
    dsimp only
    cases machine.headerFault? ("attachment; filename=" ++ c.config.exportFilename) with
    | none => exact ⟨rfl, rfl⟩
    | some f => exact ⟨rfl, events_ofFailure _⟩
  | listCatalog | showState | listConnections | validate => exact ⟨rfl, rfl⟩
  | _ => exact absurd h nofun

/-! ### Actions -/

/-- Is a token that is drawn for something asked for one whose id is not in use? For most of what can
be asked for none is drawn. -/
def Route.IsFresh (c : Canvas) (token : String) : Route → Prop
  | addNode => c.IsFreshNode token
  | addConnection => c.IsFreshConnection token
  | _ => True

instance (c : Canvas) (token : String) : DecidablePred (Route.IsFresh c token)
  | .addNode => inferInstanceAs (Decidable (c.IsFreshNode token))
  | .addConnection => inferInstanceAs (Decidable (c.IsFreshConnection token))
  | .listCatalog | .showState | .listNodes | .updateNode _ | .removeNode _ | .listConnections
  | .removeConnection _ | .setZoom | .panView | .validate | .clear | .preview | .download =>
    inferInstanceAs (Decidable True)

/-- Is a token that is drawn for a request one whose id is not in use? The server draws none. -/
def Dispatch.IsFresh (c : Canvas) (token : String) : Dispatch → Prop
  | handler route => route.IsFresh c token
  | server _ => True

instance (c : Canvas) (token : String) : DecidablePred (Dispatch.IsFresh c token)
  | .handler route => inferInstanceAs (Decidable (route.IsFresh c token))
  | .server _ => inferInstanceAs (Decidable True)

/-- What a handler does to the canvas is an action, or nothing. -/
theorem canvas_handle (machine : Machine) (r : Request) (hfresh : route.IsFresh c token) :
    (handle machine c token r route).1 = c ∨
      ∃ a : Canvas.Action, a.IsFresh c ∧ (handle machine c token r route).1 = c.act a := by
  have hread : ∀ {α : Type} {read : Except Failure α} {go : α → Canvas × Response},
      (∀ x, ∃ a : Canvas.Action, a.IsFresh c ∧ (go x).1 = c.act a) →
        (orFail c read go).1 = c ∨
          ∃ a : Canvas.Action, a.IsFresh c ∧ (orFail c read go).1 = c.act a := fun hgo ↦
    orFail_induction (motive := fun answer ↦ answer.1 = c ∨
      ∃ a : Canvas.Action, a.IsFresh c ∧ answer.1 = c.act a) (fun _ ↦ Or.inl rfl)
      fun x _ ↦ Or.inr (hgo x)
  cases route with
  | addNode =>
    refine hread fun q ↦
      ⟨.add token q.kind (Json.keyed q.properties) q.category q.position, hfresh, ?_⟩
    dsimp only
    split <;> rfl
  | addConnection =>
    refine hread fun ends ↦ ⟨.connect token ends.1 ends.2, hfresh, ?_⟩
    dsimp only
    split <;> rfl
  | updateNode id =>
    refine hread fun changes ↦ ⟨.update id changes, trivial, ?_⟩
    dsimp only
    split <;> rfl
  | removeNode id => exact Or.inr ⟨.remove id, trivial, rfl⟩
  | removeConnection id => exact Or.inr ⟨.disconnect id, trivial, rfl⟩
  | setZoom => exact hread fun zoom ↦ ⟨.setZoom zoom, trivial, rfl⟩
  | panView => exact hread fun delta ↦ ⟨.panBy delta.1 delta.2, trivial, rfl⟩
  | clear => exact Or.inr ⟨.clear, trivial, rfl⟩
  | _ => exact Or.inl (handle_get machine c token r rfl).1

/-- **What a request does to the canvas** is an action, or nothing. -/
theorem canvas_respond (machine : Machine) (hfresh : r.dispatch.IsFresh c token) :
    (respond machine c token r).1 = c ∨
      ∃ a : Canvas.Action, a.IsFresh c ∧ (respond machine c token r).1 = c.act a := by
  cases hdispatch : r.dispatch with
  | server status =>
    rw [respond_of_server hdispatch]
    exact Or.inl rfl
  | handler route =>
    rw [hdispatch] at hfresh
    rw [respond_of_handler hdispatch]
    exact canvas_handle machine r hfresh

theorem consistent_respond (h : c.diagram.Consistent) (machine : Machine)
    (hfresh : r.dispatch.IsFresh c token) : (respond machine c token r).1.diagram.Consistent := by
  rcases canvas_respond machine hfresh with hsame | ⟨a, ha, hact⟩
  · rwa [hsame]
  · rw [hact]
    exact Canvas.consistent_act h ha

/-! ### Reached canvases -/

/-- Requests lead to the canvas from a new one. -/
inductive Reached : Canvas → Prop where
  | fresh (config : Config) (width height : Option Float) : Reached (.new config width height)
  | answered {c : Canvas} (machine : Machine) {token : String} {r : Request} : Reached c →
      r.dispatch.IsFresh c token → Reached (respond machine c token r).1

/-- What requests lead to, actions lead to as well. -/
theorem Reached.reachable (h : Reached c) : c.Reachable := by
  induction h with
  | fresh config width height => exact .new config width height
  | answered machine _ hfresh ih =>
    rcases canvas_respond machine hfresh with hsame | ⟨a, ha, hact⟩
    · rwa [hsame]
    · rw [hact]
      exact ih.step a ha

theorem Reached.consistent (h : Reached c) : c.diagram.Consistent := h.reachable.consistent

end FlowCanvas.Service
