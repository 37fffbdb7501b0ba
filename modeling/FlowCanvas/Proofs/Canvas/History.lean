import FlowCanvas.Proofs.Canvas.Session

/-!
# Histories of canvases

`Reachable` holds of the canvases that any series of actions leads to, from a new one on and with
arguments of any kind; of tokens it is only asked that the id made of them is not in use
(`Action.IsFresh`). An action that is at fault counts with whatever it has done until then. `Orderly`
holds of those where no action was at fault, which is what anchors need: a fault can leave a node
moved while its connections are not.

One action keeps the diagram consistent, so on every reachable canvas it is
(`Reachable.consistent`).
-/

namespace FlowCanvas

namespace Canvas

/-- What can be done to a canvas. -/
inductive Action where
  | add (token kind : String) (properties : Properties) (category : Option Label)
    (position : Option Point)
  | update (id : String) (changes : List Change)
  | remove (id : String)
  | select (id : Option String)
  | connect (token : String) (source target : Terminal)
  | disconnect (id : String)
  | setZoom (zoom : Float)
  | panBy (dx dy : Float)
  | clear

/-- The canvas after an action, whatever its result. -/
def act (c : Canvas) : Action → Canvas
  | .add token kind properties category position =>
    (c.add token kind properties category position).canvas
  | .update id changes => (c.update id changes).canvas
  | .remove id => (c.remove id).canvas
  | .select id => (c.select id).canvas
  | .connect token source target => (c.connect token source target).canvas
  | .disconnect id => (c.disconnect id).canvas
  | .setZoom zoom => c.setZoom zoom
  | .panBy dx dy => c.panBy dx dy
  | .clear => c.clear.canvas

/-- Has the token of an action an id that is not in use? Most actions have none. -/
def Action.IsFresh (c : Canvas) : Action → Prop
  | add token .. => c.IsFreshNode token
  | connect token .. => c.IsFreshConnection token
  | update .. | remove _ | select _ | disconnect _ | setZoom _ | panBy .. | clear => True

instance (c : Canvas) : DecidablePred (Action.IsFresh c)
  | .add token .. => inferInstanceAs (Decidable (c.IsFreshNode token))
  | .connect token .. => inferInstanceAs (Decidable (c.IsFreshConnection token))
  | .update .. | .remove _ | .select _ | .disconnect _ | .setZoom _ | .panBy .. | .clear =>
    inferInstanceAs (Decidable True)

/-- Does an action end without a fault? Most do in any case. -/
def Action.Succeeds (c : Canvas) : Action → Prop
  | add token kind properties category position =>
    (c.add token kind properties category position).result.isOk = true
  | update id changes => (c.update id changes).result.isOk = true
  | connect token source target => (c.connect token source target).result.isOk = true
  | remove _ | select _ | disconnect _ | setZoom _ | panBy .. | clear => True

instance (c : Canvas) : DecidablePred (Action.Succeeds c)
  | .add .. | .update .. | .connect .. => inferInstanceAs (Decidable (_ = true))
  | .remove _ | .select _ | .disconnect _ | .setZoom _ | .panBy .. | .clear =>
    inferInstanceAs (Decidable True)

/-- The canvas after several actions. -/
def actAll (c : Canvas) (actions : List Action) : Canvas := actions.foldl act c

/-- Does every one of a series of actions have a fresh token? -/
def FreshRun (c : Canvas) : List Action → Prop
  | [] => True
  | a :: rest => a.IsFresh c ∧ FreshRun (c.act a) rest

instance decidableFreshRun : (c : Canvas) → DecidablePred (FreshRun c)
  | _, [] => inferInstanceAs (Decidable True)
  | c, a :: rest =>
    have := decidableFreshRun (c.act a) rest
    inferInstanceAs (Decidable (a.IsFresh c ∧ FreshRun (c.act a) rest))

/-- Does every one of a series of actions have a fresh token and end without a fault? -/
def SmoothRun (c : Canvas) : List Action → Prop
  | [] => True
  | a :: rest => a.IsFresh c ∧ a.Succeeds c ∧ SmoothRun (c.act a) rest

instance decidableSmoothRun : (c : Canvas) → DecidablePred (SmoothRun c)
  | _, [] => inferInstanceAs (Decidable True)
  | c, a :: rest =>
    have := decidableSmoothRun (c.act a) rest
    inferInstanceAs (Decidable (a.IsFresh c ∧ a.Succeeds c ∧ SmoothRun (c.act a) rest))

/-- Actions with fresh tokens lead to the canvas from a new one. -/
inductive Reachable : Canvas → Prop where
  | new (config : Config) (width height : Option Float) : Reachable (.new config width height)
  | step {c : Canvas} (a : Action) : Reachable c → a.IsFresh c → Reachable (c.act a)

/-- Actions with fresh tokens that end without a fault lead to the canvas from a new one. -/
inductive Orderly : Canvas → Prop where
  | new (config : Config) (width height : Option Float) : Orderly (.new config width height)
  | step {c : Canvas} (a : Action) : Orderly c → a.IsFresh c → a.Succeeds c → Orderly (c.act a)

variable {c : Canvas}

theorem Orderly.reachable (h : Orderly c) : Reachable c := by
  induction h with
  | new config width height => exact .new config width height
  | step a _ hfresh _ ih => exact ih.step a hfresh

theorem Reachable.actAll (h : Reachable c) {actions : List Action} (hrun : c.FreshRun actions) :
    Reachable (c.actAll actions) := by
  induction actions generalizing c with
  | nil => exact h
  | cons a rest ih => exact ih (h.step a hrun.1) hrun.2

theorem Orderly.actAll (h : Orderly c) {actions : List Action} (hrun : c.SmoothRun actions) :
    Orderly (c.actAll actions) := by
  induction actions generalizing c with
  | nil => exact h
  | cons a rest ih => exact ih (h.step a hrun.1 hrun.2.1) hrun.2.2

/-- Selecting changes nothing, or it selects what was to be selected, and that is a node if it is
anything. -/
theorem canvas_select (c : Canvas) (id : Option String) :
    (c.select id).canvas = c ∨ ((c.select id).canvas = { c with selected := id } ∧
      ∀ k, id = some k → k ∈ c.diagram.nodes.keys) := by
  cases id with
  | none => exact Or.inr ⟨rfl, nofun⟩
  | some id =>
    rw [select]
    split
    · next hid =>
      refine Or.inr ⟨rfl, fun k hk ↦ ?_⟩
      rw [← Option.some.inj hk]
      exact Table.contains_iff.1 hid
    · exact Or.inl rfl

/-- **One action** keeps the diagram of a canvas consistent. -/
theorem consistent_act (h : c.diagram.Consistent) {a : Action} (hfresh : a.IsFresh c) :
    (c.act a).diagram.Consistent := by
  cases a with
  | add token kind properties category position =>
    exact consistent_add h hfresh kind properties category position
  | update id changes => exact consistent_update h id changes
  | remove id => exact consistent_remove h id
  | select id =>
    show (c.select id).canvas.diagram.Consistent
    rcases c.canvas_select id with hc | ⟨hc, -⟩
    · rwa [hc]
    · rwa [hc]
  | connect token source target => exact consistent_connect h hfresh source target
  | disconnect id => exact consistent_disconnect h id
  | setZoom zoom => exact h
  | panBy dx dy => exact h
  | clear => exact Diagram.consistent_empty

theorem Reachable.consistent (h : Reachable c) : c.diagram.Consistent := by
  induction h with
  | new config width height => exact Diagram.consistent_empty
  | step a _ hfresh ih => exact consistent_act ih hfresh

end Canvas

end FlowCanvas
