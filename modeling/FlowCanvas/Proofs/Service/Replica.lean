import FlowCanvas.Proofs.Service.Handling

/-!
# Keeping up with a service

An open editor is told what happens on a canvas by events. `Replica` is what it makes of them: the
nodes with their kinds, and the connections without the points between which they are drawn.
`Replica.hear` takes in an event as it is sent, by its name and its payload.

An editor that starts empty together with a service knows all of its diagram after every request
(`serve_keepsUp`), whatever the requests are, however many of them fail, and whatever tokens are drawn
for them. Each handler has to tell exactly what it does for that (`keepsUp_handle`). What it changes
without telling must be nothing that an editor knows of: how inputs are bound, where connections are
drawn, and what is left of a change that stops half way. An answer that cannot be written makes no
difference, since the events are told before.

Two facts about ids make the words of the events come true. A new node has a new key, so it is the
last one also in the diagram (`Replica.of_put`). And connections have ids of their own, so to drop
the first one with an id is to drop all of them (`Replica.of_disconnect`).
-/

namespace FlowCanvas

/-- What an editor knows of a connection. -/
structure Link where
  id : String
  fromNode : String
  fromPin : String
  toNode : String
  toPin : String
  type : String
  dataType : Option String
  deriving DecidableEq

/-- What there is to know of a connection. -/
def Link.of (c : Connection) : Link :=
  ⟨c.id, c.source.node, c.source.pin, c.target.node, c.target.pin, c.signal.key, c.dataType⟩

/-- What an editor knows of a diagram. -/
structure Replica where
  /-- The ids of the nodes with their kinds. -/
  nodes : List (String × String)
  links : List Link
  deriving DecidableEq

/-! ### Reading what is sent -/

/-- A member of an object; null if there is none. -/
def Json.member (name : String) : Json → Json
  | obj members => Service.memberOrNull name members
  | _ => null

/-- The text that a value is, if it is one. -/
def Json.text? : Json → Option String
  | str s => some s
  | _ => none

/-- The text at a member of an object; empty if there is none. -/
def Json.textAt (name : String) (v : Json) : String := (v.member name).text?.getD ""

/-- Reads a connection. -/
def Link.read (v : Json) : Link where
  id := v.textAt "id"
  fromNode := v.textAt "fromNode"
  fromPin := v.textAt "fromPin"
  toNode := v.textAt "toNode"
  toPin := v.textAt "toPin"
  type := v.textAt "type"
  dataType := (v.member "dataType").text?

theorem Link.read_form (c : Connection) : Link.read c.form = .of c := by
  rw [Connection.form, Link.of]
  cases c.dataType <;> rfl

namespace Replica

/-- Nothing is known yet. -/
def empty : Replica := ⟨[], []⟩

/-- All there is to know of a diagram. -/
def of (d : Diagram) : Replica :=
  ⟨d.nodes.entries.map fun e ↦ (e.1, e.2.kind), d.connections.map .of⟩

/-- Appends a node. -/
def addNode (r : Replica) (id kind : String) : Replica :=
  { r with nodes := r.nodes ++ [(id, kind)] }

/-- Drops a node and every connection that ends on it. -/
def dropNode (r : Replica) (id : String) : Replica where
  nodes := r.nodes.filter (·.1 ≠ id)
  links := r.links.filter fun l ↦ l.fromNode ≠ id ∧ l.toNode ≠ id

/-- Appends a connection. -/
def addLink (r : Replica) (l : Link) : Replica := { r with links := r.links ++ [l] }

/-- Drops a connection. -/
def dropLink (r : Replica) (id : String) : Replica :=
  { r with links := r.links.filter (·.id ≠ id) }

/-- Takes in an event by its name and its payload. Changes of nodes are passed over. -/
def hear (r : Replica) (event : String) (payload : Json) : Replica :=
  if event = "node_added" then
    r.addNode ((payload.member "node").textAt "id") ((payload.member "node").textAt "type")
  else if event = "node_removed" then r.dropNode (payload.textAt "node_id")
  else if event = "connection_added" then r.addLink (.read (payload.member "connection"))
  else if event = "connection_removed" then r.dropLink (payload.textAt "connection_id")
  else if event = "canvas_cleared" then empty
  else r

/-- Takes in events as they are sent, one after the other. -/
def hearAll (r : Replica) (events : List Service.Event) : Replica :=
  events.foldl (fun r e ↦ r.hear e.name e.payload) r

/-- What an event means. -/
def follow (r : Replica) : Service.Event → Replica
  | .nodeAdded n => r.addNode n.id n.kind
  | .nodeUpdated _ => r
  | .nodeRemoved id => r.dropNode id
  | .connectionAdded c => r.addLink (.of c)
  | .connectionRemoved id => r.dropLink id
  | .cleared => empty

/-- **What is sent** is enough to know what is meant. -/
theorem hear_eq_follow (r : Replica) (e : Service.Event) :
    r.hear e.name e.payload = r.follow e := by
  cases e with
  | connectionAdded c => exact congrArg r.addLink (Link.read_form c)
  | _ => rfl

theorem hearAll_append (r : Replica) (events others : List Service.Event) :
    r.hearAll (events ++ others) = (r.hearAll events).hearAll others :=
  List.foldl_append

/-! ### What operations do to a diagram -/

variable {d : Diagram}

/-- Only the kinds of nodes are known, so changes of nodes that keep them go unnoticed. -/
theorem of_mapValues {f : String → Node → Node} (connections : List Connection)
    (h : ∀ k n, d.nodes.find? k = some n → (f k n).kind = n.kind) :
    of ⟨d.nodes.mapValues f, connections⟩ = of ⟨d.nodes, connections⟩ := by
  have hnodes : (d.nodes.mapValues f).entries.map (fun e ↦ (e.1, e.2.kind)) =
      d.nodes.entries.map fun e ↦ (e.1, e.2.kind) := by
    rw [Table.mapValues, List.map_map]
    refine List.map_congr_left fun e he ↦ ?_
    show (e.1, (f e.1 e.2).kind) = (e.1, e.2.kind)
    rw [h e.1 e.2 (Table.find?_eq_some_iff.2 he)]
  rw [of, of, hnodes]

theorem of_rebind (d : Diagram) (key : String) : of (d.rebind key) = of d := by
  refine of_mapValues d.connections fun k n _ ↦ ?_
  split
  · exact (Diagram.sameShape_rebound key d.connections n).kind
  · rfl

theorem of_foldl_rebind (keys : List String) (d : Diagram) :
    of (keys.foldl Diagram.rebind d) = of d := by
  induction keys generalizing d with
  | nil => rfl
  | cons key rest ih => exact (ih _).trans (of_rebind d key)

/-- A new node is the last one. -/
theorem of_put {n : Node} (hfresh : n.id ∉ d.nodes.keys) :
    of (d.put n) = (of d).addNode n.id n.kind := by
  have hentries : (d.nodes.insert n.id n).entries = d.nodes.entries ++ [(n.id, n)] :=
    Table.put_eq_append hfresh n
  rw [Diagram.put, of, hentries, List.map_append]
  rfl

/-- A change of a node is not noticed, even if it stops half way. -/
theorem of_update (d : Diagram) (id : String) (changes : List Change) :
    of (d.update id changes).1 = of d := by
  rw [Diagram.update]
  cases Change.operand? changes with
  | some operand => rfl
  | none =>
    cases hn : d.nodes.find? id with
    | none => rfl
    | some n =>
      refine of_mapValues d.connections fun k m hm ↦ ?_
      dsimp only
      split
      · next hk =>
        obtain rfl := Option.some.inj (hn.symm.trans (hk ▸ hm))
        exact (n.sameShape_changeAll changes).1.kind
      · rfl

/-- Where connections are drawn is not known. -/
theorem of_reanchorAll (d : Diagram) (node : String) : of (Canvas.reanchorAll d node) = of d := by
  have hlinks : (Canvas.reanchorAll d node).connections.map Link.of = d.connections.map .of := by
    rw [Canvas.reanchorAll, List.map_map]
    refine List.map_congr_left fun c _ ↦ ?_
    show Link.of (if c.touches node then Canvas.reanchor d.nodes c else c) = Link.of c
    split <;> rfl
  rw [of, hlinks]
  rfl

/-- A node takes along the connections that end on it. -/
theorem of_remove {id : String} (hid : d.nodes.contains id = true) :
    of (d.remove id) = (of d).dropNode id := by
  rw [Diagram.remove, if_pos hid, of_foldl_rebind, of, dropNode, of]
  congr 1
  · rw [Table.erase, List.filter_map]
    rfl
  · rw [List.filter_map]
    congr 1
    refine List.filter_congr fun c _ ↦ ?_
    have htouches : c.touches id = true ↔ c.source.node = id ∨ c.target.node = id := by
      simp [Connection.touches]
    show (!c.touches id) = decide (c.source.node ≠ id ∧ c.target.node ≠ id)
    rw [Bool.eq_iff_iff, Bool.not_eq_true', ← Bool.not_eq_true, htouches, not_or, decide_eq_true_eq]

/-- As ids are not shared, the connection with an id is the only one that is dropped. -/
theorem of_disconnect (h : d.Consistent) (id : String) :
    of (d.disconnect id) = (of d).dropLink id := by
  have hdrop : (of d).dropLink id = of ⟨d.nodes, d.connections.filter (·.id ≠ id)⟩ := by
    rw [dropLink, of, of, List.filter_map]
    rfl
  rw [Diagram.disconnect, hdrop]
  cases hc : d.connection? id with
  | none =>
    have hnone : d.connections.filter (·.id ≠ id) = d.connections := by
      refine List.filter_eq_self.2 fun c hmem ↦ ?_
      simpa using List.find?_eq_none.1 hc c hmem
    rw [hnone]
  | some c =>
    rw [← Diagram.eraseP_id_eq_filter h.nodup_ids]
    exact of_rebind _ c.target.node

end Replica

namespace Service

variable {machine : Machine} {c : Canvas} {token : String} {r : Request} {route : Route}

/-- Who knows all of a canvas and hears the events of an answer knows all of the canvas
afterwards. -/
def KeepsUp (c : Canvas) (answer : Canvas × Response) : Prop :=
  (Replica.of c.diagram).hearAll answer.2.events = .of answer.1.diagram

/-- Where nothing that is known changes and nothing is told, there is nothing to keep up with. -/
theorem keepsUp_of_silent {answer : Canvas × Response}
    (hsame : Replica.of answer.1.diagram = .of c.diagram) (hsilent : answer.2.events = []) :
    KeepsUp c answer := by
  rw [KeepsUp, hsilent, hsame]
  rfl

theorem keepsUp_ofFailure (c : Canvas) (f : Failure) : KeepsUp c (c, .ofFailure f) :=
  keepsUp_of_silent rfl (events_ofFailure f)

theorem keepsUp_addNode (hfresh : c.IsFreshNode token) (machine : Machine) (content : Content) :
    KeepsUp c (addNode machine c token content) := by
  refine orFail_induction (keepsUp_ofFailure c) fun q _ ↦ ?_
  dsimp only
  rw [Canvas.add]
  cases q.position.elim c.viewport.center .ok with
  | error f => exact keepsUp_ofFailure c (.fault f)
  | ok p =>
    refine (Replica.of_put ?_).symm
    exact hfresh

theorem keepsUp_updateNode (machine : Machine) (c : Canvas) (id : String) (content : Content) :
    KeepsUp c (updateNode machine c id content) := by
  refine orFail_induction (keepsUp_ofFailure c) fun changes _ ↦ ?_
  have hsame : Replica.of (c.update id changes).canvas.diagram = .of c.diagram := by
    rcases c.canvas_update id changes with hc | hc | hc
    · rw [hc]
    · rw [hc]
      exact Replica.of_update c.diagram id changes
    · rw [hc]
      exact (Replica.of_reanchorAll _ id).trans (Replica.of_update c.diagram id changes)
  dsimp only
  split
  · -- the event, if there is one, only says that the node has changed
    show (Replica.of c.diagram).hearAll _ = Replica.of (c.update id changes).canvas.diagram
    rw [hsame]
    split
    · split <;> rfl
    · rfl
  · exact keepsUp_of_silent hsame (events_ofFailure _)

theorem keepsUp_removeNode (c : Canvas) (id : String) : KeepsUp c (removeNode c id) := by
  rw [removeNode, Canvas.remove]
  split
  · next hid => exact (Replica.of_remove hid).symm
  · exact keepsUp_of_silent rfl rfl

theorem keepsUp_addConnection (h : c.diagram.Consistent) (machine : Machine) (token : String)
    (content : Content) : KeepsUp c (addConnection machine c token content) := by
  refine orFail_induction (keepsUp_ofFailure c) fun ends _ ↦ ?_
  dsimp only
  rcases Canvas.connect_cases h token ends.1 ends.2 with
    hrefused | ⟨s, t, drawn, -, -, -, -, hdrawn⟩
  · rw [hrefused]
    exact keepsUp_of_silent rfl rfl
  · rw [hdrawn]
    refine ((Replica.of c.diagram).hear_eq_follow (.connectionAdded drawn)).trans ?_
    refine Eq.trans ?_ (Replica.of_mapValues (c.diagram.connections ++ [drawn]) fun _ n _ ↦
      (n.sameShape_fedBy drawn).kind).symm
    rw [Replica.follow, Replica.addLink, Replica.of, Replica.of, List.map_append]
    rfl

theorem keepsUp_removeConnection (h : c.diagram.Consistent) (id : String) :
    KeepsUp c (removeConnection c id) := by
  rw [removeConnection, Canvas.disconnect]
  split
  · exact (Replica.of_disconnect h id).symm
  · exact keepsUp_of_silent rfl rfl

/-- **One handler**: its events tell what it does to the diagram. -/
theorem keepsUp_handle (h : c.diagram.Consistent) (machine : Machine) (r : Request)
    (hfresh : route.IsFresh c token) : KeepsUp c (handle machine c token r route) := by
  by_cases hget : route.method = .get
  · obtain ⟨hsame, hsilent⟩ := handle_get machine c token r hget
    exact keepsUp_of_silent (by rw [hsame]) hsilent
  cases route with
  | addNode => exact keepsUp_addNode hfresh machine r.content
  | updateNode id => exact keepsUp_updateNode machine c id r.content
  | removeNode id => exact keepsUp_removeNode c id
  | addConnection => exact keepsUp_addConnection h machine token r.content
  | removeConnection id => exact keepsUp_removeConnection h id
  | clear => exact rfl
  | setZoom | panView =>
    exact orFail_induction (keepsUp_ofFailure c) fun _ _ ↦ keepsUp_of_silent rfl rfl
  | _ => exact absurd rfl hget

/-- **One request**: its events tell what it does to the diagram. -/
theorem keepsUp_respond (h : c.diagram.Consistent) (machine : Machine)
    (hfresh : r.dispatch.IsFresh c token) : KeepsUp c (respond machine c token r) := by
  cases hdispatch : r.dispatch with
  | server status =>
    rw [respond_of_server hdispatch]
    exact keepsUp_of_silent rfl rfl
  | handler route =>
    rw [hdispatch] at hfresh
    rw [respond_of_handler hdispatch, KeepsUp, events_written]
    exact keepsUp_handle h machine r hfresh

/-! ### Series of requests -/

/-- Is every token that is drawn in the course of some requests one whose id is not in use then? -/
def FreshTurns (c : Canvas) : List Turn → Prop
  | [] => True
  | t :: rest => t.request.dispatch.IsFresh c t.token ∧
      FreshTurns (respond t.machine c t.token t.request).1 rest

instance decidableFreshTurns : (c : Canvas) → DecidablePred (FreshTurns c)
  | _, [] => inferInstanceAs (Decidable True)
  | c, t :: rest =>
    have := decidableFreshTurns (respond t.machine c t.token t.request).1 rest
    inferInstanceAs (Decidable (t.request.dispatch.IsFresh c t.token ∧
      FreshTurns (respond t.machine c t.token t.request).1 rest))

theorem length_serve (c : Canvas) (ts : List Turn) : (serve c ts).2.length = ts.length := by
  induction ts generalizing c with
  | nil => rfl
  | cons t rest ih => exact congrArg (· + 1) (ih _)

/-- The answers to the first requests are the first answers. -/
theorem serve_take (c : Canvas) (ts : List Turn) (n : Nat) :
    (serve c (ts.take n)).2 = (serve c ts).2.take n := by
  induction ts generalizing c n with
  | nil =>
    rw [List.take_nil]
    exact List.take_nil.symm
  | cons t rest ih =>
    cases n with
    | zero => rfl
    | succ n => exact congrArg (_ :: ·) (ih _ n)

theorem FreshTurns.take {ts : List Turn} (h : FreshTurns c ts) (n : Nat) :
    FreshTurns c (ts.take n) := by
  induction ts generalizing c n with
  | nil =>
    rw [List.take_nil]
    exact h
  | cons t rest ih =>
    cases n with
    | zero => exact trivial
    | succ n => exact ⟨h.1, ih h.2 n⟩

/-- **A series of requests**: the events of all answers tell what they have done to the diagram. -/
theorem hearAll_serve (h : c.diagram.Consistent) {ts : List Turn} (hfresh : FreshTurns c ts) :
    (Replica.of c.diagram).hearAll ((serve c ts).2.flatMap Response.events) =
      .of (serve c ts).1.diagram := by
  induction ts generalizing c with
  | nil => rfl
  | cons t rest ih =>
    have hkeeps : KeepsUp c (respond t.machine c t.token t.request) :=
      keepsUp_respond h t.machine hfresh.1
    rw [serve, List.flatMap_cons, Replica.hearAll_append, hkeeps]
    exact ih (consistent_respond h t.machine hfresh.1) hfresh.2

/-- **An editor keeps up.** Whatever requests are sent to a new service and whatever tokens are drawn
for them, on whatever machine each of them is served, each is answered, and an editor that starts
empty and hears the events of all answers until then knows, after every request, exactly the nodes and
the connections of the diagram, in their order. -/
theorem serve_keepsUp (config : Config) (width height : Option Float) {ts : List Turn}
    (hfresh : FreshTurns (.new config width height) ts) :
    let answers := (serve (.new config width height) ts).2
    answers.length = ts.length ∧ ∀ n,
      (serve (.new config width height) (ts.take n)).2 = answers.take n ∧
        Replica.empty.hearAll ((answers.take n).flatMap Response.events) =
          .of (serve (.new config width height) (ts.take n)).1.diagram := by
  intro answers
  refine ⟨length_serve _ ts, fun n ↦ ?_⟩
  have hfirst := serve_take (.new config width height) ts n
  refine ⟨hfirst, ?_⟩
  have hhears := hearAll_serve Diagram.consistent_empty (hfresh.take n)
  rwa [hfirst] at hhears

/-- A circle that is refused, a change that stops half way, an answer that is lost and a cascade among
other requests. -/
theorem exists_replica_after_cascade :
    ∃ ts : List Turn, FreshTurns (.new .default none none) ts ∧
      let answers := (serve (.new .default none none) ts).2
      answers.map Response.status = [201, 201, 500, 400, 201, 409, 201, 500, 404, 200] ∧
      Replica.empty.hearAll (answers.flatMap Response.events) =
        ⟨[("node_5f0a", "arithmetic"), ("node_03b7", "let_declaration")],
          [⟨"conn_03b7", "node_5f0a", "result", "node_03b7", "value", "data", none⟩]⟩ := by
  let turn := fun (token : String) (route : Route) (members : List (String × Json)) ↦
    (⟨.bounded 900 0x10000000000, token, .handler route, "", .ok (some (.obj members))⟩ : Turn)
  let add := fun (token kind : String) (properties : List (String × Json)) ↦
    turn token .addNode [("type", .str kind), ("properties", .obj properties)]
  let connect := fun (token source pin target slot : String) ↦ turn token .addConnection
    [("from_node", .str source), ("from_pin", .str pin), ("to_node", .str target),
      ("to_pin", .str slot)]
  let ts : List Turn := [add "5f0a" "arithmetic" [], add "9c21" "comparison" [],
    add "03b7" "let_declaration" [("hint", .nested 898)],
    turn "77de" .addNode [],
    connect "e410" "node_5f0a" "result" "node_9c21" "left",
    connect "8a6c" "node_9c21" "result" "node_5f0a" "left",
    connect "03b7" "node_5f0a" "result" "node_03b7" "value",
    turn "" (.updateNode "node_03b7")
      [("name", .str "x"), ("config", .obj [("properties", .int 5)])],
    ⟨.unlimited, "", .server 404, "", .ok none⟩,
    turn "" (.removeNode "node_9c21") []]
  have hfresh : FreshTurns (.new .default none none) ts := by decide +kernel
  have hlast : (serve (.new .default none none) ts).2.map Response.status =
        [201, 201, 500, 400, 201, 409, 201, 500, 404, 200] ∧
      Replica.of (serve (.new .default none none) ts).1.diagram =
        ⟨[("node_5f0a", "arithmetic"), ("node_03b7", "let_declaration")],
          [⟨"conn_03b7", "node_5f0a", "result", "node_03b7", "value", "data", none⟩]⟩ := by
    decide +kernel
  obtain ⟨hlength, hall⟩ := serve_keepsUp .default none none hfresh
  obtain ⟨-, hhears⟩ := hall ts.length
  rw [List.take_length, ← hlength, List.take_length] at hhears
  exact ⟨ts, hfresh, hlast.1, hhears.trans hlast.2⟩

end Service

end FlowCanvas
