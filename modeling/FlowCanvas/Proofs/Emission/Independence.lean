import FlowCanvas.Emission.Export
import FlowCanvas.Proofs.Diagram.Drawing
import FlowCanvas.Proofs.Diagram.History
import FlowCanvas.Proofs.Graph.PostOrder

/-!
# Connections to different nodes

In which order two connections to different nodes are drawn makes no difference. The nodes cannot
tell, and neither can the guard (`Diagram.nodes_withDrawn_comm`, `Consistent.admits_withDrawn_comm`).
What is left is the list of connections, and an export looks at it one node at a time: the schedule
asks for the sources of the edges into a node, the place of a node for the execution connections
that land on it. So it depends only on what lands on each node, in the order drawn there
(`generate_congr`), and swapping connections to different nodes leaves this alone
(`landings_swap`).
-/

namespace FlowCanvas

namespace Emission

/-! ### What an export reads of the connections -/

/-- What lands on a node: where each connection comes from and what it carries. -/
def landings (connections : List Connection) (node : String) : List (Terminal × Signal) :=
  (connections.filter (·.target.node = node)).map fun c ↦ (c.source, c.signal)

theorem landings_append (cs cs' : List Connection) (node : String) :
    landings (cs ++ cs') node = landings cs node ++ landings cs' node := by
  rw [landings, List.filter_append, List.map_append]
  rfl

theorem sources_edges (connections : List Connection) (node : String) :
    Graph.sources (connections.map Connection.edge) node =
      (landings connections node).map fun l ↦ l.1.node := by
  rw [Graph.sources, List.filter_map, List.map_map, landings, List.map_map]
  rfl

theorem map_source_incoming (connections : List Connection) (node : String) :
    (incoming connections node).map Connection.source =
      ((landings connections node).filter (·.2 = .execution)).map Prod.fst := by
  rw [landings, List.filter_map, List.map_map, List.filter_filter, incoming]
  rfl

/-- Of a connection that leads into a block only its source is asked. -/
def homeFrom? (s : State) (source : Terminal) : Option (Option String) :=
  match branchSuffix? source.pin with
  | some suffix =>
    let key := source.node ++ suffix
    if s.blocks.contains key then some (some key) else s.homes.find? source.node
  | none => s.homes.find? source.node

variable {cs cs' : List Connection}

/-- Where a node goes depends on what lands on it. -/
theorem home_congr {node : String} (h : landings cs node = landings cs' node) (s : State) :
    home s cs node = home s cs' node := by
  have hfrom : ∀ cs : List Connection, (incoming cs node).findSome? (homeBy? s) =
      ((incoming cs node).map Connection.source).findSome? (homeFrom? s) := by
    intro cs
    rw [List.findSome?_map]
    rfl
  rw [home, home, hfrom, hfrom, map_source_incoming, map_source_incoming, h]

theorem order_congr (h : ∀ node, landings cs node = landings cs' node) (config : Config)
    (nodes : List Node) : order config nodes cs = order config nodes cs' := by
  have hschedule : Graph.schedule Node.id (cs.map Connection.edge) nodes =
      Graph.schedule Node.id (cs'.map Connection.edge) nodes :=
    Graph.schedule_congr fun node ↦ by rw [sources_edges, sources_edges, h]
  rw [order, order, Graph.scheduleBackwards, Graph.scheduleBackwards, hschedule]

theorem write_congr (h : ∀ node, landings cs node = landings cs' node) (config : Config) :
    write config cs = write config cs' := by
  funext s n
  rw [write, write, home_congr (h n.id)]

theorem of_congr (h : ∀ node, landings cs node = landings cs' node) (config : Config)
    (nodes : List Node) : Export.of config nodes cs = Export.of config nodes cs' := by
  rw [Export.of, Export.of, run, run, order_congr h, write_congr h]

theorem runDemands_congr (h : ∀ node, landings cs node = landings cs' node) (config : Config)
    (s : State) (nodes : List Node) : runDemands config cs s nodes = runDemands config cs' s nodes := by
  induction nodes generalizing s with
  | nil => rfl
  | cons n rest ih =>
    rw [runDemands, runDemands, writeDemands, writeDemands, home_congr (h n.id), write_congr h, ih]

theorem demands_congr (h : ∀ node, landings cs node = landings cs' node) (config : Config)
    (nodes : List Node) : demands config nodes cs = demands config nodes cs' := by
  rw [demands, demands, of_congr h, order_congr h, runDemands_congr h]

/-- **An export depends on what lands on each node**, and not on how the connections to different
nodes are mixed. It makes the same demands, and has the same outcome on every machine. -/
theorem generate_congr (h : ∀ node, landings cs node = landings cs' node) (machine : Machine)
    (config : Config) (nodes : List Node) :
    generate machine config nodes cs = generate machine config nodes cs' := by
  rw [generate, generate, demands_congr h, of_congr h]

/-- Swapping two connections to different nodes leaves alone what lands on each, and new ids for
them do so, too. -/
theorem landings_swap (cs : List Connection) {c c' : Connection}
    (hne : c.target.node ≠ c'.target.node) (id id' node : String) :
    landings (cs ++ [{ c' with id }, { c with id := id' }]) node =
      landings (cs ++ [c, c']) node := by
  rw [landings_append, landings_append]
  congr 1
  by_cases hc : c.target.node = node
  · have hc' : c'.target.node ≠ node := fun h ↦ hne (hc.trans h.symm)
    simp [landings, hc, hc']
  · by_cases hc' : c'.target.node = node <;> simp [landings, hc, hc']

end Emission

namespace Diagram

open Emission

variable {d : Diagram}

/-- **Connections to different nodes commute.** If two of them are drawn one after the other, they
can be drawn the other way round. The nodes are then the same, with all their inputs; the
connections are the same but for the places of the last two and their ids; and the exports are the
same, on every machine and whatever the settings. -/
theorem Reachable.connect_comm (hd : Reachable d) {a b a' b' : Terminal} (hne : b.node ≠ b'.node)
    {p q p' q' : Point} {id id' other : String} (hfresh : id ∉ d.connections.map Connection.id)
    (hother : other ∉ d.connections.map Connection.id) (other' : String) {c c' : Connection}
    (hfirst : (d.connect id a b p q).2 = .ok (some c))
    (hsecond : ((d.connect id a b p q).1.connect id' a' b' p' q').2 = .ok (some c')) :
    let one := ((d.connect id a b p q).1.connect id' a' b' p' q').1
    let start := d.connect other a' b' p' q'
    let two := start.1.connect other' a b p q
    start.2 = .ok (some { c' with id := other }) ∧
      two.2 = .ok (some { c with id := other' }) ∧
      two.1.nodes = one.nodes ∧
      one.connections = d.connections ++ [c, c'] ∧
      two.1.connections = d.connections ++ [{ c' with id := other }, { c with id := other' }] ∧
      ∀ machine config, two.1.exportText machine config = one.exportText machine config := by
  have h := hd.consistent
  -- the order given: both are drawn between nodes of the diagram
  obtain ⟨hyes, heq, s, t, hs, ht, hc⟩ := h.eq_withDrawn hfirst
  have hone := h.connect hfresh a b p q
  rw [heq] at hone hsecond
  obtain ⟨hyes', heq', s₁, t₁, hs₁, ht₁, hc'⟩ := hone.eq_withDrawn hsecond
  rw [find?_withDrawn] at hs₁ ht₁
  obtain ⟨s', hs', rfl⟩ := Option.map_eq_some_iff.1 hs₁
  obtain ⟨t', ht', rfl⟩ := Option.map_eq_some_iff.1 ht₁
  have he : c.edge = (a.node, b.node) := hc ▸ rfl
  have he' : c'.edge = (a'.node, b'.node) := hc' ▸ rfl
  have htargets : c.target.node ≠ c'.target.node := by
    rw [hc, hc']
    exact hne
  -- the other order
  have hstart := h.connect_withId (h.admits_of_withDrawn hone hyes') hs' (s'.sameShape_fedBy c).symm
    ht' (t'.sameShape_fedBy c).symm id' other p' q' hc'
  have htwo : (d.withDrawn { c' with id := other }).Consistent := by
    have := h.connect hother a' b' p' q'
    rwa [hstart] at this
  have hfinish := htwo.connect_withId (h.admits_withDrawn_comm hone htwo he he' hyes hyes')
    ((find?_withDrawn d _ _).trans (congrArg _ hs)) (s.sameShape_fedBy _)
    ((find?_withDrawn d _ _).trans (congrArg _ ht)) (t.sameShape_fedBy _) id other' p q hc
  intro one start two
  have hstop : one = (d.withDrawn c).withDrawn c' := by rw [← heq', ← heq]
  have hend : two = ((d.withDrawn { c' with id := other }).withDrawn { c with id := other' },
      .ok (some { c with id := other' })) := by
    show (d.connect other a' b' p' q').1.connect other' a b p q = _
    rw [hstart]
    exact hfinish
  have hnodes : two.1.nodes = one.nodes := by
    rw [hend, hstop]
    exact (nodes_withDrawn_comm htargets).symm
  have hconnections : one.connections = d.connections ++ [c, c'] := by
    rw [hstop]
    exact List.append_assoc ..
  have hconnections' : two.1.connections =
      d.connections ++ [{ c' with id := other }, { c with id := other' }] := by
    rw [hend]
    exact List.append_assoc ..
  refine ⟨congrArg Prod.snd hstart, congrArg Prod.snd hend, hnodes, hconnections, hconnections', ?_⟩
  intro machine config
  rw [exportText, exportText, hnodes, hconnections, hconnections']
  exact generate_congr (landings_swap d.connections htargets other other') machine config _

/-- A chain of three nodes may be tied from either end. -/
theorem exists_connect_comm_chain :
    ∃ d, Reachable d ∧
      let one := ((d.connect "p" ⟨"a", "result"⟩ ⟨"b", "left"⟩ .origin .origin).1.connect "q"
        ⟨"b", "result"⟩ ⟨"c", "left"⟩ .origin .origin).1
      let two := ((d.connect "r" ⟨"b", "result"⟩ ⟨"c", "left"⟩ .origin .origin).1.connect "s"
        ⟨"a", "result"⟩ ⟨"b", "left"⟩ .origin .origin).1
      one.connections.map Connection.id = ["p", "q"] ∧
        two.connections.map Connection.id = ["r", "s"] ∧
        two.nodes.values.map Node.inputs = [["left", "right"], ["a", "right"], ["b", "right"]] ∧
        two.nodes = one.nodes ∧
        ∀ machine config, two.exportText machine config = one.exportText machine config := by
  let d := empty.performAll
    [.add "a" "arithmetic" .empty none .origin none,
      .add "b" "arithmetic" .empty none .origin none,
      .add "c" "comparison" .empty none .origin none]
  have hd : Reachable d := Reachable.empty.performAll (by decide +kernel)
  let a : Terminal := ⟨"a", "result"⟩
  let b : Terminal := ⟨"b", "left"⟩
  let b' : Terminal := ⟨"b", "result"⟩
  let e : Terminal := ⟨"c", "left"⟩
  have hone := hd.step (.connect "p" a b .origin .origin) (by decide +kernel)
  have hfirst : d.admits a.node b.node = true := by decide +kernel
  have hsecond : (d.perform (.connect "p" a b .origin .origin)).admits b'.node e.node = true := by
    decide +kernel
  obtain ⟨_, _, -, -, hc⟩ := hd.consistent.exists_connect_eq hfirst "p" .origin .origin
  obtain ⟨_, _, -, -, hc'⟩ := hone.consistent.exists_connect_eq hsecond "q" .origin .origin
  have hother : "r" ∉ d.connections.map Connection.id := by decide +kernel
  have hcomm := hd.connect_comm (by decide) (by decide +kernel) hother "s" (congrArg Prod.snd hc)
    (congrArg Prod.snd hc')
  exact ⟨d, hd, by decide +kernel, by decide +kernel, by decide +kernel, hcomm.2.2.1,
    hcomm.2.2.2.2.2⟩

end Diagram

end FlowCanvas
