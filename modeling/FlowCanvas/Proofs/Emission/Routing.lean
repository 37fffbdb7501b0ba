import FlowCanvas.Proofs.Emission.DataFlow
import FlowCanvas.Proofs.Emission.Layout

/-!
# Where nodes are written

The block that a node is written into is found by asking the state of the export: which blocks are
open, and where the nodes before were written. In a reachable diagram the state is not needed.
Where a node belongs can be read off the diagram (`Diagram.BelongsTo`), going back along the first
execution connection that lands on each node, up to a pin behind which a block begins, or up to a
node on which none lands.

The state gives the same answer because it knows enough each time it is asked. The node that the
first connection comes from is written already (`Consistent.source_mem_before`), so the answer is
always that of the first connection, and later ones are not asked (`home_eq_of_head?`). And a block
behind a pin is open just if that node opens it, as no other node has a key like that
(`homeBy?_eq`).
-/

namespace FlowCanvas

namespace Emission

/-- The key of the block that begins behind a pin of a node, if one does: the branches of a
conditional, the body of a loop, the body of a function definition. -/
def branch? (n : Node) (pin : String) : Option String :=
  match emittedAs? n.effectiveKind n.category with
  | some .ifStatement =>
    if pin = "then" then some (n.id ++ "_true")
    else if pin = "else" then some (n.id ++ "_false")
    else none
  | some .loop => if pin = "body" then some (n.id ++ "_body") else none
  | some .functionDef => if pin = "exec_body" then some n.id else none
  | _ => none

/-- A block begins behind a pin if the node opens the one that the pin stands for. -/
theorem branch?_eq (n : Node) (pin : String) :
    branch? n pin = (branchSuffix? pin).bind fun suffix ↦
      if n.id ++ suffix ∈ openedBy n then some (n.id ++ suffix) else none := by
  have hself : n.id ++ "" = n.id := String.append_empty
  have hne : ∀ suffix, suffix ≠ "" → n.id ++ suffix ≠ n.id := by
    intro suffix hsuffix heq
    exact hsuffix ((String.append_right_inj n.id).1 (heq.trans hself.symm))
  rw [branch?, branchSuffix?, openedBy]
  -- each construct opens the blocks of its own pins, and for all other pins it opens none
  split <;> split_ifs <;> simp_all

variable {config : Config} {connections : List Connection} {s : State} {before : List Node}

/-- **What a connection says** about the block that it leads into, if the node that it comes from is
written: the block behind its pin if one begins there, else the block of that node. -/
theorem homeBy?_eq (hkeys : s.blocks.keys = before.flatMap openedBy)
    (hids : ∀ n ∈ before, IsNodeId n.id) (hnodup : (before.map Node.id).Nodup) {c : Connection}
    {m : Node} (hm : m ∈ before) (hsource : c.source.node = m.id) {place : Option String}
    (hplace : s.homes.find? m.id = some place) :
    homeBy? s c = some ((branch? m c.source.pin).or place) := by
  rw [homeBy?, branch?_eq, hsource]
  cases branchSuffix? c.source.pin with
  | none => rw [Option.bind_none, Option.none_or, hplace]
  | some suffix =>
    -- a block under the key is open only if this node has opened it
    have hopen : s.blocks.contains (m.id ++ suffix) = true ↔ m.id ++ suffix ∈ openedBy m := by
      rw [Table.contains_iff, hkeys, List.mem_flatMap]
      constructor
      · rintro ⟨n, hn, hmem⟩
        obtain ⟨suffix', heq⟩ := exists_suffix_of_mem_openedBy hmem
        have hid : m.id = n.id := ((hids m hm).append_inj (hids n hn) heq).1
        obtain rfl : m = n := List.inj_on_of_nodup_map hnodup hm hn hid
        exact hmem
      · exact fun hmem ↦ ⟨m, hm, hmem⟩
    rw [Option.bind_some]
    by_cases hmem : m.id ++ suffix ∈ openedBy m
    · rw [if_pos hmem, Option.some_or]
      exact if_pos (hopen.2 hmem)
    · rw [if_neg hmem, Option.none_or, ← hplace]
      exact if_neg fun h ↦ hmem (hopen.1 h)

/-- A node on which no execution connection lands goes into the root block. -/
theorem home_eq_none {id : String} (h : incoming connections id = []) :
    home s connections id = none := by
  rw [home, h]
  rfl

/-- If the first connection says where a node goes, the later ones do not matter. -/
theorem home_eq_of_head? {id : String} {c : Connection} {place : Option String}
    (h : (incoming connections id).head? = some c) (hc : homeBy? s c = some place) :
    home s connections id = place := by
  obtain ⟨rest, hrest⟩ := List.head?_eq_some_iff.1 h
  rw [home, hrest, List.findSome?_cons, hc]
  rfl

theorem find?_homes_write (s : State) (n : Node) (id : String) :
    (write config connections s n).homes.find? id =
      if id = n.id then some (home s connections n.id) else s.homes.find? id :=
  Table.find?_insert _ _ _ _

end Emission

namespace Diagram

open Emission

/-- The first execution connection that lands on a node. -/
def firstFlow? (d : Diagram) (id : String) : Option Connection :=
  d.connections.find? fun c ↦ c.signal = .execution && c.target.node = id

/-- Where a node belongs, going back along the first execution connections. -/
inductive BelongsTo (d : Diagram) : String → Option String → Prop where
  /-- What no execution connection lands on belongs into the root block. -/
  | root {id : String} : d.firstFlow? id = none → BelongsTo d id none
  /-- What stands behind the pin of a branch or body belongs into its block. -/
  | branch {id : String} {c : Connection} {m : Node} {key : String} :
    d.firstFlow? id = some c → d.nodes.find? c.source.node = some m →
      branch? m c.source.pin = some key → BelongsTo d id (some key)
  /-- What stands behind any other pin belongs where the node before it belongs. -/
  | along {id : String} {c : Connection} {m : Node} {place : Option String} :
    d.firstFlow? id = some c → d.nodes.find? c.source.node = some m →
      branch? m c.source.pin = none → BelongsTo d c.source.node place → BelongsTo d id place

variable {d : Diagram} {config : Config} {before after : List Node} {n : Node}

theorem head?_incoming (d : Diagram) (id : String) :
    (incoming d.connections id).head? = d.firstFlow? id :=
  List.head?_filter

/-- A node belongs into one block only. -/
theorem BelongsTo.unique {id : String} {place place' : Option String} (h : d.BelongsTo id place)
    (h' : d.BelongsTo id place') : place = place' := by
  induction h with
  | root hflow =>
    cases h' with
    | root => rfl
    | branch hflow' => exact absurd (hflow.symm.trans hflow') nofun
    | along hflow' => exact absurd (hflow.symm.trans hflow') nofun
  | branch hflow hm hbranch =>
    cases h' with
    | root hflow' => exact absurd (hflow'.symm.trans hflow) nofun
    | branch hflow' hm' hbranch' =>
      obtain rfl := Option.some.inj (hflow.symm.trans hflow')
      obtain rfl := Option.some.inj (hm.symm.trans hm')
      exact hbranch.symm.trans hbranch'
    | along hflow' hm' hbranch' =>
      obtain rfl := Option.some.inj (hflow.symm.trans hflow')
      obtain rfl := Option.some.inj (hm.symm.trans hm')
      exact absurd (hbranch'.symm.trans hbranch) nofun
  | along hflow hm hbranch _ ih =>
    cases h' with
    | root hflow' => exact absurd (hflow'.symm.trans hflow) nofun
    | branch hflow' hm' hbranch' =>
      obtain rfl := Option.some.inj (hflow.symm.trans hflow')
      obtain rfl := Option.some.inj (hm.symm.trans hm')
      exact absurd (hbranch.symm.trans hbranch') nofun
    | along hflow' _ _ hplace' =>
      obtain rfl := Option.some.inj (hflow.symm.trans hflow')
      exact ih hplace'

/-- What a connection says about a node that is written next. -/
theorem Consistent.homeBy?_before (h : d.Consistent) (hids : d.HasNodeIds)
    (hfirst : config.consumersFirst = false)
    (horder : order config d.nodes.values d.connections = before ++ n :: after) {c : Connection}
    {m : Node} (hm : m ∈ before) (hsource : c.source.node = m.id) {place : Option String}
    (hplace : (stateAfter config d.connections before).homes.find? m.id = some place) :
    homeBy? (stateAfter config d.connections before) c =
      some ((branch? m c.source.pin).or place) := by
  have hkeys := h.nodup_openedKeys hids config
  have hnodup := nodup_ids_order (d := d) hfirst
  rw [horder, List.flatMap_append] at hkeys
  rw [horder, List.map_append] at hnodup
  refine homeBy?_eq (keys_blocks_stateAfter (List.nodup_append.1 hkeys).1) (fun k hk ↦ ?_)
    (List.nodup_append.1 hnodup).1 hm hsource hplace
  have hvalue : k ∈ d.nodes.values :=
    mem_values_of_mem_order hfirst (by rw [horder]; exact List.mem_append_left _ hk)
  exact hids k.id (h.map_id_values ▸ List.mem_map_of_mem hvalue)

/-- **One step**: a node is written where it belongs if those before it were. -/
theorem Consistent.belongsTo_home (h : d.Consistent) (hids : d.HasNodeIds)
    (hfirst : config.consumersFirst = false)
    (horder : order config d.nodes.values d.connections = before ++ n :: after)
    (hbefore : ∀ m ∈ before, ∃ place, d.BelongsTo m.id place ∧
      (stateAfter config d.connections before).homes.find? m.id = some place) :
    d.BelongsTo n.id (home (stateAfter config d.connections before) d.connections n.id) := by
  cases hflow : d.firstFlow? n.id with
  | none =>
    rw [home_eq_none (List.head?_eq_none_iff.1 ((head?_incoming d n.id).trans hflow))]
    exact .root hflow
  | some c =>
    have hc : c ∈ d.connections := List.mem_of_find?_eq_some hflow
    have htarget : c.target.node = n.id := by
      have hlands := List.find?_some hflow
      simp only [Bool.and_eq_true, decide_eq_true_eq] at hlands
      exact hlands.2
    -- the node that the connection comes from is written already, so the connection says something
    obtain ⟨m, hm⟩ := Table.exists_find?_of_mem_keys (h.source_mem c hc)
    have hsource : m.id = c.source.node := h.keyed hm
    have hmem : m ∈ before := h.source_mem_before hfirst horder hc htarget hm
    obtain ⟨place, hbelongs, hplace⟩ := hbefore m hmem
    have hhome : home (stateAfter config d.connections before) d.connections n.id =
        (branch? m c.source.pin).or place :=
      home_eq_of_head? ((head?_incoming d n.id).trans hflow)
        (h.homeBy?_before hids hfirst horder hmem hsource.symm hplace)
    rw [hhome]
    cases hbranch : branch? m c.source.pin with
    | none => exact .along hflow hm hbranch (hsource ▸ hbelongs)
    | some key => exact .branch hflow hm hbranch

/-- **A whole run**: all nodes written are written where they belong. -/
theorem Consistent.exists_belongsTo_of_mem (h : d.Consistent) (hids : d.HasNodeIds)
    (hfirst : config.consumersFirst = false)
    (horder : order config d.nodes.values d.connections = before ++ after) :
    ∀ m ∈ before, ∃ place, d.BelongsTo m.id place ∧
      (stateAfter config d.connections before).homes.find? m.id = some place := by
  induction before using List.reverseRecOn generalizing after with
  | nil => exact fun m hm ↦ absurd hm List.not_mem_nil
  | append_singleton rest n ih =>
    rw [List.append_assoc] at horder
    have hrest := ih horder
    intro m hm
    rw [stateAfter_append_singleton, find?_homes_write]
    by_cases hid : m.id = n.id
    · rw [if_pos hid, hid]
      exact ⟨_, h.belongsTo_home hids hfirst horder hrest, rfl⟩
    · rw [if_neg hid]
      have hmem : m ∈ rest := (List.mem_append.1 hm).resolve_right fun hlast ↦
        hid (congrArg Node.id (List.mem_singleton.1 hlast))
      exact hrest m hmem

/-- **Every node is written where it belongs.** Producers first, all nodes of a reachable diagram
are written, and the block that the lines of a node go to is the one that it belongs into. -/
theorem Reachable.place_eq_iff_belongsTo (h : Reachable d) (hids : d.HasNodeIds)
    (hfirst : config.consumersFirst = false) :
    let ws := writings config d.connections .start (order config d.nodes.values d.connections)
    (ws.map Writing.node).Perm d.nodes.values ∧
      (Export.of config d.nodes.values d.connections).Collects ws ∧
      ∀ w ∈ ws, ∀ place, w.place = place ↔ d.BelongsTo w.node.id place := by
  intro ws
  have hd := h.consistent
  have hnodes : ws.map Writing.node = order config d.nodes.values d.connections :=
    map_node_writings .start _
  refine ⟨hnodes ▸ hd.order_perm config, hd.collects hids config, fun w hw ↦ ?_⟩
  obtain ⟨before, after, hsplit⟩ := List.append_of_mem hw
  have horder : order config d.nodes.values d.connections =
      before.map Writing.node ++ w.node :: after.map Writing.node := by
    rw [← hnodes, hsplit, List.map_append, List.map_cons]
  have hplace : w.place = home (stateAfter config d.connections (before.map Writing.node))
      d.connections w.node.id := congrArg Writing.place (eq_writing_of_split hsplit)
  have hbelongs : d.BelongsTo w.node.id w.place :=
    hplace ▸ hd.belongsTo_home hids hfirst horder (hd.exists_belongsTo_of_mem hids hfirst horder)
  exact fun place ↦ ⟨fun heq ↦ heq ▸ hbelongs, hbelongs.unique⟩

/-- A declaration behind a node that is left out stands in the function that this one stands in,
although a branch leads to it, too. -/
theorem exists_place_behind_unknown :
    ∃ d w, Reachable d ∧ d.HasNodeIds ∧
      w ∈ writings .default d.connections .start (order .default d.nodes.values d.connections) ∧
      w.lines.map Line.text = ["let x: i32 = 0;"] ∧ w.place = some "node_00000000000a" := by
  let a := "node_00000000000a"
  let b := "node_00000000000b"
  let c := "node_00000000000c"
  let e := "node_00000000000e"
  let d := empty.performAll
    [.add b "let_declaration" (.ofList [(.text "name", .str "x")]) none .origin none,
      .add c "if_statement" .empty none .origin none,
      .add e "no such kind" .empty none .origin none,
      .add a "function_def" .empty none .origin none,
      .connect "p" ⟨e, "out"⟩ ⟨b, "exec_in"⟩ .origin .origin,
      .connect "q" ⟨c, "then"⟩ ⟨b, "exec_in"⟩ .origin .origin,
      .connect "r" ⟨a, "exec_body"⟩ ⟨e, "in"⟩ .origin .origin]
  have h : Reachable d := Reachable.empty.performAll (by decide +kernel)
  have hids : d.HasNodeIds := by decide +kernel
  -- the way back from the declaration
  have hout : (d.firstFlow? b).map Connection.source = some ⟨e, "out"⟩ := by decide +kernel
  have hin : (d.firstFlow? e).map Connection.source = some ⟨a, "exec_body"⟩ := by decide +kernel
  have hunknown : (d.nodes.find? e).map (branch? · "out") = some none := by decide +kernel
  have hfunction : (d.nodes.find? a).map (branch? · "exec_body") = some (some a) := by
    decide +kernel
  obtain ⟨flow, hflow, hsource⟩ := Option.map_eq_some_iff.1 hout
  obtain ⟨flow', hflow', hsource'⟩ := Option.map_eq_some_iff.1 hin
  obtain ⟨m, hm, hnone⟩ := Option.map_eq_some_iff.1 hunknown
  obtain ⟨m', hm', hsome⟩ := Option.map_eq_some_iff.1 hfunction
  have hbody : d.BelongsTo e (some a) :=
    .branch hflow' (by rw [hsource']; exact hm') (by rw [hsource']; exact hsome)
  have hbelongs : d.BelongsTo b (some a) :=
    .along hflow (by rw [hsource]; exact hm) (by rw [hsource]; exact hnone)
      (by rw [hsource]; exact hbody)
  have hwriting : ((writings .default d.connections .start
      (order .default d.nodes.values d.connections)).find? (·.node.id = b)).map (fun w ↦
      (w.node.id, w.lines.map Line.text)) = some (b, ["let x: i32 = 0;"]) := by decide +kernel
  obtain ⟨w, hw, heq⟩ := Option.map_eq_some_iff.1 hwriting
  obtain ⟨hid, htext⟩ := Prod.mk.inj heq
  have hmem := List.mem_of_find?_eq_some hw
  refine ⟨d, w, h, hids, hmem, htext, ?_⟩
  exact ((h.place_eq_iff_belongsTo hids rfl).2.2 w hmem (some a)).2 (hid ▸ hbelongs)

end Diagram

end FlowCanvas
