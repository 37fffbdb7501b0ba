import FlowCanvas.Proofs.Emission.Routing
import FlowCanvas.Proofs.Emission.Scoping
import FlowCanvas.Proofs.Graph.Variation

/-!
# Nodes that nothing written leads to

What a node finds when it is written, values and places alike, it finds through the connections that
land on it, under the id of the node that each of them comes from. If none of these nodes is written
yet, it finds nothing: it goes into the root block, and its lines are made without any value
(`Consistent.writing_eq_unbound`). That the searches are coarse does not help it, since an id is no
part of another one, of the name of a slot, or of another node's block.

Two things follow. With consumers first no node finds anything, as all that lead to it come later, so
the whole export is flat (`Reachable.export_of_consumersFirst`). And a node that has just been added,
on which nothing lands, only extends an export (`Reachable.export_add`): it is written last, and what
is written before does not depend on what comes after.
-/

namespace FlowCanvas

namespace Emission

/-- The lines of a node that finds no value and stands in the root block, after some writings. -/
def unboundLines (config : Config) (ws : List Writing) (n : Node) : List Line :=
  (linesWith config (lastType? config ws none) (fun _ ↦ none) n).map fun l ↦
    ⟨n.id, ws.countP (fun w ↦ opensBlock w.node) + l.1, l.2⟩

/-! ### Exports of which parts are in the root block -/

variable {e e' : Export} {ws : List Writing} {w : Writing}

namespace Export.Collects

/-- If everything is written into the root block, the others are empty. -/
theorem flat (h : e.Collects ws) (hroot : ∀ v ∈ ws, v.place = none) :
    e.root = ws.flatMap Writing.lines ∧
      e.blocks = (ws.flatMap fun v ↦ openedBy v.node).map fun key ↦ (key, []) := by
  refine ⟨?_, ?_⟩
  · have hall : ws.filter (·.place = none) = ws :=
      List.filter_eq_self.2 fun v hv ↦ decide_eq_true (hroot v hv)
    rw [h.root, linesAt, hall]
  · rw [h.blocks]
    refine List.map_congr_left fun key _ ↦ ?_
    have hkey : ∀ v ∈ ws, v.place ≠ some key := by
      intro v hv
      rw [hroot v hv]
      exact (Option.some_ne_none key).symm
    rw [linesAt_eq_nil hkey]

/-- One more writing into the root block goes to the end of it, and the blocks that its node opens
come last and are empty. -/
theorem append (h : e.Collects ws) (h' : e'.Collects (ws ++ [w])) (hroot : w.place = none) :
    e'.root = e.root ++ w.lines ∧
      e'.blocks = e.blocks ++ (openedBy w.node).map (fun key ↦ (key, [])) ∧
      e'.depth = e.depth + if opensBlock w.node then 1 else 0 := by
  have hlines : ∀ key, linesAt (ws ++ [w]) (some key) = linesAt ws (some key) := by
    intro key
    rw [linesAt_append_singleton, hroot, if_neg nofun, List.append_nil]
  have hnodup := h'.nodup
  rw [List.flatMap_append, List.flatMap_singleton, List.nodup_append] at hnodup
  refine ⟨?_, ?_, ?_⟩
  · rw [h'.root, h.root, linesAt_append_singleton, if_pos hroot.symm]
  · rw [h'.blocks, h.blocks, List.flatMap_append, List.flatMap_singleton, List.map_append]
    simp only [hlines]
    refine congrArg _ (List.map_congr_left fun key hkey ↦ ?_)
    -- what is written stands in blocks that were opened before
    rw [linesAt_eq_nil]
    intro v hv hplace
    have hmem := h.place v hv key hplace
    rw [h.blocks, List.map_map] at hmem
    obtain ⟨other, hother, rfl⟩ := List.mem_map.1 hmem
    exact hnodup.2.2 _ hother _ hkey rfl
  · rw [h'.depth, h.depth, List.countP_append, List.countP_singleton]

end Export.Collects

/-! ### Finding nothing -/

variable {config : Config} {connections : List Connection} {before : List Node}

/-- A node that is not written stands nowhere. -/
theorem find?_homes_stateAfter_eq_none {id : String} (h : id ∉ before.map Node.id) :
    (stateAfter config connections before).homes.find? id = none := by
  induction before using List.reverseRecOn with
  | nil => rfl
  | append_singleton rest n ih =>
    rw [List.map_append, List.mem_append, not_or] at h
    rw [stateAfter_append_singleton, find?_homes_write, if_neg, ih h.1]
    exact fun hid ↦ h.2 (List.mem_singleton.2 hid)

/-- A connection from a node that is not written does not say where it leads. -/
theorem homeBy?_eq_none (hids : ∀ n ∈ before, IsNodeId n.id) (hnodup : (before.map Node.id).Nodup)
    {c : Connection} (hid : IsNodeId c.source.node) (hc : c.source.node ∉ before.map Node.id) :
    homeBy? (stateAfter config connections before) c = none := by
  have hhome : (stateAfter config connections before).homes.find? c.source.node = none :=
    find?_homes_stateAfter_eq_none hc
  rw [homeBy?]
  cases branchSuffix? c.source.pin with
  | none => exact hhome
  | some suffix =>
    refine (if_neg fun hopen ↦ ?_).trans hhome
    -- the key of a block starts with the id of a node that is written
    rw [Table.contains_iff, keys_blocks_stateAfter (nodup_openedKeys hids hnodup),
      List.mem_flatMap] at hopen
    obtain ⟨n, hn, hkey⟩ := hopen
    obtain ⟨suffix', heq⟩ := exists_suffix_of_mem_openedBy hkey
    have hsame : c.source.node = n.id := (hid.append_inj (hids n hn) heq).1
    exact hc (hsame ▸ List.mem_map_of_mem hn)

/-- A node goes into the root block if nothing that leads to it is written. -/
theorem home_eq_none_of_unwritten (hids : ∀ n ∈ before, IsNodeId n.id)
    (hnodup : (before.map Node.id).Nodup) {id : String}
    (hsources : ∀ c ∈ connections, c.target.node = id →
      IsNodeId c.source.node ∧ c.source.node ∉ before.map Node.id) :
    home (stateAfter config connections before) connections id = none := by
  have hnone : (incoming connections id).findSome?
      (homeBy? (stateAfter config connections before)) = none := by
    refine List.findSome?_eq_none_iff.2 fun c hc ↦ ?_
    obtain ⟨hmem, hlands⟩ := List.mem_filter.1 hc
    simp only [Bool.and_eq_true, decide_eq_true_eq] at hlands
    obtain ⟨hid, hc⟩ := hsources c hmem hlands.2
    exact homeBy?_eq_none hids hnodup hid hc
  rw [home, hnone]
  rfl

/-- In the root block names are looked up among the declarations there. -/
theorem State.HasScopesOf.lookup_root {s : State} {ws : List Writing} (h : s.HasScopesOf config ws) :
    s.scopes.lookup (s.scopeAt none) = lastType? config ws none := by
  obtain ⟨blocks, hblocks, hlookup⟩ := h.exists_outward (p := none) nofun
  cases hblocks
  funext name
  rw [hlookup, List.findSome?_singleton]

end Emission

namespace Diagram

open Emission

variable {d : Diagram} {config : Config} {before : List Node} {n : Node}

/-- An input of a node holds no variable if nothing that leads to the node is written. -/
theorem Consistent.find?_outputs_eq_none (h : d.Consistent) (hids : ∀ m ∈ before, IsNodeId m.id)
    (hn : n ∈ d.nodes.values)
    (hsources : ∀ c ∈ d.connections, c.target.node = n.id → c.source.node ∉ before.map Node.id)
    {i : Nat} {x : String} (hentry : n.inputs[i]? = some x) :
    (stateAfter config d.connections before).outputs.find? x = none := by
  rw [← Option.not_isSome_iff_eq_none]
  intro hsome
  have hx := mem_ids_of_mem_outputs (Table.contains_iff.1 hsome)
  obtain ⟨m, hm, rfl⟩ := List.mem_map.1 hx
  obtain ⟨c, hc, htarget, hsource⟩ := h.exists_connection_of_entry hn hentry (hids m hm)
  exact hsources c hc htarget (hsource ▸ hx)

/-- **What a node writes that nothing written leads to**: it goes into the root block, and finds no
value. -/
theorem Consistent.writing_eq_unbound (h : d.Consistent) (hids : d.HasNodeIds)
    (hbefore : ∀ m ∈ before, m ∈ d.nodes.values) (hnodup : (before.map Node.id).Nodup)
    (hn : n ∈ d.nodes.values)
    (hsources : ∀ c ∈ d.connections, c.target.node = n.id → c.source.node ∉ before.map Node.id) :
    writing config d.connections (stateAfter config d.connections before) n =
      ⟨n, none, unboundLines config (writings config d.connections .start before) n⟩ := by
  let s := stateAfter config d.connections before
  have hbeforeIds : ∀ m ∈ before, IsNodeId m.id := fun m hm ↦
    hids m.id (h.map_id_values ▸ List.mem_map_of_mem (hbefore m hm))
  have hhome : home s d.connections n.id = none :=
    home_eq_none_of_unwritten hbeforeIds hnodup fun c hc htarget ↦
      ⟨hids _ (h.source_mem c hc), hsources c hc htarget⟩
  have hvalue : (fun i : Nat ↦ (n.inputs[i]?).bind s.outputs.find?) = fun _ ↦ none := by
    funext i
    cases hi : n.inputs[i]? with
    | none => rfl
    | some x => exact h.find?_outputs_eq_none hbeforeIds hn hsources hi
  have hlines : (contribution config s (s.scopeAt none) n).lines =
      linesWith config (lastType? config (writings config d.connections .start before) none)
        (fun _ ↦ none) n := by
    have hkeys : ∀ x ∈ s.outputs.keys, IsNodeId x := by
      intro x hx
      obtain ⟨m, hm, rfl⟩ := List.mem_map.1 (mem_ids_of_mem_outputs hx)
      exact hbeforeIds m hm
    have hscopes : s.HasScopesOf config (writings config d.connections .start before) :=
      hasScopesOf_stateAfter (Emission.nodup_openedKeys hbeforeIds hnodup) fun m hm ↦
        h.inputs_eq_nil_of_functionDef (hbefore m hm)
    rw [lines_contribution hkeys (fun x hx ↦ h.length_entry_le hids hn hx)
      (fun c hc ↦ h.hasInputsOf hn hc), hvalue, hscopes.lookup_root]
  have hdepth : s.depth =
      (writings config d.connections .start before).countP fun w ↦ opensBlock w.node :=
    (depth_stateAfter before).trans (countP_opensBlock_writings .start before).symm
  show Writing.mk n (home s d.connections n.id) _ = _
  rw [hhome, unboundLines, ← hlines, ← hdepth]
  rfl

/-! ### Consumers first -/

/-- Consumers first, a node is written before the nodes that lead to it. -/
theorem Consistent.source_mem_after (h : d.Consistent) (hlast : config.consumersFirst = true)
    {after : List Node}
    (horder : order config d.nodes.values d.connections = before ++ n :: after) {c : Connection}
    (hc : c ∈ d.connections) (htarget : c.target.node = n.id) {m : Node}
    (hm : d.nodes.find? c.source.node = some m) : m ∈ after := by
  have hreverse : (Graph.schedule Node.id d.edges d.nodes.values).reverse = before ++ n :: after := by
    rw [← horder, order, if_pos hlast]
    rfl
  have hsplit : Graph.schedule Node.id d.edges d.nodes.values =
      after.reverse ++ n :: before.reverse := by
    rw [← List.reverse_reverse (Graph.schedule Node.id d.edges d.nodes.values), hreverse,
      List.reverse_append, List.reverse_cons, List.append_assoc]
    rfl
  exact List.mem_reverse.1 (h.source_mem_of_schedule_split hsplit hc htarget hm)

/-- Consumers first, nothing that leads to a node is written before it. -/
theorem Consistent.eq_unbound_of_consumersFirst (h : d.Consistent) (hids : d.HasNodeIds)
    (hlast : config.consumersFirst = true) {before after : List Writing} {w : Writing}
    (hsplit : writings config d.connections .start
      (order config d.nodes.values d.connections) = before ++ w :: after) :
    w = ⟨w.node, none, unboundLines config before w.node⟩ := by
  have hperm := h.order_perm config
  have hnodup : ((order config d.nodes.values d.connections).map Node.id).Nodup :=
    (hperm.map Node.id).nodup_iff.2 h.nodup_node_ids
  have horder : order config d.nodes.values d.connections =
      before.map Writing.node ++ w.node :: after.map Writing.node := nodes_of_split hsplit
  have hbefore : ∀ m ∈ before.map Writing.node, m ∈ d.nodes.values := fun m hm ↦
    hperm.mem_iff.1 (horder ▸ List.mem_append_left _ hm)
  have hn : w.node ∈ d.nodes.values :=
    hperm.mem_iff.1 (horder ▸ List.mem_append_right _ List.mem_cons_self)
  rw [horder, List.map_append, List.nodup_append] at hnodup
  -- what leads to the node comes later, and no id stands for two nodes
  have hsources : ∀ c ∈ d.connections, c.target.node = w.node.id →
      c.source.node ∉ (before.map Writing.node).map Node.id := by
    intro c hc htarget hmem
    obtain ⟨m, hm⟩ := Table.exists_find?_of_mem_keys (h.source_mem c hc)
    have hafter : m ∈ after.map Writing.node := h.source_mem_after hlast horder hc htarget hm
    exact hnodup.2.2 _ hmem _ (List.mem_map_of_mem (List.mem_cons_of_mem _ hafter)) (h.keyed hm).symm
  refine (eq_writing_of_split hsplit).trans ?_
  rw [h.writing_eq_unbound hids hbefore hnodup.1 hn hsources, (writings_of_split hsplit).1]

/-- **Consumers first, an export is flat.** All nodes are written, each once; all lines stand in the
root block, and every other block is empty. No node finds the value of another one: each writes the
lines that it has without any value, that is with the zero value of the type in a declaration or
assignment, `true` for a condition, defaults for both operands, and no argument. -/
theorem Reachable.export_of_consumersFirst (h : Reachable d) (hids : d.HasNodeIds)
    (hlast : config.consumersFirst = true) :
    let nodes := order config d.nodes.values d.connections
    let ws := writings config d.connections .start nodes
    let e := Export.of config d.nodes.values d.connections
    nodes.Perm d.nodes.values ∧ ws.map Writing.node = nodes ∧
      e.root = ws.flatMap Writing.lines ∧
      e.blocks = (nodes.flatMap openedBy).map (fun key ↦ (key, [])) ∧
      ∀ before w after, ws = before ++ w :: after →
        w.place = none ∧ w.lines = unboundLines config before w.node := by
  intro nodes ws e
  have hd := h.consistent
  have hunbound : ∀ before w after, ws = before ++ w :: after →
      w = ⟨w.node, none, unboundLines config before w.node⟩ :=
    fun _ _ _ ↦ hd.eq_unbound_of_consumersFirst hids hlast
  have hplace : ∀ w ∈ ws, w.place = none := by
    intro w hw
    obtain ⟨before, after, hsplit⟩ := List.append_of_mem hw
    exact congrArg Writing.place (hunbound before w after hsplit)
  obtain ⟨hroot, hblocks⟩ := (hd.collects hids config).flat hplace
  rw [flatMap_openedBy_writings] at hblocks
  refine ⟨hd.order_perm config, map_node_writings .start nodes, hroot, hblocks, ?_⟩
  intro before w after hsplit
  have hw := hunbound before w after hsplit
  exact ⟨congrArg Writing.place hw, congrArg Writing.lines hw⟩

/-- An assignment in a branch, of a variable that is declared with a value for it, knows nothing of
the branch, the variable and the value. -/
theorem exists_export_of_consumersFirst :
    ∃ d, Reachable d ∧ d.HasNodeIds ∧
      let e := Export.of { Config.default with consumersFirst := true } d.nodes.values d.connections
      e.root.map (fun l ↦ (l.level, l.text)) =
        [(0, "x = 0;"), (0, "if true \x7b"), (1, "let x: f64 = 0.0;")] ∧
      e.blocks = [("node_00000000000c_true", []), ("node_00000000000c_false", [])] := by
  let a := "node_00000000000a"
  let b := "node_00000000000b"
  let c := "node_00000000000c"
  let config := { Config.default with consumersFirst := true }
  let d := empty.performAll
    [.add a "let_declaration" (.ofList [(.text "name", .str "x"), (.text "type", .str "f64")]) none
        .origin none,
      .add b "assignment" (.ofList [(.text "target", .str "x")]) none .origin none,
      .add c "if_statement" .empty none .origin none,
      .connect "p" ⟨c, "then"⟩ ⟨b, "exec_in"⟩ .origin .origin,
      .connect "q" ⟨a, "var_out"⟩ ⟨b, "value"⟩ .origin .origin,
      .connect "r" ⟨a, "var_out"⟩ ⟨c, "condition"⟩ .origin .origin]
  have h : Reachable d := Reachable.empty.performAll (by decide +kernel)
  have hids : d.HasNodeIds := by decide +kernel
  have hlast : config.consumersFirst = true := rfl
  obtain ⟨-, -, hroot, hblocks, -⟩ := h.export_of_consumersFirst hids hlast
  refine ⟨d, h, hids, (congrArg (List.map _) hroot).trans ?_, hblocks.trans ?_⟩
  · decide +kernel
  · decide +kernel

/-! ### A node added -/

/-- A new node is written after all others. -/
theorem Consistent.order_put (h : d.Consistent) (hfirst : config.consumersFirst = false)
    (hfresh : n.id ∉ d.nodes.keys) :
    order config (d.put n).nodes.values d.connections =
      order config d.nodes.values d.connections ++ [n] := by
  have hedges : n.id ∉ Graph.vertices d.edges := by
    intro hmem
    obtain ⟨e, he, hend⟩ := Graph.mem_vertices.1 hmem
    obtain ⟨c, hc, rfl⟩ := List.mem_map.1 he
    exact hend.elim (fun hs ↦ hfresh (hs ▸ h.source_mem c hc))
      fun ht ↦ hfresh (ht ▸ h.target_mem c hc)
  have hvalues : (d.put n).nodes.values = d.nodes.values ++ [n] := Table.values_insert hfresh n
  have hschedule := Graph.schedule_append_isolated (h.map_id_values ▸ hfresh) hedges
  have horder : order config (d.put n).nodes.values d.connections =
      Graph.schedule Node.id d.edges (d.put n).nodes.values := order_eq_schedule (d := d.put n) hfirst
  rw [horder, hvalues, hschedule, order_eq_schedule hfirst]

/-- **A new node only extends an export.** Producers first, every line stays where it is: the lines
of the new node come last in the root block, and are those that it has without any value; the blocks
that it opens come last and are empty; and if it opens blocks there is one closing brace more, in
front of the others. -/
theorem Reachable.export_add (h : Reachable d) (hids : d.HasNodeIds)
    (hfirst : config.consumersFirst = false) {id : String} (hid : IsNodeId id)
    (hfresh : id ∉ d.nodes.keys) (kind : String) (properties : Properties) (name : Option String)
    (position : Point) (category : Option Label) :
    let added := d.add id kind properties name position category
    let ws := writings config d.connections .start (order config d.nodes.values d.connections)
    let e := Export.of config d.nodes.values d.connections
    let e' := Export.of config added.1.nodes.values added.1.connections
    e'.header = e.header ∧
      e'.root = e.root ++ unboundLines config ws added.2 ∧
      e'.blocks = e.blocks ++ (openedBy added.2).map (fun key ↦ (key, [])) ∧
      closings config e'.depth =
        (if opensBlock added.2 then ["\n" ++ config.indent e.depth ++ "\x7d"] else []) ++
          closings config e.depth := by
  intro added ws e e'
  have hd := h.consistent
  have hd' : added.1.Consistent := hd.add hfresh kind properties name position category
  have hids' : added.1.HasNodeIds := hids.put hid
  have hvalues : added.1.nodes.values = d.nodes.values ++ [added.2] :=
    Table.values_insert hfresh added.2
  have horder : order config added.1.nodes.values added.1.connections =
      order config d.nodes.values d.connections ++ [added.2] := hd.order_put hfirst hfresh
  have hperm := hd.order_perm config
  -- nothing lands on the new node
  have hwriting : writing config d.connections
      (stateAfter config d.connections (order config d.nodes.values d.connections)) added.2 =
      ⟨added.2, none, unboundLines config ws added.2⟩ := by
    refine hd'.writing_eq_unbound hids' (fun m hm ↦ ?_) ?_ ?_ fun c hc htarget ↦ ?_
    · rw [hvalues]
      exact List.mem_append_left _ (hperm.mem_iff.1 hm)
    · exact (hperm.map Node.id).nodup_iff.2 hd.nodup_node_ids
    · rw [hvalues]
      exact List.mem_append_right _ List.mem_cons_self
    · have hnew : c.target.node = id := htarget
      exact absurd (hnew ▸ hd.target_mem c hc) hfresh
  have hcollects' := hd'.collects hids' config
  rw [horder] at hcollects'
  have hsplit : writings config d.connections .start
      (order config d.nodes.values d.connections ++ [added.2]) =
      ws ++ [⟨added.2, none, unboundLines config ws added.2⟩] := by
    rw [writings_append_singleton, hwriting]
  obtain ⟨hroot, hblocks, hdepth⟩ := (hd.collects hids config).append (hsplit ▸ hcollects') rfl
  refine ⟨rfl, hroot, hblocks, ?_⟩
  rw [hdepth]
  split
  · rw [closings, List.range_succ, List.reverse_append, List.map_append]
    rfl
  · rfl

/-- A loop that is added beside a conditional with a call in it comes after it, one level in. -/
theorem exists_export_add :
    ∃ d, Reachable d ∧ d.HasNodeIds ∧
      let added := d.add "node_00000000000f" "loop"
        (.ofList [(.text "break_condition", .str "done")]) none .origin none
      let e := Export.of .default d.nodes.values d.connections
      let e' := Export.of .default added.1.nodes.values added.1.connections
      e.root = [⟨"node_00000000000a", 0, "if true \x7b"⟩] ∧
      e.blocks = [("node_00000000000a_true", [⟨"node_00000000000b", 1,
        "let call_node_00000000000b = func_node_00000000000b();"⟩]),
        ("node_00000000000a_false", [])] ∧
      e'.root = e.root ++ [⟨"node_00000000000f", 1, "loop \x7b"⟩,
        ⟨"node_00000000000f", 2, "if done \x7b break; \x7d"⟩] ∧
      e'.blocks = e.blocks ++ [("node_00000000000f_body", [])] ∧
      closings .default e'.depth = ["\n    \x7d", "\n\x7d"] := by
  let a := "node_00000000000a"
  let b := "node_00000000000b"
  let d := empty.performAll
    [.add a "if_statement" .empty none .origin none,
      .add b "function_call" .empty none .origin none,
      .connect "p" ⟨a, "then"⟩ ⟨b, "exec_in"⟩ .origin .origin]
  have h : Reachable d := Reachable.empty.performAll (by decide +kernel)
  have hids : d.HasNodeIds := by decide +kernel
  have hfresh : "node_00000000000f" ∉ d.nodes.keys := by decide +kernel
  have hfirst : Config.default.consumersFirst = false := rfl
  obtain ⟨-, hroot, hblocks, hclosings⟩ := h.export_add hids hfirst (by decide +kernel) hfresh
    "loop" (.ofList [(.text "break_condition", .str "done")]) none .origin none
  refine ⟨d, h, hids, ?_, ?_, hroot.trans (congrArg _ ?_), hblocks.trans (congrArg _ ?_),
    hclosings.trans ?_⟩ <;> decide +kernel

end Diagram

end FlowCanvas
