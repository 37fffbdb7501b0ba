import FlowCanvas.Proofs.Diagram.History
import FlowCanvas.Proofs.Emission.Refusal
import FlowCanvas.Proofs.Graph.Schedule

/-!
# The layout of an export

An export is made of what its nodes write, and of nothing else. `Export.Collects` says how: the root
block and the blocks that were opened hold the writings that went there, each block in the order of
writing, and no block is there twice. So every line stands in one place, and all blocks together
are a rearrangement of what was written (`Export.Collects.perm`). The nodes that write are all nodes
of the diagram, in either order of emission (`Consistent.order_perm`).

How far a line is indented is decided when it is written, by the number of nodes before it that
opened blocks, wherever these are. The braces that close all this stand at the end.

All this is so whether or not there is a text in the end. There is one unless something is refused of
what the nodes ask of the machine as they write, one after the other, or of what is asked for the
braces and for the whole text. A size of the indentation that is out of all proportion is refused for
every line, also for one that is not indented, and a value of the wrong sort may be refused that is
nested too deep to be logged (`exists_exportText_fault`).
-/

namespace FlowCanvas

namespace Emission

/-- The root block and the other blocks of an export hold what was written into them, in the order
of writing, and it is as deep as the number of nodes that opened blocks. -/
structure Export.Collects (e : Export) (ws : List Writing) : Prop where
  root : e.root = linesAt ws none
  blocks : e.blocks = (ws.flatMap fun w ↦ openedBy w.node).map fun key ↦
    (key, linesAt ws (some key))
  /-- No block is opened a second time. -/
  nodup : (ws.flatMap fun w ↦ openedBy w.node).Nodup
  /-- What is written goes into a block that is there. -/
  place : ∀ w ∈ ws, ∀ key, w.place = some key → key ∈ e.blocks.map Prod.fst
  depth : e.depth = ws.countP fun w ↦ opensBlock w.node

/-! ### Nothing is lost or doubled -/

/-- What is dealt out to places, each of them once, is still the same. -/
theorem flatMap_filter_place_perm {places : List (Option String)} (hnodup : places.Nodup)
    {ws : List Writing} (hall : ∀ w ∈ ws, w.place ∈ places) :
    (places.flatMap fun place ↦ ws.filter (·.place = place)).Perm ws := by
  induction places generalizing ws with
  | nil => rw [List.eq_nil_iff_forall_not_mem.2 fun w hw ↦ absurd (hall w hw) List.not_mem_nil]; rfl
  | cons place rest ih =>
    obtain ⟨hplace, hrest⟩ := List.nodup_cons.1 hnodup
    -- deal out the first place, then the others from what is left
    have hothers : ∀ other ∈ rest, ws.filter (·.place = other) =
        (ws.filter fun w ↦ !decide (w.place = place)).filter (·.place = other) := by
      intro other hother
      rw [List.filter_filter]
      refine List.filter_congr fun w _ ↦ ?_
      by_cases hw : w.place = other
      · have hne : w.place ≠ place := fun h ↦ hplace (h.symm.trans hw ▸ hother)
        simp [hw, hw ▸ hne]
      · simp [hw]
    have hleft : ∀ w ∈ ws.filter (fun w ↦ !decide (w.place = place)), w.place ∈ rest := by
      intro w hw
      obtain ⟨hmem, hne⟩ := List.mem_filter.1 hw
      exact (List.mem_cons.1 (hall w hmem)).resolve_left (by simpa using hne)
    rw [List.flatMap_cons, List.flatMap_congr hothers]
    exact ((ih hrest hleft).append_left _).trans (List.filter_append_perm _ ws)

/-- **All blocks together** hold every line that was written, once. -/
theorem Export.Collects.perm {e : Export} {ws : List Writing} (h : e.Collects ws) :
    (e.root ++ e.blocks.flatMap Prod.snd).Perm (ws.flatMap Writing.lines) := by
  let keys := ws.flatMap fun w ↦ openedBy w.node
  have hkeys : e.blocks.map Prod.fst = keys := by
    rw [h.blocks, List.map_map]
    exact List.map_id keys
  have hnodup : (none :: keys.map some).Nodup :=
    List.nodup_cons.2 ⟨by simp, h.nodup.map fun _ _ heq ↦ Option.some.inj heq⟩
  have hall : ∀ w ∈ ws, w.place ∈ none :: keys.map some := by
    intro w hw
    cases hplace : w.place with
    | none => exact List.mem_cons_self
    | some key =>
      have hkey := h.place w hw key hplace
      exact List.mem_cons_of_mem _ (List.mem_map_of_mem (hkeys ▸ hkey))
  have hlines : e.root ++ e.blocks.flatMap Prod.snd =
      ((none :: keys.map some).flatMap fun place ↦ ws.filter (·.place = place)).flatMap
        Writing.lines := by
    rw [h.root, h.blocks, List.flatMap_assoc, List.flatMap_cons, List.flatMap_map, List.flatMap_map]
    rfl
  rw [hlines]
  exact (flatMap_filter_place_perm hnodup hall).flatMap_right _

/-! ### What a run leaves -/

variable {config : Config} {connections : List Connection}

theorem flatMap_openedBy_writings (s : State) (nodes : List Node) :
    ((writings config connections s nodes).flatMap fun w ↦ openedBy w.node) =
      nodes.flatMap openedBy := by
  rw [← List.flatMap_map Writing.node openedBy, map_node_writings]

theorem countP_opensBlock_writings (s : State) (nodes : List Node) :
    ((writings config connections s nodes).countP fun w ↦ opensBlock w.node) =
      nodes.countP opensBlock :=
  List.countP_map.symm.trans (congrArg (List.countP opensBlock) (map_node_writings s nodes))

/-- The blocks of an export are those of its run. -/
theorem blocks_of (config : Config) (nodes : List Node) (connections : List Connection) :
    (Export.of config nodes connections).blocks =
      (run config nodes connections).blocks.keys.map fun key ↦
        (key, (run config nodes connections).linesIn (some key)) := by
  rw [Table.keys, List.map_map]
  refine List.map_congr_left fun e he ↦ ?_
  have hfind : (run config nodes connections).blocks.find? e.1 = some e.2 :=
    Table.find?_eq_some_iff.2 he
  show (e.1, e.2.lines) = (e.1, (((run config nodes connections).blocks.find? e.1).map
    Block.lines).getD [])
  rw [hfind]
  rfl

/-- **An export collects what its nodes write**, if no block is opened twice. -/
theorem collects_of {nodes : List Node}
    (hnodup : ((order config nodes connections).flatMap openedBy).Nodup) :
    (Export.of config nodes connections).Collects
      (writings config connections .start (order config nodes connections)) := by
  have hkeys : (run config nodes connections).blocks.keys =
      (order config nodes connections).flatMap openedBy := keys_blocks_stateAfter hnodup
  have hlines : ∀ place, (run config nodes connections).linesIn place =
      linesAt (writings config connections .start (order config nodes connections)) place :=
    linesIn_stateAfter hnodup
  constructor
  · exact hlines none
  · rw [blocks_of, hkeys, flatMap_openedBy_writings]
    simp only [hlines]
  · rw [flatMap_openedBy_writings]
    exact hnodup
  · intro w hw key hkey
    have hmem : key ∈ (run config nodes connections).blocks.keys :=
      hasPlace_of_mem_writings hw key hkey
    rw [blocks_of, List.map_map]
    exact List.mem_map.2 ⟨key, hmem, rfl⟩
  · show (stateAfter config connections (order config nodes connections)).depth = _
    rw [depth_stateAfter, countP_opensBlock_writings]

/-- **How far lines are indented** is known from the nodes that wrote before. -/
theorem levels_of_split {nodes : List Node} {before after : List Writing} {w : Writing}
    (h : writings config connections .start nodes = before ++ w :: after) :
    w.lines.map (fun l ↦ (l.node, l.level)) = (extraLevels w.node).map fun extra ↦
      (w.node.id, before.countP (fun b ↦ opensBlock b.node) + extra) := by
  have hlines : w.lines = (writing config connections
      (stateAfter config connections (before.map Writing.node)) w.node).lines :=
    congrArg Writing.lines (eq_writing_of_split h)
  have hdepth : (stateAfter config connections (before.map Writing.node)).depth =
      before.countP fun b ↦ opensBlock b.node := by
    rw [depth_stateAfter, List.countP_map]
    rfl
  rw [hlines, writing, Contribution.linesAt, List.map_map, hdepth, ← levels_contribution config
    (stateAfter config connections (before.map Writing.node)) _ w.node, List.map_map]
  rfl

theorem lines_eq_nil_iff {nodes : List Node} {w : Writing}
    (hw : w ∈ writings config connections .start nodes) :
    w.lines = [] ↔ extraLevels w.node = [] := by
  obtain ⟨before, after, hsplit⟩ := List.append_of_mem hw
  have hlevels := levels_of_split hsplit
  rw [← List.map_eq_nil_iff, hlevels, List.map_eq_nil_iff]

theorem flatMap_lines_eq_nil_iff (nodes : List Node) :
    (writings config connections .start nodes).flatMap Writing.lines = [] ↔
      nodes.flatMap extraLevels = [] := by
  have hlevels : (writings config connections .start nodes).flatMap (fun w ↦ extraLevels w.node) =
      nodes.flatMap extraLevels := by
    rw [← List.flatMap_map Writing.node extraLevels, map_node_writings]
  rw [← hlevels, List.flatMap_eq_nil_iff, List.flatMap_eq_nil_iff]
  exact forall₂_congr fun w hw ↦ lines_eq_nil_iff hw

/-- A node that opens blocks writes a line. -/
theorem extraLevels_ne_nil {n : Node} (h : opensBlock n = true) : extraLevels n ≠ [] := by
  rw [extraLevels]
  cases hc : emittedAs? n.effectiveKind n.category with
  | none =>
    rw [opensBlock, hc] at h
    exact absurd h Bool.false_ne_true
  | some c =>
    cases c with
    | loop => cases (n.textProperty? "break_condition").isSome <;> exact List.cons_ne_nil _ _
    | _ => exact List.cons_ne_nil _ _

/-- **Something is to be indented** just if some node writes a line. Then there may be braces, but
not otherwise. -/
theorem exists_indent_mem_demands_iff (config : Config) (nodes : List Node)
    (connections : List Connection) :
    (∃ level, .indent level ∈ demands config nodes connections) ↔
      (order config nodes connections).flatMap extraLevels ≠ [] := by
  rw [demands_eq, Ne, ← @flatMap_lines_eq_nil_iff config connections]
  constructor
  · rintro ⟨level, hlevel⟩ hnil
    rcases List.mem_append.1 hlevel with hwritten | hend
    · obtain ⟨w, hw, hdemand⟩ := List.mem_flatMap.1 hwritten
      have hlines : w.lines = [] := List.flatMap_eq_nil_iff.1 hnil w hw
      rw [Writing.demands, hlines] at hdemand
      simp at hdemand
    · have hdepth : (Export.of config nodes connections).depth =
          (order config nodes connections).countP opensBlock := depth_stateAfter _
      have hzero : (order config nodes connections).countP opensBlock = 0 := by
        rw [List.countP_eq_zero]
        intro n hn hopens
        exact extraLevels_ne_nil hopens
          (List.flatMap_eq_nil_iff.1 ((flatMap_lines_eq_nil_iff _).1 hnil) n hn)
      rw [hdepth, hzero] at hend
      simp at hend
  · intro hne
    obtain ⟨l, hl⟩ := List.exists_mem_of_ne_nil _ hne
    obtain ⟨w, hw, hl⟩ := List.mem_flatMap.1 hl
    exact ⟨l.level, List.mem_append_left _ (List.mem_flatMap.2
      ⟨w, hw, List.mem_append_right _ (List.mem_map_of_mem hl)⟩)⟩

end Emission

namespace Diagram

open Emission

variable {d : Diagram}

/-! ### The nodes that write -/

/-- **Every node writes once**, in either order of emission. -/
theorem Consistent.order_perm (h : d.Consistent) (config : Config) :
    (order config d.nodes.values d.connections).Perm d.nodes.values := by
  have htargets : ∀ u v, (u, v) ∈ d.edges → v ∈ d.nodes.values.map Node.id := by
    intro u v he
    obtain ⟨c, hc, heq⟩ := List.mem_map.1 he
    obtain rfl : c.target.node = v := congrArg Prod.snd heq
    exact h.map_id_values ▸ h.target_mem c hc
  have hperm : (Graph.schedule Node.id d.edges d.nodes.values).Perm d.nodes.values :=
    Graph.schedule_perm h.nodup_node_ids h.acyclic htargets
  rw [order]
  split
  · exact (List.reverse_perm _).trans hperm
  · exact hperm

/-- No two nodes of a diagram open the same block. -/
theorem Consistent.nodup_openedKeys (h : d.Consistent) (hids : d.HasNodeIds) (config : Config) :
    ((order config d.nodes.values d.connections).flatMap openedBy).Nodup := by
  have hperm := h.order_perm config
  refine Emission.nodup_openedKeys (fun n hn ↦ hids n.id ?_)
    ((hperm.map Node.id).nodup_iff.2 h.nodup_node_ids)
  rw [← h.map_id_values]
  exact List.mem_map_of_mem (hperm.mem_iff.1 hn)

/-- The export of a diagram collects what its nodes write. -/
theorem Consistent.collects (h : d.Consistent) (hids : d.HasNodeIds) (config : Config) :
    (Export.of config d.nodes.values d.connections).Collects
      (writings config d.connections .start (order config d.nodes.values d.connections)) :=
  collects_of (h.nodup_openedKeys hids config)

/-- **Nothing is lost, doubled or indented differently.** In either order of emission all nodes
write, each once, and each its own lines: one for a declaration, an assignment, a definition, a
call, an operator or a conditional, one or two for a loop, none for any other node. The blocks hold
exactly these lines, each block in the order of writing, and no block is opened twice. A line is
indented by the number of nodes before its own that opened blocks, the test of a loop by one level
more, and each of these nodes has its closing brace at the end. On every machine there is this text
unless a demand is refused that a node makes as it writes, or one that the braces or the whole text
make, and the first refusal is why there is none. -/
theorem Reachable.export_conserves_lines (h : Reachable d) (hids : d.HasNodeIds)
    (machine : Machine) (config : Config) :
    let nodes := order config d.nodes.values d.connections
    let ws := writings config d.connections .start nodes
    let e := Export.of config d.nodes.values d.connections
    let text := "\n".intercalate config.headerLines ++ "\n" ++ renderLines config e.root ++
      String.join (e.blocks.map fun b ↦ "\n" ++ renderLines config b.2) ++
      String.join ((List.range (nodes.countP opensBlock)).reverse.map fun level ↦
        "\n" ++ config.indent level ++ "\x7d")
    let asked := ws.flatMap Writing.demands ++
      ((List.range (nodes.countP opensBlock)).reverse.map Demand.indent ++ [Demand.hold text])
    nodes.Perm d.nodes.values ∧ ws.map Writing.node = nodes ∧ e.Collects ws ∧
      (e.root ++ e.blocks.flatMap Prod.snd).Perm (ws.flatMap Writing.lines) ∧
      (∀ before w after, ws = before ++ w :: after →
        w.lines.map (fun l ↦ (l.node, l.level)) = (extraLevels w.node).map fun extra ↦
          (w.node.id, before.countP (fun b ↦ opensBlock b.node) + extra)) ∧
      d.exportText machine config =
        match asked.findSome? (Demand.refusal? machine config) with
        | some fault => .error fault
        | none => .ok text := by
  intro nodes ws e text asked
  have hd := h.consistent
  have hcollects : e.Collects ws := hd.collects hids config
  have hdepth : e.depth = nodes.countP opensBlock := depth_stateAfter nodes
  have htext : e.render config = text := by rw [Export.render, hdepth]; rfl
  have hdemands : demands config d.nodes.values d.connections = asked := by
    rw [demands_eq, hdepth, htext]
  refine ⟨hd.order_perm config, map_node_writings .start nodes, hcollects, hcollects.perm,
    fun before w after ↦ levels_of_split, ?_⟩
  cases hrefusal : asked.findSome? (Demand.refusal? machine config) with
  | none =>
    rw [← hdemands] at hrefusal
    exact generate_eq_ok_iff.2 ⟨List.findSome?_eq_none_iff.1 hrefusal, htext.symm⟩
  | some fault =>
    rw [← hdemands] at hrefusal
    exact generate_eq_error_iff.2 hrefusal

/-- The test of a loop inside a branch, and a call inside the loop, keep their places. -/
theorem exists_exportText_of_loop_in_branch :
    ∃ d, Reachable d ∧ d.HasNodeIds ∧
      (order .default d.nodes.values d.connections).Perm d.nodes.values ∧
      d.exportText (.bounded 1000 0x10000000000) .default =
        .ok ("// Generated Rust Code\nuse std::io;\n\n" ++
          "if true \x7b\n" ++
          "    loop \x7b\n        if done \x7b break; \x7d\n" ++
          "\n" ++
          "        let call_node_00000000000c = func_node_00000000000c();" ++
          "\n    \x7d\n\x7d") := by
  let a := "node_00000000000a"
  let b := "node_00000000000b"
  let c := "node_00000000000c"
  let d := empty.performAll
    [.add c "function_call" .empty none .origin none,
      .add b "loop" (.ofList [(.text "break_condition", .str "done")]) none .origin none,
      .add a "if_statement" .empty none .origin none,
      .connect "p" ⟨b, "body"⟩ ⟨c, "exec_in"⟩ .origin .origin,
      .connect "q" ⟨a, "then"⟩ ⟨b, "exec_in"⟩ .origin .origin]
  have h : Reachable d := Reachable.empty.performAll (by decide +kernel)
  have hids : d.HasNodeIds := by decide +kernel
  obtain ⟨hperm, -, -, -, -, htext⟩ :=
    h.export_conserves_lines hids (.bounded 1000 0x10000000000) .default
  refine ⟨d, h, hids, hperm, htext.trans ?_⟩
  decide +kernel

/-- **What keeps an export from its text.** No line can be indented by a size that is out of all
proportion, not even a declaration at level zero, and a name that is made of a thousand arrays in
each other cannot be logged. -/
theorem exists_exportText_fault :
    let machine := Machine.bounded 1000 0x10000000000
    let config := { Config.default with indentSize := 0x8000000000000000 }
    ∃ d d', Reachable d ∧ d.HasNodeIds ∧ Reachable d' ∧ d'.HasNodeIds ∧
      (Export.of config d.nodes.values d.connections).root =
        [⟨"node_000000000001", 0, "let var_node_000000000001: i32 = 0;"⟩] ∧
      d.exportText machine config = .error .sizeOutOfRange ∧
      (Export.of .default d'.nodes.values d'.connections).root =
        [⟨"node_000000000001", 0, "let var_node_000000000001: i32 = 0;"⟩] ∧
      d'.exportText machine .default =
        .error (.tooDeep " while getting the repr of an object") := by
  intro machine config
  let d := empty.performAll
    [.add "node_000000000001" "let_declaration" .empty none .origin none]
  let d' := empty.performAll
    [.add "node_000000000001" "let_declaration" (.ofList [(.text "name", .nested 1001)]) none
      .origin none]
  have h : Reachable d := Reachable.empty.performAll (by decide +kernel)
  have h' : Reachable d' := Reachable.empty.performAll (by decide +kernel)
  refine ⟨d, d', h, by decide +kernel, h', by decide +kernel, ?_, ?_, ?_, ?_⟩
  · decide +kernel
  · decide +kernel
  · decide +kernel
  · decide +kernel

end Diagram

end FlowCanvas
