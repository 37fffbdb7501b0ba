import FlowCanvas.Proofs.Emission.DataFlow
import FlowCanvas.Proofs.Emission.Layout
import FlowCanvas.Proofs.Text.Brace

/-!
# The braces of an export

The lines that open a block do not close it, wherever they stand, and all braces are closed once at
the end of the export. The text is balanced all the same, as long as nothing that is copied into it
from outside has a brace in it (`Reachable.exportText_balanced`).

The lines of a node leave one brace open if it opens blocks, and none otherwise
(`leaveOpen_contribution`). What they copy is an id, a text that is set on the node, a type from the
settings, or the variable of another node, which is made of the same (`isPlain_outputs_stateAfter`).
The blocks of the export hold these lines in another order, but no other lines, so all of them
together leave open what the nodes leave open, and that is as deep as the export is.
-/

namespace FlowCanvas

open Text

/-- No brace stands in the id of a node. -/
theorem IsNodeId.isPlain {id : String} (h : IsNodeId id) : IsPlain id := by
  obtain ⟨digits, -, hall, rfl⟩ := h
  have hdigit := fun c hc ↦ List.contains_iff_mem.1 (List.all_eq_true.1 hall c hc)
  have hdigits : IsPlain (String.ofList digits) := by
    rw [IsPlain, String.toList_ofList (l := digits)]
    exact ⟨fun hc ↦ absurd (hdigit _ hc) (by decide), fun hc ↦ absurd (hdigit _ hc) (by decide)⟩
  exact isPlain_append.2 ⟨by decide, hdigits⟩

namespace Emission

/-! ### What is copied -/

/-- No brace stands in the id of a node, or in a text that is set on it. -/
structure IsPlainNode (n : Node) : Prop where
  id : IsPlain n.id
  property : ∀ key s, n.property? key = some (.str s) → IsPlain s

variable {n : Node} {s : State}

theorem IsPlainNode.textProperty (h : IsPlainNode n) {key text : String}
    (htext : n.textProperty? key = some text) : IsPlain text := by
  rw [Node.textProperty?] at htext
  split at htext
  · next value hvalue =>
    split at htext
    · cases htext
    · obtain rfl := Option.some.inj htext
      exact h.property key _ hvalue
  · cases htext

/-- A text that is set on the node, with a plain one in its place if it is missing. -/
theorem IsPlainNode.textProperty_getD (h : IsPlainNode n) (key : String) {instead : String}
    (hinstead : IsPlain instead) : IsPlain ((n.textProperty? key).getD instead) :=
  isPlain_getD (fun _ ↦ h.textProperty) hinstead

/-- A name made of the node's id. -/
theorem IsPlainNode.append_id (h : IsPlainNode n) (start : String) (hstart : IsPlain start) :
    IsPlain (start ++ n.id) := isPlain_append.2 ⟨hstart, h.id⟩

theorem isPlain_zeroValue (type : String) : IsPlain (zeroValue type) := by
  simp only [zeroValue]
  split_ifs <;> decide

theorem isPlain_symbol {operation : String} (h : IsPlain operation) :
    IsPlain (symbol operation) := by
  refine isPlain_getD (fun sign hsign ↦ ?_) h
  have hall : ∀ e ∈ symbols, IsPlain e.2 := by decide
  exact hall _ ((Table.lookup_eq_some_iff (by decide)).1 hsign)

theorem IsPlainNode.outputName (h : IsPlainNode n) {name : String}
    (hname : outputName? n = some name) : IsPlain name := by
  rw [outputName?] at hname
  split at hname
  · exact Option.some.inj hname ▸ h.textProperty_getD "name" (h.append_id "var_" (by decide))
  · exact Option.some.inj hname ▸ h.textProperty_getD "target" (h.append_id "var_" (by decide))
  · exact Option.some.inj hname ▸ h.append_id "call_" (by decide)
  · exact Option.some.inj hname ▸ h.append_id "temp_" (by decide)
  · exact Option.some.inj hname ▸ h.append_id "temp_" (by decide)
  all_goals cases hname

/-- The variables known in an export of plain nodes are plain. -/
theorem isPlain_outputs_stateAfter (config : Config) (connections : List Connection)
    {nodes : List Node} (hnodes : ∀ n ∈ nodes, IsPlainNode n) {k name : String}
    (hname : (stateAfter config connections nodes).outputs.find? k = some name) :
    IsPlain name := by
  induction nodes using List.reverseRecOn with
  | nil => exact absurd hname nofun
  | append_singleton rest n ih =>
    have hrest := ih fun m hm ↦ hnodes m (List.mem_append_left _ hm)
    rw [stateAfter_append_singleton, find?_outputs_write] at hname
    split at hname
    · rcases Option.or_eq_some_iff.1 hname with hown | ⟨-, hname⟩
      · exact (hnodes n (by simp)).outputName hown
      · exact hrest hname
    · exact hrest hname

/-- What is found among plain variables is plain. -/
theorem isPlain_of_map_find? (hs : ∀ k name, s.outputs.find? k = some name → IsPlain name)
    {p : String × String → Bool} {name : String}
    (h : (s.outputs.entries.find? p).map Prod.snd = some name) : IsPlain name := by
  obtain ⟨e, he, rfl⟩ := Option.map_eq_some_iff.1 h
  exact hs e.1 e.2 (Table.find?_eq_some_iff.2 (List.mem_of_find?_eq_some he))

/-! ### What a node writes -/

section Lines

/-- The brace at the end of a line that opens a block. -/
theorem opens_brace : Opens 1 " \x7b".toList := by decide

variable (hn : IsPlainNode n) (hs : ∀ k name, s.outputs.find? k = some name → IsPlain name)

include hs in
theorem isPlain_producer?_getD (n : Node) (instead : String) (h : IsPlain instead) :
    IsPlain ((producer? s n).getD instead) :=
  isPlain_getD (fun _ ↦ isPlain_of_map_find? hs) h

include hs in
theorem isPlain_operand?_getD (n : Node) (i : Nat) :
    IsPlain (((n.inputs[i]?).bind (operand? s)).getD unresolved) := by
  refine isPlain_getD (fun name hname ↦ ?_) (by decide)
  obtain ⟨entry, -, hentry⟩ := Option.bind_eq_some_iff.1 hname
  exact isPlain_of_map_find? hs hentry

include hn hs in
theorem leaveOpen_letDeclaration {config : Config} (htype : IsPlain config.defaultType) :
    LeaveOpen 0 ((letDeclaration config s n).lines.map Prod.snd) := by
  have htype := hn.textProperty_getD "type" htype
  have hname := hn.textProperty_getD "name" (hn.append_id "var_" (by decide))
  have hvalue := isPlain_producer?_getD hs n _
    (isPlain_zeroValue ((n.textProperty? "type").getD config.defaultType))
  refine leaveOpen_singleton (IsPlain.opens ?_)
  simp +decide only [isPlain_append, hname, htype, hvalue, true_and, and_true]
  split <;> decide

include hn hs in
theorem leaveOpen_assignment (config : Config) (scope : Nat) :
    LeaveOpen 0 ((assignment config s scope n).lines.map Prod.snd) := by
  have htarget := hn.textProperty_getD "target" (hn.append_id "var_" (by decide))
  have hvalue := fun type ↦ isPlain_producer?_getD hs n _ (isPlain_zeroValue type)
  refine leaveOpen_singleton (IsPlain.opens ?_)
  simp +decide only [isPlain_append, htarget, hvalue, and_self]

include hn in
/-- A definition without inputs has no parameters. -/
theorem leaveOpen_functionDef (hinputs : n.inputs = []) {config : Config}
    (hresult : IsPlain config.defaultReturnType) (scope : Nat) :
    LeaveOpen 1 ((functionDef config s scope n).lines.map Prod.snd) := by
  have hname := hn.textProperty_getD "name" (hn.append_id "func_" (by decide))
  have hresult := hn.textProperty_getD "return_type" hresult
  refine leaveOpen_singleton ?_
  rw [valueInputs_eq_nil hinputs, String.toList_append]
  refine Opens.append (IsPlain.opens ?_) opens_brace
  simp +decide only [List.map_nil, isPlain_append, hname, hresult, and_self]

include hn hs in
theorem leaveOpen_functionCall : LeaveOpen 0 ((functionCall s n).lines.map Prod.snd) := by
  have hname := hn.textProperty_getD "function_name" (hn.append_id "func_" (by decide))
  have hargs : IsPlain (", ".intercalate ((valueInputs n).filterMap s.outputs.find?)) := by
    refine isPlain_intercalate (by decide) fun name hmem ↦ ?_
    obtain ⟨entry, -, hentry⟩ := List.mem_filterMap.1 hmem
    exact hs entry name hentry
  refine leaveOpen_singleton (IsPlain.opens ?_)
  simp +decide only [isPlain_append, hn.id, hname, hargs, and_self]

include hn hs in
theorem leaveOpen_operator {c : Construct} :
    LeaveOpen 0 ((operator s c n).lines.map Prod.snd) := by
  have hdefault : IsPlain (defaultOperation c) := by cases c <;> decide
  have hsymbol := isPlain_symbol (hn.textProperty_getD "operation" hdefault)
  have hoperand := isPlain_operand?_getD hs n
  refine leaveOpen_singleton (IsPlain.opens ?_)
  simp +decide only [isPlain_append, hn.id, hsymbol, hoperand, and_self]

include hn hs in
theorem leaveOpen_ifStatement : LeaveOpen 1 ((ifStatement s n).lines.map Prod.snd) := by
  have hcondition := hn.textProperty_getD "condition"
    (isPlain_producer?_getD hs n "true" (by decide))
  rw [← Option.getD_or] at hcondition
  refine leaveOpen_singleton ?_
  rw [String.toList_append]
  refine Opens.append (IsPlain.opens ?_) opens_brace
  simp +decide only [isPlain_append, hcondition, and_self]

include hn in
/-- The test of a loop closes what it opens. -/
theorem leaveOpen_loop : LeaveOpen 1 ((loop n).lines.map Prod.snd) := by
  have hhead : LeaveOpen 1 ["loop \x7b"] := leaveOpen_singleton (by decide)
  rw [loop]
  cases hc : n.textProperty? "break_condition" with
  | none => exact hhead
  | some c =>
    have hif : IsPlain ("if " ++ c) := by
      simp +decide only [isPlain_append, hn.textProperty hc, and_self]
    have hbreak : Opens 0 " \x7b break; \x7d".toList := by decide
    have htest : Opens 0 ("if " ++ c ++ " \x7b break; \x7d").toList := by
      rw [String.toList_append]
      exact hif.opens.append hbreak
    exact hhead.append (leaveOpen_singleton htest)

include hn hs in
/-- **The lines of a node** leave one brace open if it opens blocks, and none otherwise. -/
theorem leaveOpen_contribution
    (hinputs : emittedAs? n.effectiveKind n.category = some .functionDef → n.inputs = [])
    {config : Config} (htype : IsPlain config.defaultType)
    (hresult : IsPlain config.defaultReturnType) (scope : Nat) :
    LeaveOpen (if opensBlock n then 1 else 0)
      ((contribution config s scope n).lines.map Prod.snd) := by
  rw [contribution, opensBlock]
  cases hc : emittedAs? n.effectiveKind n.category with
  | none => exact leaveOpen_nil
  | some c =>
    cases c with
    | ifStatement => exact leaveOpen_ifStatement hn hs
    | loop => exact leaveOpen_loop hn
    | letDeclaration => exact leaveOpen_letDeclaration hn hs htype
    | assignment => exact leaveOpen_assignment hn hs config scope
    | functionDef => exact leaveOpen_functionDef hn (hinputs hc) hresult scope
    | functionCall => exact leaveOpen_functionCall hn hs
    | arithmetic => exact leaveOpen_operator hn hs
    | comparison => exact leaveOpen_operator hn hs

end Lines

/-! ### The whole text -/

variable {config : Config} {connections : List Connection}

/-- What plain nodes write leaves as many braces open as nodes among them open blocks. -/
theorem leaveOpen_writings (config : Config) (connections : List Connection) {nodes : List Node}
    (hnodes : ∀ n ∈ nodes, IsPlainNode n)
    (hinputs : ∀ n ∈ nodes, emittedAs? n.effectiveKind n.category = some .functionDef →
      n.inputs = []) (htype : IsPlain config.defaultType)
    (hresult : IsPlain config.defaultReturnType) :
    LeaveOpen (nodes.countP opensBlock)
      (((writings config connections .start nodes).flatMap Writing.lines).map Line.text) := by
  induction nodes using List.reverseRecOn with
  | nil => exact leaveOpen_nil
  | append_singleton rest n ih =>
    have hrest := fun m hm ↦ hnodes m (List.mem_append_left [n] hm)
    have hbefore := ih hrest fun m hm ↦ hinputs m (List.mem_append_left [n] hm)
    have hlast := leaveOpen_contribution (hnodes n (by simp))
      (fun _ _ ↦ isPlain_outputs_stateAfter config connections hrest)
      (hinputs n (by simp)) htype hresult
      ((stateAfter config connections rest).scopeAt
        (home (stateAfter config connections rest) connections n.id))
    rw [writings_append_singleton, List.flatMap_append, List.flatMap_singleton, List.map_append,
      List.countP_append, List.countP_singleton]
    refine hbefore.append ?_
    rw [writing, Contribution.linesAt, List.map_map]
    exact hlast

theorem isPlain_indent (config : Config) (level : Nat) : IsPlain (config.indent level) := by
  rw [IsPlain, Config.indent, String.toList_ofList (l := List.replicate _ ' ')]
  refine ⟨fun h ↦ ?_, fun h ↦ ?_⟩
  · exact absurd (List.eq_of_mem_replicate h) (by decide)
  · exact absurd (List.eq_of_mem_replicate h) (by decide)

/-- Lines that are put together open what each of them opens. -/
theorem opens_renderLines (config : Config) {lines : List Line}
    (h : ∀ l ∈ lines, Opens (unclosed l.text) l.text.toList) :
    Opens ((lines.map fun l ↦ unclosed l.text).sum) (renderLines config lines).toList := by
  rw [renderLines, String.toList_intercalate, List.map_map]
  refine Opens.intercalate (by decide) fun l hl ↦ ?_
  have hline := (isPlain_indent config l.level).opens.append (h l hl)
  rw [Nat.zero_add, ← String.toList_append] at hline
  exact hline

theorem not_mem_closings (depth : Nat) :
    '\x7b' ∉ (String.join (closings config depth)).toList := by
  rw [String.toList_join, closings, List.flatMap_map, List.mem_flatMap]
  rintro ⟨level, -, hmem⟩
  simp only [String.toList_append, List.mem_append] at hmem
  rcases hmem with (hmem | hmem) | hmem
  · exact absurd hmem (by decide)
  · exact (isPlain_indent config level).1 hmem
  · exact absurd hmem (by decide)

/-- One brace is closed for each level of depth. -/
theorem count_closings (depth : Nat) :
    (String.join (closings config depth)).toList.count '\x7d' = depth := by
  have hone : ∀ level, ("\n" ++ config.indent level ++ "\x7d").toList.count '\x7d' = 1 := by
    intro level
    rw [String.toList_append, String.toList_append, List.count_append, List.count_append,
      List.count_eq_zero_of_not_mem (isPlain_indent config level).2]
    rfl
  rw [String.toList_join, closings, List.flatMap_map, List.count_flatMap]
  simp only [Function.comp_def, hone, List.map_const', List.length_reverse, List.length_range,
    List.sum_replicate_nat, Nat.mul_one]

/-- An export whose lines leave open what it is deep is balanced as a text. -/
theorem Export.opens_render {e : Export} (hheader : ∀ line ∈ e.header, IsPlain line)
    (hlines : LeaveOpen e.depth ((e.root ++ e.blocks.flatMap Prod.snd).map Line.text)) :
    Opens 0 (e.render config).toList := by
  have heach : ∀ l ∈ e.root ++ e.blocks.flatMap Prod.snd,
      Opens (unclosed l.text) l.text.toList :=
    fun l hl ↦ hlines.each _ (List.mem_map_of_mem hl)
  have hhead : Opens 0 ("\n".intercalate e.header ++ "\n").toList :=
    (isPlain_append.2 ⟨isPlain_intercalate (by decide) hheader, by decide⟩ : IsPlain _).opens
  have hroot : Opens _ (renderLines config e.root).toList :=
    opens_renderLines config fun l hl ↦ heach l (List.mem_append_left _ hl)
  have hblocks : Opens (e.blocks.map fun b ↦ (b.2.map fun l ↦ unclosed l.text).sum).sum
      (String.join (e.blocks.map fun b ↦ "\n" ++ renderLines config b.2)).toList := by
    rw [String.toList_join, List.flatMap_map]
    refine Opens.flatMap fun b hb ↦ ?_
    have hlines := opens_renderLines config fun l hl ↦
      heach l (List.mem_append_right _ (List.mem_flatMap.2 ⟨b, hb, hl⟩))
    have hbreak : Opens 0 "\n".toList := by decide
    have hblock := hbreak.append hlines
    rw [Nat.zero_add, ← String.toList_append] at hblock
    exact hblock
  rw [Export.render, String.toList_append, String.toList_append, String.toList_append]
  refine ((hhead.append hroot).append hblocks).close (not_mem_closings e.depth) ?_
  have htotal := hlines.total
  rw [List.map_append, List.map_append, List.sum_append, List.map_flatMap, List.map_flatMap,
    List.flatMap_def, List.sum_flatten, List.map_map] at htotal
  rw [count_closings, ← htotal, Nat.zero_add, List.map_map]
  simp only [List.map_map, Function.comp_def]

end Emission

namespace Diagram

open Emission

variable {d : Diagram}

/-- What plain nodes write in the course of an export leaves as many braces open as the export is
deep. -/
theorem Consistent.leaveOpen_lines (h : d.Consistent) (hids : d.HasNodeIds)
    (hplain : ∀ n ∈ d.nodes.values, IsPlainNode n) {config : Config}
    (htype : IsPlain config.defaultType) (hresult : IsPlain config.defaultReturnType) :
    let e := Export.of config d.nodes.values d.connections
    LeaveOpen e.depth ((e.root ++ e.blocks.flatMap Prod.snd).map Line.text) := by
  intro e
  have hmem : ∀ n ∈ order config d.nodes.values d.connections, n ∈ d.nodes.values :=
    fun n ↦ (h.order_perm config).mem_iff.1
  have hwritten := leaveOpen_writings config d.connections (fun n hn ↦ hplain n (hmem n hn))
    (fun n hn ↦ h.inputs_eq_nil_of_functionDef (hmem n hn)) htype hresult
  have hdepth : e.depth = (order config d.nodes.values d.connections).countP opensBlock :=
    depth_stateAfter _
  rw [hdepth]
  exact hwritten.perm ((h.collects hids config).perm.symm.map Line.text)

/-- **Braces balance** in what a reachable diagram is exported as, in either order of emission, if
no text that is set on a node, no line of the header and neither of the default types has a brace in
it: no brace is closed before it is opened, and in the end all are closed. There is no text only if
the machine refuses a demand of the export. -/
theorem Reachable.exportText_balanced (h : Reachable d) (hids : d.HasNodeIds) (machine : Machine)
    (config : Config)
    (hheader : ∀ line ∈ config.headerLines, IsPlain line) (htype : IsPlain config.defaultType)
    (hresult : IsPlain config.defaultReturnType)
    (hproperties : ∀ n ∈ d.nodes.values, ∀ key text, n.property? key = some (.str text) →
      IsPlain text) :
    match d.exportText machine config with
    | .ok text =>
      (∀ p, p <+: text.toList → p.count '\x7d' ≤ p.count '\x7b') ∧
        text.toList.count '\x7b' = text.toList.count '\x7d'
    | .error fault => (demands config d.nodes.values d.connections).findSome?
        (Demand.refusal? machine config) = some fault := by
  have hd := h.consistent
  have hplain : ∀ n ∈ d.nodes.values, IsPlainNode n := by
    intro n hn
    have hid := hids n.id (Table.mem_keys_of_find? (hd.mem_values_iff.1 hn))
    exact ⟨hid.isPlain, hproperties n hn⟩
  have hopens : Opens 0 ((Export.of config d.nodes.values d.connections).render config).toList :=
    Export.opens_render hheader (hd.leaveOpen_lines hids hplain htype hresult)
  have hrises : ∀ p, p <+: ((Export.of config d.nodes.values d.connections).render config).toList →
      p.count '\x7d' ≤ p.count '\x7b' := by
    rintro p ⟨q, hq⟩
    exact hopens.rises p q hq.symm
  cases htext : d.exportText machine config with
  | error fault => exact generate_eq_error_iff.1 htext
  | ok text =>
    obtain rfl := (generate_eq_ok_iff.1 htext).2
    exact ⟨hrises, hopens.left⟩

/-- A loop stands in the block of a branch, with braces of its own in its test. -/
theorem exists_exportText_balanced_of_nested_blocks :
    ∃ d, Reachable d ∧ d.HasNodeIds ∧
      let config := { Config.default with indentSize := 1 }
      let text := "// Generated Rust Code\nuse std::io;\n\n" ++
        "if true \x7b\n loop \x7b\n  if done \x7b break; \x7d\n\n" ++
        "  let call_node_00000000000c = func_node_00000000000c();\n \x7d\n\x7d"
      d.exportText (.bounded 1000 0x10000000000) config = .ok text ∧
        (∀ p, p <+: text.toList → p.count '\x7d' ≤ p.count '\x7b') ∧
        text.toList.count '\x7b' = text.toList.count '\x7d' := by
  let a := "node_00000000000a"
  let b := "node_00000000000b"
  let c := "node_00000000000c"
  let d := empty.performAll
    [.add c "function_call" .empty none .origin none,
      .add b "loop" (.ofList [(.text "break_condition", .str "done")]) none .origin none,
      .add a "if_statement" .empty none .origin none,
      .connect "p" ⟨b, "body"⟩ ⟨c, "exec_in"⟩ .origin .origin,
      .connect "q" ⟨a, "then"⟩ ⟨b, "exec_in"⟩ .origin .origin]
  let config := { Config.default with indentSize := 1 }
  let text := "// Generated Rust Code\nuse std::io;\n\n" ++
    "if true \x7b\n loop \x7b\n  if done \x7b break; \x7d\n\n" ++
    "  let call_node_00000000000c = func_node_00000000000c();\n \x7d\n\x7d"
  have h : Reachable d := Reachable.empty.performAll (by decide +kernel)
  have hids : d.HasNodeIds := by decide +kernel
  have hset : ∀ n ∈ d.nodes.values, ∀ e ∈ n.properties.entries, IsPlain e.2.plain := by
    decide +kernel
  have hproperties : ∀ n ∈ d.nodes.values, ∀ key text, n.property? key = some (.str text) →
      IsPlain text := fun n hn key text hvalue ↦
    hset n hn (.text key, .str text) (Table.find?_eq_some_iff.1 hvalue)
  have hok : d.exportText (.bounded 1000 0x10000000000) config = .ok text := by decide +kernel
  have hbalanced := h.exportText_balanced hids (.bounded 1000 0x10000000000) config (by decide)
    (by decide) (by decide) hproperties
  rw [hok] at hbalanced
  exact ⟨d, h, hids, hok, hbalanced⟩

end Diagram

end FlowCanvas
