import FlowCanvas.Proofs.Emission.Independence
import FlowCanvas.Proofs.Emission.Refusal
import FlowCanvas.Proofs.Graph.Variation

/-!
# What an export reads of the nodes

Of what is set on a node only a part counts (`counts`): texts with something to see in them, and
that a variable is mutable. A value of any other sort is read like no value at all. Of the rest of a
node an export reads its id, its kind, its category as far as it is the name of one, and its inputs
(`Node.WrittenAlike`); of a connection it reads where it comes from, the node that it lands on, and
what it carries (`Connection.LeadsAlike`). What is shown on the canvas is in neither.

So two lists of nodes and connections that agree in this give the same export, whatever the settings
(`generate_eq_of_alike`). Each emitter is one lemma, which says that it does the same with nodes that
are alike (`WrittenAlike.contribution_eq`); a whole run then is the same because the schedules are
alike one by one (`Graph.forall₂_schedule`).

One trace remains of values that do not count: they are logged. A machine that refuses to log one of
them keeps the export from its text (`exists_alike_generate_ne`), and only then can nodes that are
alike have different outcomes.
-/

namespace FlowCanvas

namespace Emission

/-- Does a value that is set on a node count? Under most keys texts count that have something to
see in them; that something is mutable counts if it is true and nothing but true. -/
def counts (key : Json.Key) : Json → Bool
  | .bool b => b && key = .text "mutable"
  | .str s => !Text.isBlankText s && key ≠ .text "mutable"
  | _ => false

end Emission

/-- What is set on a node and counts. -/
def Node.counting (n : Node) : Properties := n.properties.keep Emission.counts

/-- Two nodes that differ at most in what is shown on the canvas and in what does not count. -/
structure Node.WrittenAlike (n m : Node) : Prop where
  id : n.id = m.id
  kind : n.kind = m.kind
  configKind : n.configKind = m.configKind
  /-- They are in the same category, or in none that there is. -/
  category : ∀ key, n.category.isText key = m.category.isText key
  inputs : n.inputs = m.inputs
  properties : ∀ key : String, n.counting.find? (.text key) = m.counting.find? (.text key)

/-- Two connections that differ at most in where they end on the node that they land on, and in what
is shown on the canvas. -/
structure Connection.LeadsAlike (c c' : Connection) : Prop where
  source : c.source = c'.source
  target : c.target.node = c'.target.node
  signal : c.signal = c'.signal

namespace Emission

/-! ### Reading what counts -/

/-- A text is read from what counts. -/
theorem textProperty?_eq_of_counting (n : Node) {key : String} (hkey : key ≠ "mutable") :
    n.textProperty? key = match n.counting.find? (.text key) with
      | some (.str s) => some s
      | _ => none := by
  have hne : Json.Key.text key ≠ .text "mutable" := fun h ↦ hkey (Json.Key.text.inj h)
  rw [Node.counting, Table.find?_keep, Node.textProperty?, Node.property?]
  cases n.properties.find? (.text key) with
  | none => rfl
  | some value =>
    cases value with
    | str s => cases hblank : Text.isBlankText s <;> simp [Option.filter, counts, hblank, hne]
    | _ => simp [Option.filter, counts, hne]

/-- Mutability is read from what counts. -/
theorem property?_mutable_iff (n : Node) :
    n.property? "mutable" = some (.bool true) ↔
      n.counting.find? (.text "mutable") = some (.bool true) := by
  rw [Node.counting, Table.find?_keep, Option.filter_eq_some_iff]
  exact (and_iff_left rfl).symm

end Emission

namespace Node.WrittenAlike

open Emission

variable {n m : Node} (h : n.WrittenAlike m)

include h

theorem textProperty?_eq (key : String) (hkey : key ≠ "mutable") :
    n.textProperty? key = m.textProperty? key := by
  rw [textProperty?_eq_of_counting n hkey, textProperty?_eq_of_counting m hkey, h.properties key]

/-- One of them is mutable if the other is. -/
theorem match_mutable_eq (yes no : String) :
    (match n.property? "mutable" with
      | some (.bool true) => yes
      | _ => no) =
    match m.property? "mutable" with
      | some (.bool true) => yes
      | _ => no := by
  have hiff : n.property? "mutable" = some (.bool true) ↔
      m.property? "mutable" = some (.bool true) := by
    rw [property?_mutable_iff, property?_mutable_iff, h.properties]
  by_cases hn : n.property? "mutable" = some (.bool true)
  · rw [hn, hiff.1 hn]
  · have hm := mt hiff.2 hn
    split
    · exact absurd ‹_› hn
    · rfl

theorem emittedAs?_eq :
    emittedAs? n.effectiveKind n.category = emittedAs? m.effectiveKind m.category := by
  have hcategory : Category.ofLabel? n.category = Category.ofLabel? m.category := by
    simp only [Category.ofLabel?, h.category]
  rw [emittedAs?, emittedAs?, effectiveKind, effectiveKind, h.kind, h.configKind, hcategory]

theorem producer?_eq (s : State) : producer? s n = producer? s m := by
  rw [producer?, producer?, h.inputs]

theorem valueInputs_eq : valueInputs n = valueInputs m := by
  rw [valueInputs, valueInputs, h.inputs]

theorem letDeclaration_eq (config : Config) (s : State) :
    letDeclaration config s n = letDeclaration config s m := by
  have htype := h.textProperty?_eq "type" (by decide)
  have hname := h.textProperty?_eq "name" (by decide)
  simp only [letDeclaration, h.id, h.producer?_eq, htype, hname]
  -- the two sides only differ in where mutability is looked up
  exact congrArg (fun shown ↦ Contribution.mk [(0, "let " ++ shown ++ _ ++ ": " ++ _ ++ " = " ++ _ ++
    ";")] _ _ _) (h.match_mutable_eq "mut " "")

theorem operator_eq (s : State) (construct : Construct) :
    operator s construct n = operator s construct m := by
  rw [operator, operator, h.id, h.inputs, h.textProperty?_eq "operation" (by decide)]

/-- **Nodes that are alike add the same** to the same state. -/
theorem contribution_eq (config : Config) (s : State) (scope : Nat) :
    contribution config s scope n = contribution config s scope m := by
  rw [contribution, contribution, h.emittedAs?_eq]
  cases emittedAs? m.effectiveKind m.category with
  | none => rfl
  | some c =>
    cases c with
    | ifStatement =>
      simp only [ifStatement]
      rw [h.id, h.producer?_eq, h.textProperty?_eq "condition" (by decide)]
    | loop =>
      simp only [loop]
      rw [h.id, h.textProperty?_eq "break_condition" (by decide)]
    | letDeclaration => exact h.letDeclaration_eq config s
    | assignment =>
      simp only [assignment]
      rw [h.id, h.producer?_eq, h.textProperty?_eq "target" (by decide)]
    | functionDef =>
      simp only [functionDef]
      rw [h.id, h.valueInputs_eq, h.textProperty?_eq "name" (by decide),
        h.textProperty?_eq "return_type" (by decide)]
    | functionCall =>
      simp only [functionCall]
      rw [h.id, h.valueInputs_eq, h.textProperty?_eq "function_name" (by decide)]
    | arithmetic => exact h.operator_eq s .arithmetic
    | comparison => exact h.operator_eq s .comparison

theorem write_eq (config : Config) (connections : List Connection) (s : State) :
    write config connections s n = write config connections s m := by
  rw [write, write, h.id, h.contribution_eq]

end Node.WrittenAlike

namespace Emission

variable {config : Config} {nodes nodes' : List Node} {cs cs' : List Connection}

/-! ### Whole runs -/

theorem forall₂_order (h : List.Forall₂ Node.WrittenAlike nodes nodes') :
    List.Forall₂ Node.WrittenAlike (order config nodes cs) (order config nodes' cs) := by
  have hschedule : List.Forall₂ Node.WrittenAlike
      (Graph.schedule Node.id (cs.map Connection.edge) nodes)
      (Graph.schedule Node.id (cs.map Connection.edge) nodes') :=
    Graph.forall₂_schedule (fun _ _ hn ↦ hn.id) h
  rw [order, order]
  split
  · exact List.forall₂_reverse_iff.2 hschedule
  · exact hschedule

/-- Nodes that are alike one by one make the same export. -/
theorem of_eq_of_writtenAlike (h : List.Forall₂ Node.WrittenAlike nodes nodes') :
    Export.of config nodes cs = Export.of config nodes' cs := by
  have hrun : run config nodes cs = run config nodes' cs := by
    refine List.rel_foldl (P := Eq) (R := Node.WrittenAlike) ?_ rfl (forall₂_order h)
    rintro s _ rfl n m hn
    exact hn.write_eq config cs s
  rw [Export.of, Export.of, hrun]

/-- The machine logs every value that it is asked to log. -/
def Logs (machine : Machine) (ds : List Demand) : Prop :=
  ∀ value, .log value ∈ ds → machine.logFault? value = none

/-- If the values of a node are logged, what is refused in writing it is up to its lines. -/
theorem findSome?_writeDemands {machine : Machine} {s : State} {n : Node}
    (h : Logs machine (writeDemands config cs s n)) :
    (writeDemands config cs s n).findSome? (Demand.refusal? machine config) =
      ((contribution config s (s.scopeAt (home s cs n.id)) n).linesAt n.id s.depth).findSome?
        fun l ↦ machine.indentFault? config.indentSize l.level := by
  have hlogs : ((loggedValues n).map Demand.log).findSome? (Demand.refusal? machine config) =
      none := by
    rw [List.findSome?_eq_none_iff]
    intro x hx
    obtain ⟨value, hvalue, rfl⟩ := List.mem_map.1 hx
    exact h value (List.mem_append_left _ hx)
  rw [writeDemands, List.findSome?_append, hlogs, Option.none_or, List.findSome?_map]
  rfl

/-- **A run of nodes that are alike** is refused the same, if all their values are logged. -/
theorem findSome?_runDemands_eq {machine : Machine} (s : State)
    (h : List.Forall₂ Node.WrittenAlike nodes nodes')
    (hlogs : Logs machine (runDemands config cs s nodes))
    (hlogs' : Logs machine (runDemands config cs s nodes')) :
    (runDemands config cs s nodes).findSome? (Demand.refusal? machine config) =
      (runDemands config cs s nodes').findSome? (Demand.refusal? machine config) := by
  induction h generalizing s with
  | nil => rfl
  | @cons n m _ _ hn _ ih =>
    have hwrite := findSome?_writeDemands fun value hvalue ↦
      hlogs value (List.mem_append_left _ hvalue)
    have hwrite' := findSome?_writeDemands fun value hvalue ↦
      hlogs' value (List.mem_append_left _ hvalue)
    have hrest := ih (write config cs s n)
      (fun value hvalue ↦ hlogs value (List.mem_append_right _ hvalue))
      fun value hvalue ↦ hlogs' value (List.mem_append_right _ (hn.write_eq config cs s ▸ hvalue))
    rw [runDemands, runDemands, List.findSome?_append, List.findSome?_append, hwrite, hwrite',
      ← hn.write_eq, hrest, hn.id, hn.contribution_eq]

theorem landings_eq_of_leadsAlike (h : List.Forall₂ Connection.LeadsAlike cs cs') (node : String) :
    landings cs node = landings cs' node := by
  induction h with
  | nil => rfl
  | @cons c c' _ _ hc _ ih =>
    have hlands : landings [c] node = landings [c'] node := by
      by_cases hnode : c'.target.node = node
      · simp [landings, hc.target, hc.source, hc.signal, hnode]
      · simp [landings, hc.target, hnode]
    exact ((landings_append [c] _ node).trans (congrArg₂ _ hlands ih)).trans
      (landings_append [c'] _ node).symm

/-- **What does not count does not matter.** If nodes are alike one by one, and connections are, they
make the same export, whatever the settings, so they have no different texts, on whatever machines.
And the outcome is the same, a text or a fault, unless the machine refuses to log a value. -/
theorem generate_eq_of_alike (hnodes : List.Forall₂ Node.WrittenAlike nodes nodes')
    (hcs : List.Forall₂ Connection.LeadsAlike cs cs') (config : Config) :
    Export.of config nodes cs = Export.of config nodes' cs' ∧
      (∀ machine machine' text text', generate machine config nodes cs = .ok text →
        generate machine' config nodes' cs' = .ok text' → text = text') ∧
      ∀ machine, Logs machine (demands config nodes cs) → Logs machine (demands config nodes' cs') →
        generate machine config nodes cs = generate machine config nodes' cs' := by
  have hlandings := landings_eq_of_leadsAlike hcs
  have hexport : Export.of config nodes cs = Export.of config nodes' cs' :=
    (of_eq_of_writtenAlike hnodes).trans (of_congr hlandings config nodes')
  refine ⟨hexport, ?_, ?_⟩
  · intro machine machine' text text' htext htext'
    rw [(generate_eq_ok_iff.1 htext).2, (generate_eq_ok_iff.1 htext').2, hexport]
  · intro machine hlogs hlogs'
    have hdemands : demands config nodes' cs' = demands config nodes' cs :=
      (demands_congr hlandings config nodes').symm
    have hrun := findSome?_runDemands_eq .start (forall₂_order hnodes)
      (fun value hvalue ↦ hlogs value (List.mem_append_left _ hvalue))
      fun value hvalue ↦ hlogs' value (hdemands ▸ List.mem_append_left _ hvalue)
    have hrefusal : (demands config nodes cs).findSome? (Demand.refusal? machine config) =
        (demands config nodes' cs).findSome? (Demand.refusal? machine config) := by
      rw [demands, demands, of_eq_of_writtenAlike hnodes, List.findSome?_append, hrun,
        ← List.findSome?_append]
    rw [generate, generate, hdemands, hrefusal, hexport]

/-- A number for a type, a blank for an operation, and what is shown on the canvas do not matter. -/
theorem exists_generate_eq_of_alike :
    ∃ nodes nodes' cs cs', List.Forall₂ Node.WrittenAlike nodes nodes' ∧
      List.Forall₂ Connection.LeadsAlike cs cs' ∧
      nodes.map (·.properties.size) = [1, 4] ∧ nodes'.map (·.properties.size) = [0, 2] ∧
      nodes.map Node.slots ≠ nodes'.map Node.slots ∧
      cs.map Connection.id ≠ cs'.map Connection.id ∧
      (Export.of .default nodes' cs').root.map Line.text =
        ["let temp_a = Default::default() + Default::default();", "let mut x: i32 = temp_a;"] ∧
      (∀ config, Export.of config nodes cs = Export.of config nodes' cs') ∧
      ∀ nesting memory, generate (.bounded nesting memory) .default nodes cs =
        generate (.bounded nesting memory) .default nodes' cs' := by
  let a : Node := ⟨"a", "arithmetic", .str "Sum", .origin, "", .text "operators",
    .ofList [(.text "operation", .str " ")], [], ["left", "right"], [], []⟩
  let a' : Node := ⟨"a", "arithmetic", .null, ⟨3, 4⟩, "", .text "operators", .empty, [],
    ["left", "right"], ["result"], ["left", "right"]⟩
  let b : Node := ⟨"b", "", .str "Total", .origin, "let_declaration", .text "variables",
    .ofList [(.text "name", .str "x"), (.text "type", .int 7), (.text "mutable", .bool true),
      (.text "hint", .null)], [], ["execution", "a"], [], []⟩
  let b' : Node := ⟨"b", "", .null, ⟨5, 6⟩, "let_declaration", .text "variables",
    .ofList [(.text "name", .str "x"), (.text "mutable", .bool true)], [], ["execution", "a"], [],
    ["execution", "value"]⟩
  let c : Connection := ⟨"p", ⟨"a", "result"⟩, ⟨"b", "value"⟩, .data, some "i32", .origin, .origin⟩
  let c' : Connection := ⟨"q", ⟨"a", "result"⟩, ⟨"b", "other"⟩, .data, none, ⟨3, 4⟩, ⟨5, 6⟩⟩
  have ha : a.counting = a'.counting := Table.ext rfl
  have hb : b.counting = b'.counting := Table.ext rfl
  have hnodes : List.Forall₂ Node.WrittenAlike [a, b] [a', b'] :=
    .cons ⟨rfl, rfl, rfl, fun _ ↦ rfl, rfl, fun _ ↦ by rw [ha]⟩
      (.cons ⟨rfl, rfl, rfl, fun _ ↦ rfl, rfl, fun _ ↦ by rw [hb]⟩ .nil)
  have hcs : List.Forall₂ Connection.LeadsAlike [c] [c'] := .cons ⟨rfl, rfl, rfl⟩ .nil
  -- of the first nodes a number is logged, and nothing is nested
  have hflat : ∀ n ∈ [a, b, a', b'], ∀ value ∈ loggedValues n, value.depth = 0 := by
    decide +kernel
  have hlogs : ∀ nesting memory nodes connections, nodes ⊆ [a, b, a', b'] →
      Logs (.bounded nesting memory) (demands .default nodes connections) := by
    intro nesting memory nodes connections hsub value hvalue
    obtain ⟨n, hn, hvalue⟩ := log_mem_demands_iff.1 hvalue
    have hdepth := hflat n (hsub (Graph.mem_of_mem_schedule hn)) value hvalue
    exact if_neg (by rw [hdepth]; exact Nat.not_lt_zero nesting)
  refine ⟨[a, b], [a', b'], [c], [c'], hnodes, hcs, by decide, by decide, by decide, by decide,
    by decide +kernel, fun config ↦ (generate_eq_of_alike hnodes hcs config).1, ?_⟩
  intro nesting memory
  exact (generate_eq_of_alike hnodes hcs .default).2.2 _ (hlogs nesting memory _ _ (by simp))
    (hlogs nesting memory _ _ (by simp))

/-- **A value that does not count may be in the way** if it cannot be logged: a name that is made of
a thousand arrays in each other. And no node has a text if no line can be indented. -/
theorem exists_alike_generate_ne :
    let machine := Machine.bounded 1000 0x10000000000
    ∃ n m : Node, n.WrittenAlike m ∧
      generate machine .default [n] [] =
        .error (.tooDeep " while getting the repr of an object") ∧
      generate machine .default [m] [] =
        .ok "// Generated Rust Code\nuse std::io;\n\nlet var_a: i32 = 0;" ∧
      generate machine { Config.default with indentSize := 0x8000000000000000 } [m] [] =
        .error .sizeOutOfRange := by
  let n : Node := ⟨"a", "let_declaration", .null, .origin, "", .text "variables",
    .ofList [(.text "name", .nested 1001)], [], [], [], []⟩
  let m : Node := ⟨"a", "let_declaration", .null, .origin, "", .text "variables", .empty, [], [], [],
    []⟩
  have hcounting : n.counting = m.counting := Table.ext rfl
  refine ⟨n, m, ⟨rfl, rfl, rfl, fun _ ↦ rfl, rfl, fun _ ↦ by rw [hcounting]⟩, ?_, ?_, ?_⟩
  · decide +kernel
  · decide +kernel
  · decide +kernel

end Emission

end FlowCanvas
