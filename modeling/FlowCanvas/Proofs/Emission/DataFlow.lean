import FlowCanvas.Proofs.Emission.Layout
import FlowCanvas.Proofs.Graph.PostOrder

/-!
# How values flow through an export

The values that a node reads are found in the state of the export by coarse means: the first
variable whose node is among the reader's inputs, or whose node's id stands inside an input. In a
reachable diagram they are the right ones all the same: what is read at an input is the variable of
the node that the input is bound to, and that node is written before.

Three facts come together in that. The inputs of a node are the names of its slots or the ids of the
nodes connected there (`Consistent.bound`), with the slots for the flow of execution unbound. A node
that is connected there comes earlier in the schedule, since the diagram has no circles
(`mem_of_edge_of_schedule_split`). And ids all have one length, which is more than that of any slot
name, so of the coarse conditions each singles out one id. The last of them is all that the reading
functions need (`producer?_eq`, `operand?_eq`, `arguments_eq`), and it is kept apart from the two
others.
-/

namespace FlowCanvas

namespace Emission

/-- The lines of a node that finds some values at the places of its inputs, where the names in scope
have some types. Where there is no value, a declaration or assignment takes the zero value of its
type, a condition is `true`, an operand is a default, and a call has no argument. -/
def linesWith (config : Config) (typeOf : String → Option String) (value : Nat → Option String)
    (n : Node) : List (Nat × String) :=
  match emittedAs? n.effectiveKind n.category with
  | some .letDeclaration =>
    let type := (n.textProperty? "type").getD config.defaultType
    let name := (n.textProperty? "name").getD ("var_" ++ n.id)
    let mutable := match n.property? "mutable" with
      | some (.bool true) => "mut "
      | _ => ""
    [(0, "let " ++ mutable ++ name ++ ": " ++ type ++ " = " ++
      (value 1).getD (zeroValue type) ++ ";")]
  | some .assignment =>
    let target := (n.textProperty? "target").getD ("var_" ++ n.id)
    let type := (typeOf target).getD config.defaultType
    [(0, target ++ " = " ++ (value 1).getD (zeroValue type) ++ ";")]
  | some .functionDef =>
    let name := (n.textProperty? "name").getD ("func_" ++ n.id)
    let result := (n.textProperty? "return_type").getD config.defaultReturnType
    [(0, "fn " ++ name ++ "() -> " ++ result ++ " \x7b")]
  | some .functionCall =>
    let name := (n.textProperty? "function_name").getD ("func_" ++ n.id)
    [(0, "let " ++ ("call_" ++ n.id) ++ " = " ++ name ++ "(" ++ (value 1).getD "" ++ ");")]
  | some .ifStatement =>
    let condition := ((n.textProperty? "condition").or (value 1)).getD "true"
    [(0, "if " ++ condition ++ " \x7b")]
  | some .loop =>
    match n.textProperty? "break_condition" with
    | some c => [(0, "loop \x7b"), (1, "if " ++ c ++ " \x7b break; \x7d")]
    | none => [(0, "loop \x7b")]
  | some .arithmetic =>
    let operation := (n.textProperty? "operation").getD "add"
    [(0, "let " ++ ("temp_" ++ n.id) ++ " = " ++
      (value 0).getD "Default::default()" ++ " " ++ symbol operation ++ " " ++
      (value 1).getD "Default::default()" ++ ";")]
  | some .comparison =>
    let operation := (n.textProperty? "operation").getD "eq"
    [(0, "let " ++ ("temp_" ++ n.id) ++ " = " ++
      (value 0).getD "Default::default()" ++ " " ++ symbol operation ++ " " ++
      (value 1).getD "Default::default()" ++ ";")]
  | none => []

/-! ### Reading from a state -/

/-- The inputs of a node as those of a construct: none at all, or one for each slot, with those for
the flow of execution unbound. -/
def HasInputsOf (n : Node) (c : Construct) : Prop :=
  n.inputs = [] ∨ n.inputs.length = (Catalog.inputs c).length ∧
    ∀ i : Nat, (Catalog.inputs c)[i]? = some "execution" → n.inputs[i]? = some "execution"

/-- Where the first of two slots is for the flow of execution, only the second can be bound. -/
theorem HasInputsOf.eq_nil_or {n : Node} {c : Construct} {slot : String} (h : HasInputsOf n c)
    (hc : Catalog.inputs c = ["execution", slot]) :
    n.inputs = [] ∨ ∃ x, n.inputs = ["execution", x] := by
  rcases h with hnil | ⟨hlength, hexec⟩
  · exact Or.inl hnil
  · rw [hc] at hlength hexec
    obtain ⟨e, x, hex⟩ := List.length_eq_two.1 hlength
    have he := hexec 0 rfl
    rw [hex] at he
    exact Or.inr ⟨x, by rw [hex, Option.some.inj he]⟩

variable {s : State} {n : Node}

/-- The slot for the flow of execution is nobody's id. -/
theorem find?_execution (hkeys : ∀ k ∈ s.outputs.keys, IsNodeId k) :
    s.outputs.find? "execution" = none := by
  rw [← Option.not_isSome_iff_eq_none]
  intro hsome
  have hid := hkeys "execution" (Table.contains_iff.1 hsome)
  exact absurd hid.length (by decide)

/-- The first variable whose node is among the inputs is that of the node at the second one. -/
theorem producer?_eq (hkeys : ∀ k ∈ s.outputs.keys, IsNodeId k)
    (hn : n.inputs = [] ∨ ∃ x, n.inputs = ["execution", x]) :
    producer? s n = (n.inputs[1]?).bind s.outputs.find? := by
  rcases hn with hn | ⟨x, hn⟩
  · have hno : s.outputs.entries.find? (fun e ↦ n.inputs.contains e.1) = none := by
      refine List.find?_eq_none.2 fun e _ he ↦ ?_
      rw [hn] at he
      exact Bool.false_ne_true he
    rw [producer?, hno, hn]
    rfl
  · rw [producer?, hn]
    -- the first input is nobody's id, so only the second can be meant
    refine Table.map_snd_find?_entries (p := (["execution", x].contains ·)) fun k hk ↦ ?_
    rw [List.contains_iff_mem, List.mem_cons, List.mem_singleton, or_iff_right]
    rintro rfl
    exact absurd (hkeys _ hk).length (by decide)

/-- The first variable whose node's id stands inside an entry is that of the node with this id. -/
theorem operand?_eq (hkeys : ∀ k ∈ s.outputs.keys, IsNodeId k) {x : String} (hx : x.length ≤ 17) :
    operand? s x = s.outputs.find? x := by
  refine Table.map_snd_find?_entries (p := (Text.occurs · x)) fun k hk ↦ ?_
  refine Text.occurs_iff_eq ?_
  rw [(hkeys k hk).length]
  exact hx

/-- The arguments of a call are the variable of the node at its second input. -/
theorem arguments_eq (hkeys : ∀ k ∈ s.outputs.keys, IsNodeId k)
    (hn : n.inputs = [] ∨ ∃ x, n.inputs = ["execution", x]) :
    (valueInputs n).filterMap s.outputs.find? = ((n.inputs[1]?).bind s.outputs.find?).toList := by
  rcases hn with hn | ⟨x, hn⟩
  · rw [valueInputs, hn]
    rfl
  · rw [valueInputs, hn]
    show ([x].filter (· ≠ "execution")).filterMap s.outputs.find? = (s.outputs.find? x).toList
    by_cases hx : x = "execution"
    · -- it would be filtered out, and there is no variable of that name to miss
      rw [hx, find?_execution hkeys]
      rfl
    · rw [List.filter_cons_of_pos (by simpa using hx)]
      show [x].filterMap s.outputs.find? = _
      cases hv : s.outputs.find? x with
      | none => exact List.filterMap_cons_none hv
      | some v => exact List.filterMap_cons_some hv

theorem valueInputs_eq_nil (h : n.inputs = []) : valueInputs n = [] := by
  rw [valueInputs, h, List.filter_nil]

/-- The text of at most one argument. -/
theorem intercalate_toList (v : Option String) : ", ".intercalate v.toList = v.getD "" := by
  cases v with
  | none => rfl
  | some x => rfl

/-- **What a node adds** is made of the variables at its inputs. -/
theorem lines_contribution (hkeys : ∀ k ∈ s.outputs.keys, IsNodeId k)
    (hlength : ∀ x ∈ n.inputs, x.length ≤ 17)
    (hinputs : ∀ c, emittedAs? n.effectiveKind n.category = some c → HasInputsOf n c)
    (config : Config) (scope : Nat) :
    (contribution config s scope n).lines = linesWith config (s.scopes.lookup scope)
      (fun i ↦ (n.inputs[i]?).bind s.outputs.find?) n := by
  have hoperand : ∀ i : Nat,
      (n.inputs[i]?).bind (operand? s) = (n.inputs[i]?).bind s.outputs.find? := by
    intro i
    cases hi : n.inputs[i]? with
    | none => rfl
    | some x => exact operand?_eq hkeys (hlength x (List.mem_of_getElem? hi))
  rw [contribution, linesWith]
  cases hc : emittedAs? n.effectiveKind n.category with
  | none => rfl
  | some c =>
    have hn := hinputs c hc
    cases c with
    | ifStatement => simp only [ifStatement, producer?_eq hkeys (hn.eq_nil_or rfl)]
    | loop =>
      simp only [loop]
      cases n.textProperty? "break_condition" <;> rfl
    | letDeclaration =>
      simp only [← producer?_eq hkeys (hn.eq_nil_or rfl)]
      rfl
    | assignment => simp only [assignment, producer?_eq hkeys (hn.eq_nil_or rfl)]
    | functionDef =>
      -- a definition declares no inputs, so it has no parameters
      have hnil : n.inputs = [] := hn.elim id fun h ↦ List.length_eq_zero_iff.1 h.1
      have hvalues : valueInputs n = [] := by rw [valueInputs, hnil]; rfl
      have hempty : ∀ a : String, a ++ "(" ++ ", ".intercalate [] ++ ") -> " = a ++ "() -> " := by
        intro a
        rw [show ", ".intercalate [] = "" from rfl, String.append_empty, String.append_assoc]
        rfl
      simp only [functionDef, hvalues, List.map_nil, hempty]
    | functionCall =>
      simp only [functionCall, arguments_eq hkeys (hn.eq_nil_or rfl), intercalate_toList]
    | arithmetic => simp only [operator, hoperand, defaultOperation, unresolved]
    | comparison => simp only [operator, hoperand, defaultOperation, unresolved]

/-- The construct that a standard node is written as is the one that it was created as, unless it
declares no inputs. -/
theorem slots_of_emittedAs? (h : n.IsStandard) {c : Construct}
    (hc : emittedAs? n.effectiveKind n.category = some c) :
    n.slots = [] ∨ n.slots = Catalog.inputs c := by
  have hkind : n.effectiveKind = n.kind := by
    rw [Node.effectiveKind, h.configKind, ite_self]
  rcases h.slots_eq_nil_or with hnil | ⟨c', hkey, hcategory, hslots, -⟩
  · exact Or.inl hnil
  · have hself : emittedAs? c'.key (.text c'.category.key) = some c' := by cases c' <;> rfl
    rw [hkind, hkey, hcategory, hself] at hc
    exact Or.inr (Option.some.inj hc ▸ hslots)

end Emission

namespace Diagram

open Emission

/-! ### Nodes bound to inputs -/

/-- The variable of the node that an input is bound to, if it is bound and that node has a value. -/
def valueAt? (d : Diagram) (n : Node) (i : Nat) : Option String :=
  (n.inputs[i]?).bind fun entry ↦ (d.nodes.find? entry).bind outputName?

variable {d : Diagram} {config : Config} {before after : List Node} {n : Node}

theorem Consistent.hasInputsOf (h : d.Consistent) (hn : n ∈ d.nodes.values) {c : Construct}
    (hc : emittedAs? n.effectiveKind n.category = some c) : HasInputsOf n c := by
  have hfind := h.mem_values_iff.1 hn
  have hlength := h.length_inputs hfind
  rcases slots_of_emittedAs? (h.standard hfind) hc with hnil | hslots
  · rw [hnil] at hlength
    exact Or.inl (List.length_eq_zero_iff.1 hlength)
  · rw [hslots] at hlength
    exact Or.inr ⟨hlength, fun i hi ↦ h.execution_unbound hfind (hslots ▸ hi)⟩

theorem Consistent.inputs_eq_nil_of_functionDef (h : d.Consistent) (hn : n ∈ d.nodes.values)
    (hc : emittedAs? n.effectiveKind n.category = some .functionDef) : n.inputs = [] :=
  (h.hasInputsOf hn hc).elim id fun hlength ↦ List.length_eq_zero_iff.1 hlength.1

/-- No entry of an input is longer than an id. -/
theorem Consistent.length_entry_le (h : d.Consistent) (hids : d.HasNodeIds)
    (hn : n ∈ d.nodes.values) {x : String} (hx : x ∈ n.inputs) : x.length ≤ 17 := by
  have hfind := h.mem_values_iff.1 hn
  obtain ⟨i, hi⟩ := List.mem_iff_getElem?.1 hx
  rw [h.bound hfind] at hi
  rcases Node.eq_slot_or_fed_of_mem_boundBy hi with hslot | ⟨c, hc, -, rfl⟩
  · exact Nat.le_of_lt ((h.standard hfind).length_slot_lt (List.mem_of_getElem? hslot))
  · exact Nat.le_of_eq (hids _ (h.source_mem c hc)).length

/-- An input that holds an id is bound there by a connection. -/
theorem Consistent.exists_connection_of_entry (h : d.Consistent) (hn : n ∈ d.nodes.values) {i : Nat}
    {x : String} (hentry : n.inputs[i]? = some x) (hx : IsNodeId x) :
    ∃ c ∈ d.connections, c.target.node = n.id ∧ c.source.node = x := by
  have hfind := h.mem_values_iff.1 hn
  rw [h.bound hfind] at hentry
  rcases Node.eq_slot_or_fed_of_mem_boundBy hentry with hslot | ⟨c, hc, hfed, hsource⟩
  · -- no slot has the name of a node
    have hlt := (h.standard hfind).length_slot_lt (List.mem_of_getElem? hslot)
    rw [hx.length] at hlt
    exact absurd hlt (Nat.lt_irrefl 17)
  · exact ⟨c, hc, hfed.2.1, hsource⟩

/-- Unless consumers come first, nodes are written as they are scheduled. -/
theorem order_eq_schedule (hfirst : config.consumersFirst = false) :
    order config d.nodes.values d.connections = Graph.schedule Node.id d.edges d.nodes.values := by
  rw [order, if_neg (by rw [hfirst]; exact Bool.false_ne_true)]
  rfl

theorem mem_values_of_mem_order {m : Node} (hfirst : config.consumersFirst = false)
    (hm : m ∈ order config d.nodes.values d.connections) : m ∈ d.nodes.values := by
  rw [order_eq_schedule hfirst] at hm
  exact Graph.mem_of_mem_schedule hm

theorem nodup_ids_order (hfirst : config.consumersFirst = false) :
    ((order config d.nodes.values d.connections).map Node.id).Nodup := by
  rw [order_eq_schedule hfirst]
  exact Graph.nodup_keys_schedule Node.id d.edges d.nodes.values

/-- A node is scheduled after the nodes that lead to it. -/
theorem Consistent.source_mem_of_schedule_split (h : d.Consistent)
    (hsplit : Graph.schedule Node.id d.edges d.nodes.values = before ++ n :: after) {c : Connection}
    (hc : c ∈ d.connections) (htarget : c.target.node = n.id) {m : Node}
    (hm : d.nodes.find? c.source.node = some m) : m ∈ before := by
  have hid : m.id = c.source.node := h.keyed hm
  have hedge : (m.id, n.id) ∈ d.edges := by
    rw [hid, ← htarget]
    exact List.mem_map_of_mem hc
  -- the edge does not lie on a circle, so the schedule puts its source first
  exact Graph.mem_of_edge_of_schedule_split h.nodup_node_ids hsplit
    (h.mem_values_iff.2 (hid ▸ hm)) hedge (h.acyclic m.id n.id hedge)

/-- A node is written after the nodes that lead to it. -/
theorem Consistent.source_mem_before (h : d.Consistent) (hfirst : config.consumersFirst = false)
    (horder : order config d.nodes.values d.connections = before ++ n :: after) {c : Connection}
    (hc : c ∈ d.connections) (htarget : c.target.node = n.id) {m : Node}
    (hm : d.nodes.find? c.source.node = some m) : m ∈ before :=
  h.source_mem_of_schedule_split ((order_eq_schedule hfirst).symm.trans horder) hc htarget hm

/-- A node is written after the nodes that its inputs are bound to. -/
theorem Consistent.mem_before (h : d.Consistent) (hids : d.HasNodeIds)
    (hfirst : config.consumersFirst = false)
    (horder : order config d.nodes.values d.connections = before ++ n :: after) {i : Nat} {m : Node}
    (hentry : n.inputs[i]? = some m.id) (hm : d.nodes.find? m.id = some m) : m ∈ before := by
  have hn : n ∈ d.nodes.values := mem_values_of_mem_order hfirst (by rw [horder]; simp)
  obtain ⟨c, hc, htarget, hsource⟩ :=
    h.exists_connection_of_entry hn hentry (hids _ (Table.mem_keys_of_find? hm))
  exact h.source_mem_before hfirst horder hc htarget (hsource ▸ hm)

/-- What an input is bound to is found among the nodes written before. -/
theorem Consistent.find?_before (h : d.Consistent) (hids : d.HasNodeIds)
    (hfirst : config.consumersFirst = false)
    (horder : order config d.nodes.values d.connections = before ++ n :: after) {i : Nat}
    {x : String} (hentry : n.inputs[i]? = some x) :
    before.find? (·.id = x) = d.nodes.find? x := by
  have hvalues : ∀ m ∈ before, d.nodes.find? m.id = some m := fun m hm ↦
    h.mem_values_iff.1 (mem_values_of_mem_order hfirst (by rw [horder]; simp [hm]))
  -- what is found before stands in the diagram, and what is bound was written before
  cases hb : before.find? (·.id = x) with
  | some m =>
    have hid : m.id = x := of_decide_eq_true (List.find?_some hb :)
    rw [← hid, hvalues m (List.mem_of_find?_eq_some hb)]
  | none =>
    cases hx : d.nodes.find? x with
    | none => rfl
    | some m =>
      obtain rfl := h.keyed hx
      have hm := h.mem_before hids hfirst horder hentry hx
      exact absurd (decide_eq_true rfl) (List.find?_eq_none.1 hb m hm)

theorem find?_outputs_before (hfirst : config.consumersFirst = false)
    (horder : order config d.nodes.values d.connections = before ++ n :: after) (x : String) :
    (stateAfter config d.connections before).outputs.find? x =
      (before.find? (·.id = x)).bind outputName? := by
  refine find?_outputs_stateAfter ?_ x
  have hnodup := nodup_ids_order (d := d) hfirst
  rw [horder, List.map_append] at hnodup
  exact (List.nodup_append.1 hnodup).1

/-- Only nodes have variables. -/
theorem Consistent.isNodeId_of_mem_outputs (h : d.Consistent) (hids : d.HasNodeIds)
    (hfirst : config.consumersFirst = false)
    (horder : order config d.nodes.values d.connections = before ++ n :: after) :
    ∀ k ∈ (stateAfter config d.connections before).outputs.keys, IsNodeId k := by
  intro k hk
  obtain ⟨m, hm, rfl⟩ := List.mem_map.1 (mem_ids_of_mem_outputs hk)
  have hmem : m ∈ d.nodes.values := mem_values_of_mem_order hfirst (by rw [horder]; simp [hm])
  exact hids m.id (Table.mem_keys_of_find? (h.mem_values_iff.1 hmem))

/-- **Each value that a node reads is that of the node bound there.** When a node of a reachable
diagram is written, producers first, the nodes that its inputs are bound to are written already, and
its lines are made of their variables, each at the place of its input, with the documented defaults
where no variable is bound. These lines stand in the export, in the block of the node's place. -/
theorem Reachable.lines_eq_linesWith (h : Reachable d) (hids : d.HasNodeIds)
    (hfirst : config.consumersFirst = false)
    (horder : order config d.nodes.values d.connections = before ++ n :: after) :
    (∀ (i : Nat) (entry : String) (m : Node), n.inputs[i]? = some entry →
      d.nodes.find? entry = some m → m ∈ before) ∧
    let s := stateAfter config d.connections before
    let place := home s d.connections n.id
    let added := contribution config s (s.scopeAt place) n
    run config d.nodes.values d.connections =
        after.foldl (write config d.connections) (s.apply n.id place added) ∧
      added.lines = linesWith config (s.scopes.lookup (s.scopeAt place)) (d.valueAt? n) n ∧
      (Export.of config d.nodes.values d.connections).Collects
        (writings config d.connections .start before ++
          ⟨n, place, added.linesAt n.id s.depth⟩ ::
            writings config d.connections (s.apply n.id place added) after) := by
  have hd := h.consistent
  have hn : n ∈ d.nodes.values := mem_values_of_mem_order hfirst (by rw [horder]; simp)
  refine ⟨?_, ?_, ?_, ?_⟩
  · intro i entry m hentry hm
    obtain rfl := hd.keyed hm
    exact hd.mem_before hids hfirst horder hentry hm
  · rw [run, horder, List.foldl_append]
    rfl
  · have hvalue : (fun i : Nat ↦ (n.inputs[i]?).bind
        (stateAfter config d.connections before).outputs.find?) = d.valueAt? n := by
      funext i
      rw [valueAt?]
      cases hi : n.inputs[i]? with
      | none => rfl
      | some x =>
        show (stateAfter config d.connections before).outputs.find? x = _
        rw [find?_outputs_before hfirst horder, hd.find?_before hids hfirst horder hi]
        rfl
    rw [← hvalue]
    exact lines_contribution (hd.isNodeId_of_mem_outputs hids hfirst horder)
      (fun x hx ↦ hd.length_entry_le hids hn hx) (fun c hc ↦ hd.hasInputsOf hn hc) config _
  · have hcollects := hd.collects hids config
    rw [horder, writings_append] at hcollects
    exact hcollects

/-- A sum that was drawn before its operand is written after it, and reads its variable. -/
theorem exists_lines_of_sum :
    ∃ d before n after scope, Reachable d ∧ d.HasNodeIds ∧
      order .default d.nodes.values d.connections = before ++ n :: after ∧
      (∀ m, d.nodes.find? "node_00000000000b" = some m → m ∈ before) ∧
      (contribution .default (stateAfter .default d.connections before) scope n).lines =
        [(0, "let temp_node_00000000000a = x + Default::default();")] := by
  let a := "node_00000000000a"
  let b := "node_00000000000b"
  let d := empty.performAll
    [.add a "arithmetic" .empty none .origin none,
      .add b "let_declaration" (.ofList [(.text "name", .str "x")]) none .origin none,
      .connect "p" ⟨b, "var_out"⟩ ⟨a, "left"⟩ .origin .origin]
  have h : Reachable d := Reachable.empty.performAll (by decide +kernel)
  have hkeys : d.nodes.keys = [a, b] := by decide +kernel
  have hids : d.HasNodeIds := by
    intro k hk
    rw [hkeys, List.mem_cons, List.mem_singleton] at hk
    rcases hk with rfl | rfl
    · exact ⟨"00000000000a".toList, by decide, by decide, by decide⟩
    · exact ⟨"00000000000b".toList, by decide, by decide, by decide⟩
  have hsum : ((order .default d.nodes.values d.connections).find? (·.id = a)).map (fun n ↦
      (n.id, n.inputs, emittedAs? n.effectiveKind n.category)) =
      some (a, [b, "right"], some .arithmetic) := by decide +kernel
  have hvalues : ((order .default d.nodes.values d.connections).find? (·.id = a)).map (fun n ↦
      (n.textProperty? "operation", d.valueAt? n 0, d.valueAt? n 1)) =
      some (none, some "x", none) := by decide +kernel
  obtain ⟨n, hn, heq⟩ := Option.map_eq_some_iff.1 hsum
  rw [hn] at hvalues
  simp only [Option.map_some, Option.some.injEq, Prod.mk.injEq] at heq hvalues
  obtain ⟨hid, hinputs, hconstruct⟩ := heq
  obtain ⟨hoperation, hleft, hright⟩ := hvalues
  obtain ⟨before, after, horder⟩ := List.append_of_mem (List.mem_of_find?_eq_some hn)
  have hall := h.lines_eq_linesWith hids rfl horder
  refine ⟨d, before, n, after, _, h, hids, horder, ?_, hall.2.2.1.trans ?_⟩
  · exact fun m hm ↦ hall.1 0 b m (by rw [hinputs]; rfl) hm
  · rw [linesWith, hconstruct]
    simp only [hoperation, hleft, hright, hid]
    decide +kernel

end Diagram

end FlowCanvas
