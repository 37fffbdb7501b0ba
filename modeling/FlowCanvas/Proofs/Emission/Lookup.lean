import FlowCanvas.Proofs.Emission.Layout
import FlowCanvas.Proofs.Emission.Variant

/-!
# Lookups in the course of an export

Writing a node looks things up that are taken to be there: the block that the node is sent to, and
the default operation of an operator that names none. `write` has an answer in any case, so that a
lookup that finds nothing would go unnoticed. `writeChecked` says so instead (`Miss`), and the main
statement is that it never does (`generate_never_misses`), in whichever order the nodes are written
and whatever ids, kinds and connections they have.

Blocks are looked up long after they were opened, under keys that were handed on from node to node.
What carries the argument is that all keys handed on are keys of blocks (`hasPlace_of_find?_homes`),
and that no key is ever taken away. A second block under a key takes the place of the first and may
cost its lines, but no lookup. So nothing but the machine can keep an export from its text.
-/

namespace FlowCanvas.Emission

/-- A lookup that finds nothing. -/
inductive Miss where
  /-- There is no block under the key. -/
  | block (key : String)
  /-- There is no operation for the kind. -/
  | operation (kind : String)
  deriving DecidableEq

/-! ### Operations -/

/-- The operations of operators that name none, by kind. -/
def defaultOperations : List (String × String) := [("arithmetic", "add"), ("comparison", "eq")]

/-- What is written as an operator has the kind of the operator. -/
theorem eq_key_of_emittedAs? {kind : String} {category : Label} {c : Construct}
    (h : emittedAs? kind category = some c) (hc : c.category = .operators) : kind = c.key := by
  rw [emittedAs?, category_of_emittedAs? h, hc] at h
  have hkey : decide (c.key = kind) = true :=
    List.find?_some (p := fun c : Construct ↦ decide (c.key = kind)) h
  exact (of_decide_eq_true hkey).symm

/-- **The lookup of a default operation** hits. -/
theorem lookup_defaultOperations {kind : String} {category : Label} {c : Construct}
    (h : emittedAs? kind category = some c) (hc : c.category = .operators) :
    Table.lookup kind defaultOperations = some (defaultOperation c) := by
  rw [eq_key_of_emittedAs? h hc]
  cases c with
  | arithmetic | comparison => rfl
  | _ => exact absurd hc nofun

/-- The operation of an operator: the one that it names, else that of its kind. -/
def operation (n : Node) : Except Miss String :=
  match n.textProperty? "operation" with
  | some name => .ok name
  | none =>
    match Table.lookup n.effectiveKind defaultOperations with
    | some name => .ok name
    | none => .error (.operation n.effectiveKind)

/-- An operator whose operation is looked up. -/
def operatorChecked (s : State) (n : Node) : Except Miss Contribution := do
  let name ← operation n
  let operand := fun (i : Nat) ↦ ((n.inputs[i]?).bind (operand? s)).getD unresolved
  let result := "temp_" ++ n.id
  return {
    lines := [(0, "let " ++ result ++ " = " ++ operand 0 ++ " " ++ symbol name ++ " " ++
      operand 1 ++ ";")]
    declares := none
    output := some result
    opens := [] }

/-- What a node adds, with the lookups of its operation. -/
def contributionChecked (config : Config) (s : State) (scope : Nat) (n : Node) :
    Except Miss Contribution :=
  match emittedAs? n.effectiveKind n.category with
  | some .arithmetic | some .comparison => operatorChecked s n
  | _ => .ok (contribution config s scope n)

theorem operatorChecked_eq (s : State) {n : Node} {c : Construct}
    (h : emittedAs? n.effectiveKind n.category = some c) (hc : c.category = .operators) :
    operatorChecked s n = .ok (operator s c n) := by
  have hoperation : operation n =
      .ok ((n.textProperty? "operation").getD (defaultOperation c)) := by
    rw [operation, lookup_defaultOperations h hc]
    cases n.textProperty? "operation" <;> rfl
  rw [operatorChecked, hoperation]
  rfl

/-- What a node adds is the same with the lookups. -/
theorem contributionChecked_eq (config : Config) (s : State) (scope : Nat) (n : Node) :
    contributionChecked config s scope n = .ok (contribution config s scope n) := by
  rw [contributionChecked]
  split
  · next h => rw [operatorChecked_eq s h rfl, contribution, h]
  · next h => rw [operatorChecked_eq s h rfl, contribution, h]
  · rfl

/-! ### Blocks -/

/-- The block in a place. -/
def State.block (s : State) : Option String → Except Miss Block
  | none => .ok s.root
  | some key =>
    match s.blocks.find? key with
    | some b => .ok b
    | none => .error (.block key)

theorem State.exists_block {s : State} {place : Option String} (h : s.HasPlace place) :
    ∃ b, s.block place = .ok b ∧ b.scope = s.scopeAt place := by
  match place with
  | none => exact ⟨s.root, rfl, rfl⟩
  | some key =>
    obtain ⟨b, hb⟩ := Table.exists_find?_of_mem_keys (h key rfl)
    exact ⟨b, by rw [State.block, hb], by rw [State.scopeAt, hb]; rfl⟩

/-- Writes a node, with all lookups. -/
def writeChecked (config : Config) (connections : List Connection) (s : State) (n : Node) :
    Except Miss State := do
  let place := home s connections n.id
  let block ← s.block place
  let added ← contributionChecked config s block.scope n
  return s.apply n.id place added

/-- The state after all nodes are written, with all lookups. -/
def runChecked (config : Config) (nodes : List Node) (connections : List Connection) :
    Except Miss State :=
  (order config nodes connections).foldlM (writeChecked config connections) .start

variable {config : Config} {connections : List Connection}

/-- **Writing one node** misses nothing, if the nodes before were written into blocks that are
there. -/
theorem writeChecked_eq {s : State}
    (hhomes : ∀ id place, s.homes.find? id = some place → s.HasPlace place) (n : Node) :
    writeChecked config connections s n = .ok (write config connections s n) := by
  have hplace : s.HasPlace (home s connections n.id) := hasPlace_home hhomes n.id
  obtain ⟨b, hb, hscope⟩ := State.exists_block hplace
  rw [writeChecked, hb, write, ← hscope]
  show (contributionChecked config s b.scope n >>= _) = _
  rw [contributionChecked_eq]
  rfl

/-- **Writing all nodes** misses nothing. -/
theorem foldlM_writeChecked (nodes : List Node) :
    nodes.foldlM (writeChecked config connections) .start =
      .ok (stateAfter config connections nodes) := by
  induction nodes using List.reverseRecOn with
  | nil => rfl
  | append_singleton rest n ih =>
    rw [List.foldlM_append, ih, stateAfter_append_singleton]
    show ([n].foldlM (writeChecked config connections) (stateAfter config connections rest)) = _
    rw [List.foldlM_cons, writeChecked_eq (hasPlace_of_find?_homes rest)]
    rfl

/-- The lines of the first block under a key are gone with it. The next node that was to join them
is written into the second block. -/
example :
    let node := fun id kind ↦ Diagram.newNode id kind .empty none .origin none
    let follow := fun source pin target ↦
      (⟨"", ⟨source, pin⟩, ⟨target, "exec_in"⟩, .execution, none, .origin, .origin⟩ : Connection)
    (Export.of .default
      [node "a" "if_statement", node "b" "function_call", node "a_true" "function_def",
        node "c" "function_call"]
      [follow "a" "then" "b", follow "b" "exec_out" "c", follow "a_true" "exec_body" "c"]).blocks =
        [("a_true", [⟨"c", 2, "let call_c = func_c();"⟩]), ("a_false", [])] := by
  decide +kernel

/-! ### The text -/

/-- **No lookup misses.** Whatever the nodes and connections are and in whichever order the nodes
are written: a node is sent into the root block or into a block that is there at that moment; all
nodes that were written are recorded with such a block, at any moment; and the kind of every
operator has a default operation. So a run with all lookups gets through, and it is the run of the
export. On every machine there is a text then unless the machine refuses one of the demands of the
export, and the first refusal is all that an export can fail with. Of these demands, what is to be
logged are the values of the wrong sort of the nodes that are written, and something is to be
indented just if there is a line. -/
theorem generate_never_misses (config : Config) (nodes : List Node)
    (connections : List Connection) :
    (∀ before n after, order config nodes connections = before ++ n :: after →
      (stateAfter config connections before).HasPlace
        (home (stateAfter config connections before) connections n.id)) ∧
    (∀ before, before <+: order config nodes connections → ∀ id place,
      (stateAfter config connections before).homes.find? id = some place →
        (stateAfter config connections before).HasPlace place) ∧
    (∀ (n : Node) c, emittedAs? n.effectiveKind n.category = some c → c.category = .operators →
      Table.lookup n.effectiveKind defaultOperations = some (defaultOperation c)) ∧
    runChecked config nodes connections = .ok (run config nodes connections) ∧
    (∀ machine text, generate machine config nodes connections = .ok text ↔
      (∀ x ∈ demands config nodes connections, x.refusal? machine config = none) ∧
        text = (Export.of config nodes connections).render config) ∧
    (∀ machine fault, generate machine config nodes connections = .error fault ↔
      (demands config nodes connections).findSome? (Demand.refusal? machine config) =
        some fault) ∧
    (∀ value, .log value ∈ demands config nodes connections ↔
      ∃ n ∈ order config nodes connections, value ∈ loggedValues n) ∧
    ((∃ level, .indent level ∈ demands config nodes connections) ↔
      (order config nodes connections).flatMap extraLevels ≠ []) :=
  ⟨fun before n _ _ ↦ hasPlace_home (hasPlace_of_find?_homes before) n.id,
    fun before _ ↦ hasPlace_of_find?_homes before,
    fun _ _ h hc ↦ lookup_defaultOperations h hc,
    foldlM_writeChecked (order config nodes connections),
    fun _ _ ↦ generate_eq_ok_iff, fun _ _ ↦ generate_eq_error_iff,
    fun _ ↦ log_mem_demands_iff, exists_indent_mem_demands_iff config nodes connections⟩

/-- Not even one operator has a text if nothing can be indented, or if what is set for its operation is
nested too deep to be logged. -/
theorem generate_operator_fault :
    let machine := Machine.bounded 1000 0x10000000000
    generate machine { Config.default with indentSize := 0x8000000000000000 }
        [Diagram.newNode "a" "arithmetic" .empty none .origin none] [] = .error .sizeOutOfRange ∧
      generate machine .default
        [Diagram.newNode "a" "arithmetic" (.ofList [(.text "operation", .nested 1001)]) none .origin
          none] [] = .error (.tooDeep " while getting the repr of an object") := by
  constructor
  · decide +kernel
  · decide +kernel

end FlowCanvas.Emission
