import FlowCanvas.Proofs.Emission.Blocks

/-!
# What can keep an export from its text

An export has a text unless the machine refuses one of its demands, and then it fails with the first
of these refusals (`generate_eq_ok_iff`, `generate_eq_error_iff`). The demands are known from what the
nodes write: each node asks for its values of the wrong sort to be logged and then for its lines to be
indented (`Writing.demands`), and in the end the closing braces are indented and the text is held
(`demands_eq`). So a value is logged just if a node with it is written (`log_mem_demands_iff`).
-/

namespace FlowCanvas.Emission

variable {machine : Machine} {config : Config} {nodes : List Node} {connections : List Connection}

/-! ### The demands of a run -/

/-- What is asked of the machine for something to be written. -/
def Writing.demands (w : Writing) : List Demand :=
  (loggedValues w.node).map .log ++ w.lines.map fun l ↦ .indent l.level

theorem runDemands_eq (s : State) (nodes : List Node) :
    runDemands config connections s nodes =
      (writings config connections s nodes).flatMap Writing.demands := by
  induction nodes generalizing s with
  | nil => rfl
  | cons n rest ih =>
    rw [runDemands, ih, writings, List.flatMap_cons]
    rfl

/-- **The demands of an export** are those of what its nodes write, and then those of the braces and
of the text. -/
theorem demands_eq (config : Config) (nodes : List Node) (connections : List Connection) :
    demands config nodes connections =
      (writings config connections .start (order config nodes connections)).flatMap
          Writing.demands ++
        ((List.range (Export.of config nodes connections).depth).reverse.map .indent ++
          [.hold ((Export.of config nodes connections).render config)]) := by
  rw [← runDemands_eq]
  rfl

/-- A value is logged just if it is a value of the wrong sort on a node that is written. -/
theorem log_mem_demands_iff {value : Json} : .log value ∈ demands config nodes connections ↔
    ∃ n ∈ order config nodes connections, value ∈ loggedValues n := by
  have hrun : .log value ∈ demands config nodes connections ↔
      .log value ∈ (writings config connections .start (order config nodes connections)).flatMap
        Writing.demands := by
    rw [demands_eq]
    simp
  have hnode : ∀ w : Writing, .log value ∈ w.demands ↔ value ∈ loggedValues w.node := by
    intro w
    rw [Writing.demands]
    simp
  have hnodes : (writings config connections .start (order config nodes connections)).map
      Writing.node = order config nodes connections := map_node_writings .start _
  rw [hrun, List.mem_flatMap]
  constructor
  · rintro ⟨w, hw, hvalue⟩
    have hmem := List.mem_map_of_mem (f := Writing.node) hw
    rw [hnodes] at hmem
    exact ⟨w.node, hmem, (hnode w).1 hvalue⟩
  · rintro ⟨n, hn, hvalue⟩
    rw [← hnodes] at hn
    obtain ⟨w, hw, rfl⟩ := List.mem_map.1 hn
    exact ⟨w, hw, (hnode w).2 hvalue⟩

/-! ### Texts and refusals -/

/-- **There is a text** just if nothing is refused, and it is the export in text. -/
theorem generate_eq_ok_iff {text : String} :
    generate machine config nodes connections = .ok text ↔
      (∀ x ∈ demands config nodes connections, x.refusal? machine config = none) ∧
        text = (Export.of config nodes connections).render config := by
  rw [generate, ← List.findSome?_eq_none_iff]
  cases (demands config nodes connections).findSome? (Demand.refusal? machine config) with
  | none =>
    constructor
    · intro h
      exact ⟨rfl, (Except.ok.inj h).symm⟩
    · rintro ⟨-, rfl⟩
      rfl
  | some f => exact iff_of_false nofun fun h ↦ absurd h.1 nofun

/-- **There is no text** just if something is refused, and the first refusal says why. -/
theorem generate_eq_error_iff {fault : Fault} :
    generate machine config nodes connections = .error fault ↔
      (demands config nodes connections).findSome? (Demand.refusal? machine config) =
        some fault := by
  rw [generate]
  cases (demands config nodes connections).findSome? (Demand.refusal? machine config) with
  | none => exact iff_of_false nofun nofun
  | some f => exact ⟨fun h ↦ congrArg some (Except.error.inj h),
      fun h ↦ congrArg Except.error (Option.some.inj h)⟩

end FlowCanvas.Emission
