import FlowCanvas.Proofs.Graph.Cycle

/-!
# What validation reports

What could be wrong with the structure of a diagram can be listed in advance: each end of each
connection could be missing, the source before the target, and the connections could go round in a
circle (`Diagram.suspicions`). Validation goes through this list and reports what is true
(`Diagram.problems_exact`). So every fault is reported, once for each connection that has it, and
nothing else is, in the order of the connections and with the circle last.

Whether a suspicion is true is said of the diagram and not of a search (`Diagram.Has`). That matters
for the circle, which may lead through ends that are missing. No assumption is made on the diagram:
connections may have been put in past all checks, and the search for a circle is exact on every list
of edges (`Graph.hasCycle_eq_true_iff`).
-/

namespace FlowCanvas

/-- What could be wrong with the ends of a connection. -/
def Connection.suspicions (c : Connection) : List Problem :=
  [.missingSource c.id c.source.node, .missingTarget c.id c.target.node]

namespace Diagram

/-- What could be wrong with a diagram. -/
def suspicions (d : Diagram) : List Problem :=
  d.connections.flatMap Connection.suspicions ++ [.circular]

/-- Is a suspicion true? An end is missing if no node stands under its id, and the connections go
round in a circle if some of them form a circuit. -/
def Has (d : Diagram) : Problem → Prop
  | .missingSource _ node | .missingTarget _ node => node ∉ d.nodes.keys
  | .circular => ∃ es, Graph.IsCircuit d.edges es

instance (d : Diagram) : DecidablePred d.Has
  | .missingSource _ node | .missingTarget _ node =>
    inferInstanceAs (Decidable (node ∉ d.nodes.keys))
  | .circular => decidable_of_iff (d.hasCycle = true) Graph.hasCycle_eq_true_iff

variable {d : Diagram}

/-- A check that reports one fault, and does so just if the fault is there. -/
theorem ite_eq_filter_of_has_iff {c : Prop} [Decidable c] {p : Problem} (h : d.Has p ↔ c) :
    (if c then [p] else []) = [p].filter fun p ↦ d.Has p := by
  by_cases hc : c
  · have hhas : d.Has p := h.2 hc
    rw [if_pos hc, List.filter_cons_of_pos (by simpa using hhas), List.filter_nil]
  · have hno : ¬ d.Has p := mt h.1 hc
    rw [if_neg hc, List.filter_cons_of_neg (by simpa using hno), List.filter_nil]

variable (d)

/-- Of a connection exactly the ends that are missing are reported. -/
theorem missingEnds_eq_filter (c : Connection) :
    d.missingEnds c = c.suspicions.filter fun p ↦ d.Has p := by
  have hend : ∀ (node : String) (p : Problem), (d.Has p ↔ node ∉ d.nodes.keys) →
      (if d.nodes.contains node then [] else [p]) = [p].filter fun p ↦ d.Has p := by
    intro node p hp
    rw [← ite_not]
    exact ite_eq_filter_of_has_iff (hp.trans (not_congr Table.contains_iff).symm)
  rw [missingEnds, hend c.source.node (.missingSource c.id c.source.node) Iff.rfl,
    hend c.target.node (.missingTarget c.id c.target.node) Iff.rfl, ← List.filter_append]
  rfl

theorem problems_eq_filter : d.problems = d.suspicions.filter fun p ↦ d.Has p := by
  have hends : d.connections.flatMap d.missingEnds =
      (d.connections.flatMap Connection.suspicions).filter fun p ↦ d.Has p := by
    rw [List.filter_flatMap]
    exact List.flatMap_congr fun c _ ↦ d.missingEnds_eq_filter c
  have hcircle : (if d.hasCycle then [Problem.circular] else []) =
      [Problem.circular].filter fun p ↦ d.Has p :=
    ite_eq_filter_of_has_iff Graph.hasCycle_eq_true_iff.symm
  rw [problems, hends, hcircle, suspicions, List.filter_append]

/-- **Validation reports exactly what is wrong**, whatever the diagram: of all suspicions, in their
order, those that are true. Those against an end name its node and its connection, and a diagram
passes just if every connection ends on nodes that are there and none lie on a circle. -/
theorem problems_exact :
    d.problems = d.suspicions.filter (fun p ↦ d.Has p) ∧
      d.suspicions.map (fun p ↦ (p.message, p.connection?)) =
        (d.connections.flatMap fun c ↦
          [("Connection references missing source node: " ++ c.source.node, some c.id),
            ("Connection references missing target node: " ++ c.target.node, some c.id)]) ++
          [("Model contains circular dependencies", none)] ∧
      (d.problems = [] ↔ Graph.Acyclic d.edges ∧ ∀ c ∈ d.connections,
        c.source.node ∈ d.nodes.keys ∧ c.target.node ∈ d.nodes.keys) := by
  refine ⟨d.problems_eq_filter, ?_, ?_⟩
  · rw [suspicions, List.map_append, List.map_flatMap]
    rfl
  · have hnil : d.problems = [] ↔ ∀ p ∈ d.suspicions, ¬ d.Has p := by
      simp only [problems_eq_filter, List.filter_eq_nil_iff, decide_eq_true_iff]
    rw [hnil, suspicions, List.forall_mem_append, List.forall_mem_flatMap, and_comm]
    refine and_congr ?_ (forall₂_congr fun c _ ↦ ?_)
    · rw [List.forall_mem_singleton]
      exact Graph.acyclic_iff_not_exists_circuit.symm
    · rw [Connection.suspicions, List.forall_mem_cons, List.forall_mem_singleton]
      exact and_congr not_not not_not

end Diagram

end FlowCanvas
