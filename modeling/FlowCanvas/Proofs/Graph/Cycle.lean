import FlowCanvas.Diagram.Validation
import FlowCanvas.Proofs.Graph.Circuit
import FlowCanvas.Proofs.Graph.PostOrder

/-!
# The search for a cycle is exact

That an edge back onto the open path closes a cycle is shown with acyclic graphs. Here is the other
direction: a search that finds no such edge leaves no cycle behind.

The search walks as a schedule does, only forwards, so the recursion `Walk` describes it, too. The
invariant is about the order in which the walk leaves the vertices (`LeftInOrder`): a vertex is left
after every vertex that its edges lead to. Such a vertex was not open when the edge was tried, or the
search would have stopped; so it had been left before, or it was fresh and has been left since. When
everything has been entered the order lists all targets before their sources, and a graph that
allows such an order has no cycle (`acyclic_of_order`). Where the search starts makes no difference.

`Diagram.hasCycle_exact` holds the search against the circuits of a diagram and against the guard.
-/

namespace FlowCanvas.Graph

variable {α : Type} {edges : List (α × α)}

/-- A graph is acyclic if its vertices can be listed with every target before its sources. -/
theorem acyclic_of_order {out : List α} (hnodup : out.Nodup)
    (hall : ∀ u v, (u, v) ∈ edges → u ∈ out)
    (horder : ∀ before v after, out = before ++ v :: after → ∀ w, (v, w) ∈ edges → w ∈ before) :
    Acyclic edges := by
  intro u v e p
  obtain ⟨before, after, hout⟩ := List.append_of_mem (hall u v e)
  -- no edge leads out of what stands before `u`, so the path could not come back to it
  have hclosed : ∀ x y, Path edges x y → x ∈ before → y ∈ before := by
    intro x y q hx
    induction q with
    | refl => exact hx
    | step e _ ih =>
      obtain ⟨bs, as, rfl⟩ := List.append_of_mem hx
      have hy := horder bs _ (as ++ u :: after) (by rw [hout, List.append_assoc]; rfl) _ e
      exact ih (List.mem_append_left _ hy)
  have hu : u ∈ before := hclosed v u p (horder before u after hout v e)
  rw [hout, List.nodup_append] at hnodup
  exact hnodup.2.2 u hu u List.mem_cons_self rfl

variable {next : α → List α}

/-- Each vertex is listed after all that it leads on to, unless that had been left before: it is
neither fresh nor open. -/
def LeftInOrder (next : α → List α) (fresh opened out : List α) : Prop :=
  ∀ before v after, out = before ++ v :: after → ∀ w ∈ next v,
    w ∈ before ∨ (w ∉ fresh ∧ w ∉ opened)

theorem leftInOrder_nil (fresh opened : List α) : LeftInOrder next fresh opened [] := by
  intro before v after h
  simp at h

variable [DecidableEq α]

/-- A vertex is entered, all below it is left, then the vertex, and then the rest. -/
theorem LeftInOrder.enter {fresh fresh₁ opened below rest : List α} {v : α}
    (w₁ : Walk next (remove v fresh) (next v) fresh₁ below)
    (hbelow : LeftInOrder next (remove v fresh) (v :: opened) below)
    (hclosed : ∀ w ∈ next v, w ∉ v :: opened) (hrest : LeftInOrder next fresh₁ opened rest) :
    LeftInOrder next fresh opened (below ++ v :: rest) := by
  intro before x after h w hw
  rcases split_append_cons h with ⟨more, hsplit⟩ | ⟨rfl, rfl⟩ | ⟨more, rfl, hsplit⟩
  · rcases hbelow before x more hsplit w hw with hb | ⟨hf, ho⟩
    · exact Or.inl hb
    · obtain ⟨hne, ho⟩ := not_or.1 (mt List.mem_cons.2 ho)
      exact Or.inr ⟨fun hm ↦ hf (mem_remove.2 ⟨hm, hne⟩), ho⟩
  · -- what `v` leads on to is not open; what was fresh of it has been left by the walk below `v`
    obtain ⟨hne, ho⟩ := not_or.1 (mt List.mem_cons.2 (hclosed w hw))
    by_cases hf : w ∈ fresh
    · exact Or.inl (w₁.mem_of_mem_starts hw (mem_remove.2 ⟨hf, hne⟩))
    · exact Or.inr ⟨hf, ho⟩
  · rcases hrest more x after hsplit w hw with hb | ⟨hf, ho⟩
    · exact Or.inl (by simp [hb])
    · rcases w₁.mem_or_eq_of_not_mem_fresh hf with hb | rfl | hf
      · exact Or.inl (List.mem_append_left _ hb)
      · exact Or.inl (by simp)
      · exact Or.inr ⟨hf, ho⟩

/-- The search passes a neighbour only if it is not open, and then enters or skips it. -/
theorem findsLoop_frame_eq_false_iff {fresh starts rest : List α} {v u : α}
    {path : List (Frame α)} :
    findsLoop next fresh starts (⟨v, u :: rest⟩ :: path) = false ↔
      u ∉ v :: path.map Frame.vertex ∧
        (if u ∈ fresh then findsLoop next (remove u fresh) starts (⟨u, next u⟩ :: ⟨v, rest⟩ :: path)
          else findsLoop next fresh starts (⟨v, rest⟩ :: path)) = false := by
  rw [findsLoop, List.mem_cons]
  by_cases hopen : u = v ∨ u ∈ path.map Frame.vertex
  · rw [if_pos hopen]
    exact ⟨fun h ↦ absurd h.symm Bool.false_ne_true, fun h ↦ absurd hopen h.1⟩
  · rw [if_neg hopen]
    exact ⟨fun h ↦ ⟨hopen, h⟩, fun h ↦ h.2⟩

/-- While the search tries the neighbours of an open vertex and finds no edge back onto the open
path, none of them is open, and the vertices are left in order. -/
theorem Walk.leftInOrder_of_frame {fresh pending fresh' out : List α}
    (w : Walk next fresh pending fresh' out) {v : α} {starts : List α} {path : List (Frame α)}
    (h : findsLoop next fresh starts (⟨v, pending⟩ :: path) = false) :
    findsLoop next fresh' starts path = false ∧
      (∀ x ∈ pending, x ∉ v :: path.map Frame.vertex) ∧
      LeftInOrder next fresh (v :: path.map Frame.vertex) out := by
  induction w generalizing v path with
  | done =>
    rw [findsLoop] at h
    exact ⟨h, fun _ hx ↦ absurd hx List.not_mem_nil, leftInOrder_nil _ _⟩
  | skip hu _ ih =>
    obtain ⟨hopen, h⟩ := findsLoop_frame_eq_false_iff.1 h
    rw [if_neg hu] at h
    obtain ⟨hgo, hclosed, horder⟩ := ih h
    exact ⟨hgo, List.forall_mem_cons.2 ⟨hopen, hclosed⟩, horder⟩
  | enter hu w₁ _ ih₁ ih₂ =>
    obtain ⟨hopen, h⟩ := findsLoop_frame_eq_false_iff.1 h
    rw [if_pos hu] at h
    obtain ⟨hback, hbelow, horder₁⟩ := ih₁ h
    obtain ⟨hgo, hclosed, horder₂⟩ := ih₂ hback
    exact ⟨hgo, List.forall_mem_cons.2 ⟨hopen, hclosed⟩, .enter w₁ horder₁ hbelow horder₂⟩

/-- A search that finds no edge back onto the open path leaves the vertices in order. -/
theorem Walk.leftInOrder {fresh starts fresh' out : List α}
    (w : Walk next fresh starts fresh' out) (h : findsLoop next fresh starts [] = false) :
    LeftInOrder next fresh [] out := by
  induction w with
  | done => exact leftInOrder_nil _ _
  | skip hv _ ih =>
    rw [findsLoop, if_neg hv] at h
    exact ih h
  | enter hv w₁ _ _ ih₂ =>
    rw [findsLoop, if_pos hv] at h
    obtain ⟨hgo, hclosed, horder⟩ := w₁.leftInOrder_of_frame h
    exact .enter w₁ horder hclosed (ih₂ hgo)

/-- **No cycle is missed**: a graph that is not reported to have a cycle is acyclic. -/
theorem acyclic_of_hasCycle_eq_false (h : hasCycle edges = false) : Acyclic edges := by
  obtain ⟨_, out, w⟩ := exists_walk (targets edges) (vertices edges) (edges.map Prod.fst)
  have hvertex : ∀ u v, (u, v) ∈ edges → u ∈ vertices edges ∧ v ∈ vertices edges := fun u v e ↦
    ⟨mem_vertices.2 ⟨(u, v), e, Or.inl rfl⟩, mem_vertices.2 ⟨(u, v), e, Or.inr rfl⟩⟩
  refine acyclic_of_order w.nodup (fun u v e ↦ ?_) fun before v after hout w' e ↦ ?_
  · exact w.mem_of_mem_starts (List.mem_map.2 ⟨(u, v), e, rfl⟩) (hvertex u v e).1
  · rcases w.leftInOrder h before v after hout w' (mem_targets.2 e) with hb | ⟨hf, -⟩
    · exact hb
    · exact absurd (hvertex v w' e).2 hf

theorem hasCycle_eq_false_iff : hasCycle edges = false ↔ Acyclic edges :=
  ⟨acyclic_of_hasCycle_eq_false, Acyclic.hasCycle_eq_false⟩

instance : Decidable (Acyclic edges) := decidable_of_iff _ hasCycle_eq_false_iff

theorem hasCycle_eq_true_iff : hasCycle edges = true ↔ ∃ es, IsCircuit edges es := by
  rw [← Bool.not_eq_false, hasCycle_eq_false_iff, acyclic_iff_not_exists_circuit, not_not]

/-- The search finds a cycle in a graph with one more edge exactly when it found one without the
edge or the guard refuses the edge. -/
theorem hasCycle_append {s t : α} :
    hasCycle (edges ++ [(s, t)]) = (hasCycle edges || closesCycle edges s t) := by
  rw [Bool.eq_iff_iff, Bool.or_eq_true, closesCycle_eq_true_iff, ← Bool.not_eq_false,
    ← Bool.not_eq_false, hasCycle_eq_false_iff, hasCycle_eq_false_iff, acyclic_append_iff,
    not_and_or, not_not]

end FlowCanvas.Graph

namespace FlowCanvas.Diagram

/-- **The two checks agree.** Whatever a diagram holds, connections to nodes that are not there
included, it is found to have a cycle exactly when its connections have a circuit; and when one more
connection is put in past the guard, a cycle is found exactly if there was one before or the guard
would have refused the connection. -/
theorem hasCycle_exact (d : Diagram) :
    (d.hasCycle = true ↔ ∃ es, Graph.IsCircuit d.edges es) ∧
      ∀ c : Connection, (d.push c).hasCycle =
        (d.hasCycle || Graph.closesCycle d.edges c.source.node c.target.node) := by
  refine ⟨Graph.hasCycle_eq_true_iff, fun c ↦ ?_⟩
  have hedges : (d.push c).edges = d.edges ++ [(c.source.node, c.target.node)] := by
    simp [edges, push, Connection.edge]
  rw [hasCycle, hedges]
  exact Graph.hasCycle_append

end FlowCanvas.Diagram
