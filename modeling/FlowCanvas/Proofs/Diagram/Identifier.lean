import FlowCanvas.Diagram.Basic

/-!
# Ids of nodes

Nodes are drawn under ids of one form, and so of one length. That is what keeps an id apart from
the name of a slot, which is shorter, and from being found inside another id.
-/

namespace FlowCanvas

/-- The text has the form of a node's id: `node_` and twelve hexadecimal digits. -/
def IsNodeId (id : String) : Prop :=
  ∃ digits : List Char, digits.length = 12 ∧ digits.all ("0123456789abcdef".toList.contains ·) ∧
    id = "node_" ++ String.ofList digits

theorem isNodeId_iff {id : String} : IsNodeId id ↔ id.toList.take 5 = "node_".toList ∧
    (id.toList.drop 5).length = 12 ∧
    (id.toList.drop 5).all ("0123456789abcdef".toList.contains ·) := by
  constructor
  · rintro ⟨digits, hlength, hall, rfl⟩
    rw [String.toList_append, String.toList_ofList (l := digits)]
    exact ⟨rfl, hlength, hall⟩
  · rintro ⟨hstart, hlength, hall⟩
    refine ⟨id.toList.drop 5, hlength, hall, ?_⟩
    refine String.toList_inj.1 ((List.take_append_drop 5 id.toList).symm.trans ?_)
    rw [hstart, String.toList_append, String.toList_ofList (l := id.toList.drop 5)]

instance : DecidablePred IsNodeId := fun _ ↦ decidable_of_iff _ isNodeId_iff.symm

theorem IsNodeId.length {id : String} (h : IsNodeId id) : id.length = 17 := by
  obtain ⟨digits, hlength, -, rfl⟩ := h
  have hdigits : (String.ofList digits).length = 12 := by rw [String.length_ofList, hlength]
  rw [String.length_append, hdigits]
  rfl

/-- As ids have one length, what stands behind an id can be told from it. -/
theorem IsNodeId.append_inj {id id' suffix suffix' : String} (h : IsNodeId id) (h' : IsNodeId id')
    (heq : id ++ suffix = id' ++ suffix') : id = id' ∧ suffix = suffix' := by
  have hlists : id.toList ++ suffix.toList = id'.toList ++ suffix'.toList := by
    rw [← String.toList_append, ← String.toList_append, heq]
  have hlength : id.toList.length = id'.toList.length := by
    rw [String.length_toList, String.length_toList, h.length, h'.length]
  obtain ⟨hid, hsuffix⟩ := List.append_inj hlists hlength
  exact ⟨String.toList_inj.1 hid, String.toList_inj.1 hsuffix⟩

/-- All nodes stand under ids of that form. -/
def Diagram.HasNodeIds (d : Diagram) : Prop := ∀ k ∈ d.nodes.keys, IsNodeId k

instance (d : Diagram) : Decidable d.HasNodeIds :=
  inferInstanceAs (Decidable (∀ k ∈ d.nodes.keys, IsNodeId k))

theorem Diagram.HasNodeIds.put {d : Diagram} (h : d.HasNodeIds) {n : Node} (hid : IsNodeId n.id) :
    (d.put n).HasNodeIds := by
  intro k hk
  rw [Diagram.put, Table.keys_insert] at hk
  split at hk
  · exact h k hk
  · rcases List.mem_append.1 hk with hk | hk
    · exact h k hk
    · exact List.mem_singleton.1 hk ▸ hid

end FlowCanvas
