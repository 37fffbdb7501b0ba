import FlowCanvas.Diagram.Change
import Mathlib.Data.List.Nodup

/-!
# The shape of a node

Kind and category decide a node's pins, its declared inputs and its declared outputs. A new node has
exactly those (`newNode_isStandard`), and no operation on a diagram changes them: `SameShape` says
that two nodes differ at most in what users set on them and in what their inputs are bound to.

What the rest needs of the catalog is collected here, so that only this module looks at its entries.
A node without a catalog entry declares no inputs; where there is an entry, the n-th input pin
belongs to the n-th slot, no two pins of a node have the same id (`IsStandard.nodup_pins`), and the
slots for the flow of execution stand behind execution pins (`IsStandard.isExecution_of_slot`).
-/

namespace FlowCanvas

namespace Catalog

/-! ### Entries -/

/-- An entry that is found is that of a construct, by its own kind and category. -/
theorem exists_construct_of_find? {kind : String} {category : Option Label} {e : Entry}
    (h : find? kind category = some e) :
    ∃ c : Construct, e = entry c ∧ kind = c.key ∧ ∀ l, category = some l →
      l = .text c.category.key := by
  have hmem : e ∈ entries := List.mem_of_find?_eq_some h
  have hcond := List.find?_some h
  obtain ⟨c, -, rfl⟩ := List.mem_map.1 hmem
  rw [Bool.and_eq_true, beq_iff_eq] at hcond
  refine ⟨c, rfl, hcond.1.symm, ?_⟩
  rintro l rfl
  cases l with
  | text s => exact congrArg Label.text (beq_iff_eq.1 hcond.2)
  | whole i => exact absurd hcond.2 Bool.false_ne_true
  | decimal x => exact absurd hcond.2 Bool.false_ne_true
  | flag b => exact absurd hcond.2 Bool.false_ne_true

theorem find?_construct (c : Construct) :
    find? c.key (some (.text c.category.key)) = some (entry c) := by
  cases c <;> rfl

theorem pins_construct (c : Construct) : pins c.key (.text c.category.key) = c.pins := by
  cases c <;> rfl

/-- No entry stands in the category of nodes without one. -/
theorem find?_unknown (kind : String) : find? kind (some (.text "unknown")) = none := by
  refine List.find?_eq_none.2 fun e he hcond ↦ ?_
  obtain ⟨c, -, rfl⟩ := List.mem_map.1 he
  rw [Bool.and_eq_true] at hcond
  revert hcond
  cases c <;> exact fun hcond ↦ absurd hcond.2 (by decide)

/-- The label of a node whose kind and category have no entry leads to no entry either. -/
theorem find?_orUnknown {kind : String} {category : Option Label}
    (h : find? kind category = none) : find? kind (some (Label.orUnknown category)) = none := by
  cases category with
  | none => exact find?_unknown kind
  | some l =>
    rw [Label.orUnknown]
    split
    · exact find?_unknown kind
    · exact h

/-- The pins of a kind have different ids. -/
theorem nodup_pins (kind : String) (category : Label) :
    ((pins kind category).map Pin.id).Nodup := by
  have hc : ∀ c : Construct, (c.pins.map Pin.id).Nodup := by
    intro c
    cases c <;> decide
  rw [pins]
  split
  · exact hc _
  · exact List.nodup_nil

end Catalog

/-! ### Standard nodes -/

/-- The node has the pins, inputs and outputs that its kind and category give it. -/
structure Node.IsStandard (n : Node) : Prop where
  configKind : n.configKind = n.kind
  pins : n.pins = Catalog.pins n.kind n.category
  slots : n.slots = ((Catalog.find? n.kind (some n.category)).map Entry.inputs).getD []
  outputs : n.outputs = ((Catalog.find? n.kind (some n.category)).map Entry.outputs).getD []

/-- Two nodes differ at most in what users set on them and in their bindings. -/
structure Node.SameShape (n m : Node) : Prop where
  id : n.id = m.id
  kind : n.kind = m.kind
  configKind : n.configKind = m.configKind
  category : n.category = m.category
  pins : n.pins = m.pins
  outputs : n.outputs = m.outputs
  slots : n.slots = m.slots

namespace Node

theorem SameShape.refl (n : Node) : n.SameShape n := ⟨rfl, rfl, rfl, rfl, rfl, rfl, rfl⟩

theorem SameShape.symm {n m : Node} (h : n.SameShape m) : m.SameShape n :=
  ⟨h.id.symm, h.kind.symm, h.configKind.symm, h.category.symm, h.pins.symm, h.outputs.symm,
    h.slots.symm⟩

theorem SameShape.trans {n m k : Node} (h : n.SameShape m) (h' : m.SameShape k) : n.SameShape k :=
  ⟨h.id.trans h'.id, h.kind.trans h'.kind, h.configKind.trans h'.configKind,
    h.category.trans h'.category, h.pins.trans h'.pins, h.outputs.trans h'.outputs,
    h.slots.trans h'.slots⟩

theorem SameShape.isStandard {n m : Node} (h : n.SameShape m) (hm : m.IsStandard) :
    n.IsStandard where
  configKind := by rw [h.configKind, h.kind, hm.configKind]
  pins := by rw [h.pins, h.kind, h.category, hm.pins]
  slots := by rw [h.slots, h.kind, h.category, hm.slots]
  outputs := by rw [h.outputs, h.kind, h.category, hm.outputs]

theorem SameShape.inputPins {n m : Node} (h : n.SameShape m) : n.inputPins = m.inputPins := by
  rw [Node.inputPins, h.pins, Node.inputPins]

theorem SameShape.isExecution {n m : Node} (h : n.SameShape m) (pin : String) :
    n.isExecution pin = m.isExecution pin := by
  rw [Node.isExecution, Node.pin?, h.pins]
  rfl

/-- A node with an entry is a node of a construct; all others declare no inputs. -/
theorem IsStandard.slots_eq_nil_or {n : Node} (h : n.IsStandard) :
    n.slots = [] ∨ ∃ c : Construct, n.kind = c.key ∧ n.category = .text c.category.key ∧
      n.slots = Catalog.inputs c ∧ n.pins = c.pins := by
  cases he : Catalog.find? n.kind (some n.category) with
  | none => exact Or.inl (by rw [h.slots, he]; rfl)
  | some e =>
    obtain ⟨c, rfl, hkind, hcategory⟩ := Catalog.exists_construct_of_find? he
    have hl := hcategory n.category rfl
    refine Or.inr ⟨c, hkind, hl, by rw [h.slots, he]; rfl, ?_⟩
    rw [h.pins, hkind, hl, Catalog.pins_construct]

theorem IsStandard.nodup_pins {n : Node} (h : n.IsStandard) : (n.pins.map Pin.id).Nodup :=
  h.pins ▸ Catalog.nodup_pins n.kind n.category

theorem IsStandard.nodup_inputPins {n : Node} (h : n.IsStandard) :
    (n.inputPins.map Pin.id).Nodup :=
  h.nodup_pins.sublist (List.filter_sublist.map _)

/-- Where no two pins have the same id, the pin with an id is the one that has it. -/
theorem pin?_id {n : Node} (h : (n.pins.map Pin.id).Nodup) {p : Pin} (hp : p ∈ n.pins) :
    n.pin? p.id = some p := by
  cases hq : n.pin? p.id with
  | none => exact absurd (List.find?_eq_none.1 hq p hp) (by simp)
  | some q =>
    have hid : q.id = p.id := by simpa using List.find?_some hq
    rw [List.inj_on_of_nodup_map h (List.mem_of_find?_eq_some hq) hp hid]

/-- Behind a slot for the flow of execution stands an execution pin. -/
theorem IsStandard.isExecution_of_slot {n : Node} (h : n.IsStandard) {i : Nat} {p : Pin}
    (hslot : n.slots[i]? = some "execution") (hp : n.inputPins[i]? = some p) :
    n.isExecution p.id = true := by
  have hmem : p ∈ n.pins := List.mem_of_mem_filter (List.mem_of_getElem? hp)
  -- a name is looked up among all pins, and finds this one
  rw [isExecution, pin?_id h.nodup_pins hmem]
  rcases h.slots_eq_nil_or with hnil | ⟨c, -, -, hslots, hpins⟩
  · rw [hnil] at hslot
    exact absurd hslot (by simp)
  · rw [inputPins, hpins] at hp
    rw [hslots] at hslot
    -- only the first input of a construct is ever for the flow of execution
    have hfirst : i = 0 := by
      revert hslot
      cases c <;> rcases i with _ | _ | i <;> simp [Catalog.inputs]
    subst hfirst
    revert hslot hp
    cases c <;> simp [Catalog.inputs, Construct.pins, Pin.exec, Pin.value] <;> rintro rfl <;> rfl

/-- The names of slots are short. -/
theorem IsStandard.length_slot_lt {n : Node} (h : n.IsStandard) {slot : String}
    (hslot : slot ∈ n.slots) : slot.length < 17 := by
  have hall : ∀ c : Construct, ∀ name ∈ Catalog.inputs c, name.length < 17 := by
    intro c
    cases c <;> decide
  rcases h.slots_eq_nil_or with hnil | ⟨c, -, -, hslots, -⟩
  · rw [hnil] at hslot
    exact absurd hslot List.not_mem_nil
  · exact hall c slot (hslots ▸ hslot)

/-! ### Operations that keep the shape -/

theorem sameShape_reset (n : Node) : n.reset.SameShape n := ⟨rfl, rfl, rfl, rfl, rfl, rfl, rfl⟩

theorem sameShape_bindIfPossible (n : Node) (pin producer : String) :
    (n.bindIfPossible pin producer).SameShape n := by
  rw [bindIfPossible, bind]
  cases n.slotIndex? pin with
  | none => exact .refl n
  | some i =>
    by_cases hi : i < n.inputs.length
    · simp only [hi, if_true]
      exact ⟨rfl, rfl, rfl, rfl, rfl, rfl, rfl⟩
    · simp only [hi, if_false]
      exact .refl n

theorem reset_bindIfPossible (n : Node) (pin producer : String) :
    (n.bindIfPossible pin producer).reset = n.reset := by
  rw [bindIfPossible, bind]
  cases n.slotIndex? pin with
  | none => rfl
  | some i =>
    by_cases hi : i < n.inputs.length
    · simp only [hi, if_true]
      rfl
    · simp only [hi, if_false]

/-- A change replaces a name, a position or properties, and nothing else. -/
theorem sameShape_of_change {n m : Node} {c : Change} (h : n.change c = .ok m) :
    m.SameShape n ∧ m.inputs = n.inputs := by
  cases c with
  | name v =>
    obtain rfl := Except.ok.inj h
    exact ⟨⟨rfl, rfl, rfl, rfl, rfl, rfl, rfl⟩, rfl⟩
  | other field =>
    obtain rfl := Except.ok.inj h
    exact ⟨.refl n, rfl⟩
  | position v =>
    obtain ⟨_, -, h⟩ := exists_of_bind_eq_ok h
    obtain ⟨_, -, h⟩ := exists_of_bind_eq_ok h
    obtain ⟨_, -, h⟩ := exists_of_bind_eq_ok h
    obtain ⟨_, -, h⟩ := exists_of_bind_eq_ok h
    obtain rfl := Except.ok.inj h
    exact ⟨⟨rfl, rfl, rfl, rfl, rfl, rfl, rfl⟩, rfl⟩
  | properties v | config v | settings _ _ v =>
    obtain ⟨_, -, h⟩ := exists_of_bind_eq_ok h
    obtain rfl := Except.ok.inj h
    exact ⟨⟨rfl, rfl, rfl, rfl, rfl, rfl, rfl⟩, rfl⟩

theorem sameShape_changeAll (n : Node) (cs : List Change) :
    (n.changeAll cs).1.SameShape n ∧ (n.changeAll cs).1.inputs = n.inputs := by
  induction cs generalizing n with
  | nil => exact ⟨.refl n, rfl⟩
  | cons c rest ih =>
    rw [changeAll]
    cases h : n.change c with
    | error f => exact ⟨.refl n, rfl⟩
    | ok m =>
      have hm := sameShape_of_change h
      exact ⟨(ih m).1.trans hm.1, (ih m).2.trans hm.2⟩

end Node

namespace Diagram

/-- The category that a new node is given leads to the entry that it was made from. -/
theorem find?_category_newNode (id kind : String) (properties : Properties)
    (name : Option String) (position : Point) (category : Option Label) :
    Catalog.find? kind (some (newNode id kind properties name position category).category) =
      Catalog.find? kind category := by
  cases he : Catalog.find? kind category with
  | none =>
    simp only [newNode, Node.complete, he]
    exact Catalog.find?_orUnknown he
  | some e =>
    obtain ⟨c, rfl, rfl, -⟩ := Catalog.exists_construct_of_find? he
    simp only [newNode, Node.complete, he]
    exact Catalog.find?_construct c

/-- **A new node is standard.** -/
theorem newNode_isStandard (id kind : String) (properties : Properties)
    (name : Option String) (position : Point) (category : Option Label) :
    (newNode id kind properties name position category).IsStandard where
  configKind := by
    by_cases hk : kind.isEmpty = true
    · exact if_pos hk
    · exact if_neg hk
  pins := rfl
  slots := by
    show ((Catalog.find? kind category).map Entry.inputs).getD [] = _
    rw [← find?_category_newNode id kind properties name position category]
    rfl
  outputs := by
    show ((Catalog.find? kind category).map Entry.outputs).getD [] = _
    rw [← find?_category_newNode id kind properties name position category]
    rfl

/-- The inputs of a new node are bound to nothing. -/
theorem inputs_newNode (id kind : String) (properties : Properties)
    (name : Option String) (position : Point) (category : Option Label) :
    (newNode id kind properties name position category).inputs =
      (newNode id kind properties name position category).slots := rfl

end Diagram

end FlowCanvas
