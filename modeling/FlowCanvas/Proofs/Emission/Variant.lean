import FlowCanvas.Emission.Construct
import FlowCanvas.Proofs.Diagram.Shape

/-!
# Variants of a construct

A kind that is not in the catalog can still have the kind of a construct inside it, as `nested_loop`
has. It is a variant then, and two tables say of which construct: `emittedAs?` says what it is
written as, `Catalog.pinnedAs?` whose pins it gets.

Both look through the constructs of its category one after the other, but not in the same order.
That matters only for a kind with two constructs inside it, where each table takes the one that it
comes to first (`contained?_swap`). Such a declaration and assignment have the same pins, which
leaves one case: a variant of a call that has a definition inside it as well is written as a call
and gets the pins of a definition (`pins_eq_iff_of_emittedAs?`).
-/

namespace FlowCanvas

/-- A category goes by its name only. -/
theorem Category.eq_text_of_ofLabel? {l : Label} {c : Category} (h : ofLabel? l = some c) :
    l = .text c.key := by
  rw [ofLabel?] at h
  have hkey := List.find?_some h
  match l with
  | .text s => exact congrArg Label.text (beq_iff_eq.1 hkey)

namespace Catalog

theorem contained?_pair (kind : String) (a b : Construct) :
    contained? kind [a, b] = if Text.occurs a.key kind then some a
      else if Text.occurs b.key kind then some b else none := by
  simp only [contained?, List.find?_cons, List.find?_nil]
  split <;> split <;> simp [*]

/-- **In the other order** the same construct is found, unless the one that comes first now is
inside the kind. -/
theorem contained?_swap {kind : String} {a b c : Construct} (h : contained? kind [a, b] = some c) :
    contained? kind [b, a] = some (if Text.occurs b.key kind then b else c) := by
  rw [contained?_pair] at h ⊢
  split
  · rfl
  · next hb =>
    rw [if_neg hb] at h
    exact h

end Catalog

namespace Emission

/-- What is found for a node's category is a construct of the category. -/
theorem category_of_emittedAs? {kind : String} {category : Label} {c : Construct}
    (h : emittedAs? kind category = some c) : Category.ofLabel? category = some c.category := by
  have hfound : ∀ {p : Construct → Bool} {a b : Construct}, [a, b].find? p = some c →
      c = a ∨ c = b := fun h ↦ List.mem_pair.1 (List.mem_of_find?_eq_some h)
  rw [emittedAs?] at h
  cases hof : Category.ofLabel? category with
  | none =>
    rw [hof] at h
    cases h
  | some name =>
    rw [hof] at h
    cases name <;> rcases hfound h with rfl | rfl <;> rfl

/-- The construct whose pins a node gets is the one that it is written as, or the other one of its
category where that is looked for first. -/
theorem pinnedAs?_of_emittedAs? {kind : String} {category : Label} {c : Construct}
    (h : emittedAs? kind category = some c) :
    Catalog.pinnedAs? kind category = some (match c.category with
      | .controlFlow => c
      | .bindings => if Text.occurs Construct.letDeclaration.key kind then .letDeclaration else c
      | .functions => if Text.occurs Construct.functionDef.key kind then .functionDef else c
      | .operators => .arithmetic) := by
  have hof := category_of_emittedAs? h
  rw [emittedAs?, hof] at h
  rw [Catalog.pinnedAs?, hof]
  cases hc : c.category with
  | controlFlow =>
    rw [hc] at h
    exact h
  | bindings =>
    rw [hc] at h
    exact Catalog.contained?_swap h
  | functions =>
    rw [hc] at h
    exact Catalog.contained?_swap h
  | operators => rfl

/-- The pins that a node gets are those of the construct that it is written as, or of a definition
where a call has one inside its kind. Of the other constructs two have the same pins wherever they
are looked for in different orders. -/
theorem pins_of_emittedAs? {kind : String} {category : Label} {c : Construct}
    (h : emittedAs? kind category = some c) :
    Catalog.pins kind category =
      if c = .functionCall ∧ Text.occurs Construct.functionDef.key kind = true
        then Construct.functionDef.pins else c.pins := by
  rw [Catalog.pins, pinnedAs?_of_emittedAs? h]
  cases c with
  | functionCall =>
    dsimp only [Construct.category]
    split
    · next hdef => exact (if_pos ⟨rfl, hdef⟩).symm
    · next hdef => exact (if_neg fun hboth ↦ hdef hboth.2).symm
  | letDeclaration | assignment | functionDef =>
    refine Eq.trans ?_ (if_neg fun hboth ↦ absurd hboth.1 (by decide)).symm
    dsimp only [Construct.category]
    split <;> rfl
  | ifStatement | loop | arithmetic | comparison =>
    exact (if_neg fun hboth ↦ absurd hboth.1 (by decide)).symm

/-- **A variant has the pins of what it is written as**, those that the construct itself has in the
catalog, with one exception: what is written as a call has the pins of a definition if the kind of
a definition is inside its kind too. -/
theorem pins_eq_iff_of_emittedAs? {kind : String} {category : Label} {c : Construct}
    (h : emittedAs? kind category = some c) :
    category = .text c.category.key ∧
    (Catalog.pins kind category = Catalog.pins c.key (.text c.category.key) ↔
      ¬(c = .functionCall ∧ Text.occurs Construct.functionDef.key kind = true)) ∧
    (c = .functionCall → Text.occurs Construct.functionDef.key kind = true →
      Catalog.pins kind category = Construct.functionDef.pins) := by
  rw [Catalog.pins_construct, pins_of_emittedAs? h]
  refine ⟨Category.eq_text_of_ofLabel? (category_of_emittedAs? h), ⟨?_, fun hone ↦ if_neg hone⟩,
    fun hcall hdef ↦ if_pos ⟨hcall, hdef⟩⟩
  intro hpins hboth
  rw [if_pos hboth, hboth.1] at hpins
  exact absurd hpins (by decide)

/-- A nested loop has the pins of a loop. A call of a definition is written as a call, and it has
the pins of a definition. -/
theorem exists_pins_of_definition :
    Catalog.pins "nested_loop" (.text "control_flow") = Construct.loop.pins ∧
    ∃ kind, emittedAs? kind (.text "functions") = some .functionCall ∧
      Catalog.pins kind (.text "functions") = Construct.functionDef.pins ∧
      Catalog.pins kind (.text "functions") ≠ Construct.functionCall.pins := by
  have hloop : emittedAs? "nested_loop" (.text "control_flow") = some .loop := by decide +kernel
  have hcall : emittedAs? "function_def_function_call" (.text "functions") =
      some .functionCall := by decide +kernel
  have hdef : Text.occurs Construct.functionDef.key "function_def_function_call" = true := by
    decide +kernel
  obtain ⟨-, hloop', -⟩ := pins_eq_iff_of_emittedAs? hloop
  obtain ⟨-, hcall', hpins⟩ := pins_eq_iff_of_emittedAs? hcall
  refine ⟨hloop'.2 (fun h ↦ absurd h.1 nofun), _, hcall, hpins rfl hdef, fun heq ↦ ?_⟩
  exact hcall'.1 heq ⟨rfl, hdef⟩

end Emission

end FlowCanvas
