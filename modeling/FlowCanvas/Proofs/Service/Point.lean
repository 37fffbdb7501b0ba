import FlowCanvas.Proofs.Service.Reading

/-!
# What is read as a point

A point is asked for as an object with `x` and `y` or as an array of two items. `IsPair` says which
values give two others as coordinates, in terms of what the values are and not of how they are gone
through, and there is one way more: a text of two characters gives each of them as a text.

Every value is read, is at fault or is rejected. It is told for each of the three when it is the
outcome (`readPoint_eq_ok_iff`, `readPoint_eq_fault_iff`, `readPoint_eq_rejected_iff`), and the main
statement puts them together (`readPoint_exact`). Faults come from one cause alone, a whole number
beyond the largest double, which has nothing to do with the shape of the value.
-/

namespace FlowCanvas.Service

/-! ### Values with two coordinates -/

/-- A value gives two others as its coordinates. -/
inductive IsPair : Json → Json → Json → Prop where
  /-- An object has them as members, among others. -/
  | object {members : List (String × Json)} {a b : Json}
    (hx : Table.lookup "x" members = some a) (hy : Table.lookup "y" members = some b) :
    IsPair (.obj members) a b
  /-- An array has them as its items. -/
  | array (a b : Json) : IsPair (.arr [a, b]) a b
  /-- A text of two characters falls apart into them. -/
  | text {s : String} {c d : Char} (hs : s.toList = [c, d]) :
    IsPair (.str s) (.str (String.singleton c)) (.str (String.singleton d))

/-- **The coordinates of a value** are there just if it gives two. -/
theorem coordinates_eq_pair_iff {v a b : Json} :
    coordinates v = [some a, some b] ↔ IsPair v a b := by
  constructor
  · intro h
    cases v with
    | obj members =>
      rw [coordinates, List.cons.injEq, List.cons.injEq] at h
      exact .object h.1 h.2.1
    | arr items =>
      rcases items with _ | ⟨a', _ | ⟨b', _ | ⟨c', rest⟩⟩⟩
      · cases h
      · cases h
      · cases h
        exact .array a b
      · cases h
    | str s =>
      simp only [coordinates, Json.items?, Json.characters] at h
      rcases hs : s.toList with _ | ⟨c, _ | ⟨d, _ | ⟨e, rest⟩⟩⟩ <;> rw [hs] at h
      · cases h
      · cases h
      · cases h
        exact .text hs
      · cases h
    | null | bool flag | int i | float x => cases h
  · intro h
    cases h with
    | object hx hy => rw [coordinates, hx, hy]
    | array => rfl
    | text hs => simp only [coordinates, Json.items?, Json.characters, hs, List.map]

/-! ### Reading -/

/-- Reads coordinates one after the other. -/
def readCoordinates (field : String) : List (Option Json) → Except Failure Point
  | [some a, some b] => do
    return ⟨← readNumber (.notPoint field) a, ← readNumber (.notPoint field) b⟩
  | [some a, none] => do
    let _ ← readNumber (.notPoint field) a
    .error (.rejected (.notPoint field))
  | _ => .error (.rejected (.notPoint field))

/-- **Reading a point** depends on the coordinates alone. -/
theorem readPoint_eq (field : String) (v : Json) :
    readPoint field v = readCoordinates field (coordinates v) := by
  cases v with
  | obj members =>
    rw [readPoint, coordinates]
    cases Table.lookup "x" members with
    | none => rfl
    | some x => cases Table.lookup "y" members <;> rfl
  | arr items => rcases items with _ | ⟨a, _ | ⟨b, _ | ⟨c, rest⟩⟩⟩ <;> rfl
  | str s =>
    simp only [readPoint, coordinates, Json.items?]
    rcases Json.characters s with _ | ⟨a, _ | ⟨b, _ | ⟨c, rest⟩⟩⟩ <;> rfl
  | null | bool flag | int i | float x => rfl

theorem readNumber_eq_ok_iff {r : Rejection} {v : Json} {x : Float} :
    readNumber r v = .ok x ↔ v.toFloat = .ok x := by
  rw [readNumber]
  split
  · next y hy => rw [hy, Except.ok.injEq, Except.ok.injEq]
  · next hf => simp [hf]
  · next hf => simp [hf]

/-- Of a number there is only one way to be at fault, and one to be rejected. -/
theorem eq_of_readNumber_eq_error {r : Rejection} {v : Json} {e : Failure}
    (h : readNumber r v = .error e) : e = .fault .integerTooLarge ∨ e = .rejected r := by
  rw [readNumber] at h
  split at h
  · cases h
  · exact Or.inl (Except.error.inj h).symm
  · exact Or.inr (Except.error.inj h).symm

/-- **A point is read** from a value that gives two numbers, in this order. -/
theorem readPoint_eq_ok_iff {field : String} {v : Json} {p : Point} :
    readPoint field v = .ok p ↔
      ∃ a b, IsPair v a b ∧ a.toFloat = .ok p.x ∧ b.toFloat = .ok p.y := by
  rw [readPoint_eq]
  constructor
  · intro h
    rw [readCoordinates.eq_def] at h
    split at h
    · next a b hv =>
      obtain ⟨x, hx, h⟩ := exists_of_bind_eq_ok h
      obtain ⟨y, hy, h⟩ := exists_of_bind_eq_ok h
      obtain rfl := Except.ok.inj h
      exact ⟨a, b, coordinates_eq_pair_iff.1 hv, readNumber_eq_ok_iff.1 hx,
        readNumber_eq_ok_iff.1 hy⟩
    · obtain ⟨x, hx, h⟩ := exists_of_bind_eq_ok h
      exact absurd h nofun
    · exact absurd h nofun
  · rintro ⟨a, b, hv, hx, hy⟩
    rw [coordinates_eq_pair_iff.2 hv, readCoordinates, readNumber_eq_ok_iff.2 hx,
      readNumber_eq_ok_iff.2 hy]
    rfl

/-- If one step after the other fails, it is the first or the second that does. -/
theorem eq_error_or_of_bind_eq_error {ε α β : Type} {x : Except ε α} {f : α → Except ε β} {e : ε}
    (h : (x >>= f) = .error e) : x = .error e ∨ ∃ a, f a = .error e := by
  cases x with
  | error e' => exact Or.inl (congrArg Except.error (Except.error.inj h))
  | ok a => exact Or.inr ⟨a, h⟩

/-- **All failures** of reading a point: a number beyond the largest double is a fault, and
everything else a rejection that names the field. -/
theorem eq_of_readPoint_eq_error {field : String} {v : Json} {e : Failure}
    (h : readPoint field v = .error e) :
    e = .fault .integerTooLarge ∨ e = .rejected (.notPoint field) := by
  rw [readPoint_eq, readCoordinates.eq_def] at h
  split at h
  · rcases eq_error_or_of_bind_eq_error h with h | ⟨x, h⟩
    · exact eq_of_readNumber_eq_error h
    · rcases eq_error_or_of_bind_eq_error h with h | ⟨y, h⟩
      · exact eq_of_readNumber_eq_error h
      · exact absurd h nofun
  · rcases eq_error_or_of_bind_eq_error h with h | ⟨x, h⟩
    · exact eq_of_readNumber_eq_error h
    · exact Or.inr (Except.error.inj h).symm
  · exact Or.inr (Except.error.inj h).symm

/-- Reading a point is at fault just if it comes to a number beyond the largest double. -/
theorem readPoint_eq_fault_iff {field : String} {v : Json} {f : Fault} :
    readPoint field v = .error (.fault f) ↔ f = .integerTooLarge ∧ Overflows (coordinates v) := by
  constructor
  · intro h
    rcases eq_of_readPoint_eq_error h with heq | heq
    · exact ⟨Failure.fault.inj heq, faults_readPoint_iff.1 ⟨f, h⟩⟩
    · exact absurd heq nofun
  · rintro ⟨rfl, hover⟩
    obtain ⟨g, hg⟩ := faults_readPoint_iff.2 hover
    rcases eq_of_readPoint_eq_error hg with heq | heq
    · exact heq ▸ hg
    · exact absurd heq nofun

/-- Whatever is neither read nor at fault is rejected, and nothing else is. -/
theorem readPoint_eq_rejected_iff {field : String} {v : Json} {r : Rejection} :
    readPoint field v = .error (.rejected r) ↔ r = .notPoint field ∧
      (∀ a b, IsPair v a b → ¬ (IsNumber a ∧ IsNumber b)) ∧ ¬ Overflows (coordinates v) := by
  constructor
  · intro h
    rcases eq_of_readPoint_eq_error h with heq | heq
    · exact absurd heq nofun
    · refine ⟨Failure.rejected.inj heq, ?_, fun hover ↦ ?_⟩
      · rintro a b hpair ⟨⟨x, hx⟩, y, hy⟩
        have hread : readPoint field v = .ok ⟨x, y⟩ :=
          readPoint_eq_ok_iff.2 ⟨a, b, hpair, hx, hy⟩
        exact absurd (hread.symm.trans h) nofun
      · have hread : readPoint field v = .error (.fault .integerTooLarge) :=
          readPoint_eq_fault_iff.2 ⟨rfl, hover⟩
        exact absurd (hread.symm.trans h) nofun
  · rintro ⟨rfl, hnone, hover⟩
    cases hread : readPoint field v with
    | ok p =>
      obtain ⟨a, b, hpair, hx, hy⟩ := readPoint_eq_ok_iff.1 hread
      exact absurd ⟨⟨_, hx⟩, ⟨_, hy⟩⟩ (hnone a b hpair)
    | error e =>
      rcases eq_of_readPoint_eq_error hread with rfl | rfl
      · exact absurd (readPoint_eq_fault_iff.1 hread).2 hover
      · rfl

/-- **What is a point** and what is not. A value is read just if it gives two numbers, and the point
has these two, in order. It is at fault just if it is gone through up to a number beyond the largest
double. In all other cases, and in no others, it is rejected, and the rejection carries the
field. -/
theorem readPoint_exact (field : String) (v : Json) :
    (∀ p, readPoint field v = .ok p ↔
      ∃ a b, IsPair v a b ∧ a.toFloat = .ok p.x ∧ b.toFloat = .ok p.y) ∧
    (∀ f, readPoint field v = .error (.fault f) ↔
      f = .integerTooLarge ∧ Overflows (coordinates v)) ∧
    (∀ r, readPoint field v = .error (.rejected r) ↔ r = .notPoint field ∧
      (∀ a b, IsPair v a b → ¬ (IsNumber a ∧ IsNumber b)) ∧ ¬ Overflows (coordinates v)) ∧
    (Rejection.notPoint field).field? = some field :=
  ⟨fun _ ↦ readPoint_eq_ok_iff, fun _ ↦ readPoint_eq_fault_iff,
    fun _ ↦ readPoint_eq_rejected_iff, rfl⟩

/-- A text of two digits is taken for a point, and a number beyond the largest double is a fault. -/
theorem exists_readPoint_text :
    (∃ s p, readPoint "position" (.str s) = .ok p) ∧
    ∃ items, readPoint "position" (.arr items) = .error (.fault .integerTooLarge) := by
  have hone : ∃ x, Json.toFloat (.str (String.singleton '1')) = .ok x := by
    obtain ⟨x, hx⟩ := Option.isSome_iff_exists.1
      (show (Number.readFloat? (String.singleton '1')).isSome = true by decide +kernel)
    exact ⟨x, by rw [Json.toFloat, hx]⟩
  obtain ⟨x, hx⟩ := hone
  have hpair : IsPair (.str "11") (.str (String.singleton '1')) (.str (String.singleton '1')) :=
    .text rfl
  have hhuge : IsHuge (.int (10 ^ 400)) := ⟨10 ^ 400, rfl, by decide +kernel⟩
  refine ⟨⟨"11", ⟨x, x⟩, ?_⟩, [.int (10 ^ 400), .int 0], ?_⟩
  · exact ((readPoint_exact "position" (.str "11")).1 ⟨x, x⟩).2 ⟨_, _, hpair, hx, hx⟩
  · exact ((readPoint_exact "position" (.arr [.int (10 ^ 400), .int 0])).2.1 _).2
      ⟨rfl, Or.inl hhuge⟩

end FlowCanvas.Service
