import FlowCanvas.Scope

/-!
# Looking a name up

A lookup walks from a scope towards the root, and it walks down the list of scopes, which has the
older ones behind the newer. The two are the same only as long as every scope lies inside an older
one (`ScopeTree.Ordered`), as it does in trees that are grown by opening scopes (`Ordered.child`,
`Ordered.declare`). In such a tree a scope answers for a name itself, or hands over to its parent
(`Ordered.lookup_eq`), and nothing about the list is left to see.
-/

namespace FlowCanvas.ScopeTree

/-- The scope with a number. -/
def scope? (t : ScopeTree) (i : Nat) : Option Scope := t.scopes.reverse[i]?

/-- Every scope lies inside an older one, if inside any. -/
def Ordered (t : ScopeTree) : Prop :=
  ∀ i s p, t.scope? i = some s → s.parent = some p → p < i

variable {t : ScopeTree} {i : Nat} {s : Scope}

theorem lt_size_of_scope? (h : t.scope? i = some s) : i < t.size := by
  obtain ⟨hlt, -⟩ := List.getElem?_eq_some_iff.1 h
  rwa [List.length_reverse] at hlt

theorem exists_scope?_of_lt (h : i < t.size) : ∃ s, t.scope? i = some s := by
  have hi : i < t.scopes.reverse.length := by rwa [List.length_reverse]
  exact ⟨_, List.getElem?_eq_getElem hi⟩

/-- The newest scope comes last in the numbering. -/
theorem scope?_cons (s : Scope) (older : List Scope) (i : Nat) :
    scope? ⟨s :: older⟩ i = if i = older.length then some s else scope? ⟨older⟩ i := by
  rw [scope?, scope?, List.reverse_cons]
  rcases Nat.lt_trichotomy i older.length with hlt | rfl | hgt
  · rw [List.getElem?_append_left (by rwa [List.length_reverse]), if_neg (Nat.ne_of_lt hlt)]
  · rw [← List.length_reverse, List.getElem?_concat_length, if_pos rfl]
  · have hlength : older.reverse.length ≤ i := by
      rw [List.length_reverse]
      exact Nat.le_of_lt hgt
    have hlength' : (older.reverse ++ [s]).length ≤ i := by
      rw [List.length_append, List.length_reverse]
      exact hgt
    rw [if_neg (Nat.ne_of_gt hgt), List.getElem?_eq_none hlength, List.getElem?_eq_none hlength']

theorem scope?_child (t : ScopeTree) (parent i : Nat) :
    (t.child parent).1.scope? i =
      if i = t.size then some ⟨.empty, some parent⟩ else t.scope? i :=
  scope?_cons _ t.scopes i

/-- Declaring a name changes the bindings of one scope, and nothing else. -/
theorem scope?_declare (t : ScopeTree) (scope : Nat) (name type : String) (i : Nat) :
    (t.declare scope name type).scope? i = (t.scope? i).map fun s ↦
      if i = scope then { s with bindings := s.bindings.insert name type } else s := by
  obtain ⟨scopes⟩ := t
  show scope? ⟨declareIn scope name type scopes⟩ i = _
  induction scopes with
  | nil => rfl
  | cons s older ih =>
    rw [scope?_cons, declareIn]
    by_cases hscope : older.length = scope
    · rw [if_pos hscope, scope?_cons]
      by_cases hi : i = older.length
      · rw [if_pos hi, if_pos hi, Option.map_some, if_pos (hi.trans hscope)]
      · rw [if_neg hi, if_neg hi]
        have hne : i ≠ scope := fun h ↦ hi (h.trans hscope.symm)
        simp only [if_neg hne, Option.map_id']
    · rw [if_neg hscope, scope?_cons, length_declareIn]
      by_cases hi : i = older.length
      · rw [if_pos hi, if_pos hi, Option.map_some, if_neg fun h ↦ hscope (hi.symm.trans h)]
      · rw [if_neg hi, if_neg hi, ih]

/-! ### Trees that are grown -/

theorem eq_of_scope?_root (h : root.scope? i = some s) : i = 0 ∧ s = ⟨.empty, none⟩ := by
  rw [root, scope?_cons] at h
  split at h
  · next hi => exact ⟨hi, (Option.some.inj h).symm⟩
  · cases h

theorem ordered_root : root.Ordered := by
  intro i s p hs hp
  obtain ⟨-, rfl⟩ := eq_of_scope?_root hs
  cases hp

theorem Ordered.child (h : t.Ordered) {parent : Nat} (hparent : parent < t.size) :
    (t.child parent).1.Ordered := by
  intro i s p hs hp
  rw [scope?_child] at hs
  split at hs
  · next hi =>
    obtain rfl := Option.some.inj hs
    obtain rfl := Option.some.inj hp
    rwa [hi]
  · exact h i s p hs hp

theorem Ordered.declare (h : t.Ordered) (scope : Nat) (name type : String) :
    (t.declare scope name type).Ordered := by
  intro i s p hs hp
  rw [scope?_declare] at hs
  obtain ⟨s', hs', rfl⟩ := Option.map_eq_some_iff.1 hs
  refine h i s' p hs' ?_
  split at hp <;> exact hp

/-! ### The walk towards the root -/

theorem lookupIn_cons_of_ne {name : String} {older : List Scope} (h : i ≠ older.length) :
    lookupIn name i (s :: older) = lookupIn name i older := by
  rw [lookupIn, if_neg h.symm]

/-- **A scope answers for a name** with what it binds, and hands over to its parent otherwise. -/
theorem Ordered.lookup_eq (h : t.Ordered) (hs : t.scope? i = some s) (name : String) :
    t.lookup i name = (s.bindings.find? name).or (s.parent.bind fun p ↦ t.lookup p name) := by
  obtain ⟨scopes⟩ := t
  show lookupIn name i scopes = (s.bindings.find? name).or (s.parent.bind (lookupIn name · scopes))
  induction scopes with
  | nil => cases hs
  | cons newest older ih =>
    -- the parent is older than the newest scope, so the walk can pass that one by
    have hparent : (s.parent.bind (lookupIn name · (newest :: older))) =
        s.parent.bind (lookupIn name · older) := by
      cases hp : s.parent with
      | none => rfl
      | some p =>
        have hlt : p < i := h i s p hs hp
        have hi := Nat.lt_succ_iff.1 (lt_size_of_scope? hs)
        exact lookupIn_cons_of_ne (Nat.ne_of_lt (Nat.lt_of_lt_of_le hlt hi))
    rw [hparent]
    rw [scope?_cons] at hs
    split at hs
    · next hi =>
      obtain rfl := Option.some.inj hs
      rw [lookupIn, if_pos hi.symm]
      cases newest.bindings.find? name with
      | none => cases newest.parent <;> rfl
      | some type => rfl
    · next hi =>
      have holder : Ordered ⟨older⟩ := by
        intro j s' p hs' hp
        have hlt : j < older.length := lt_size_of_scope? hs'
        refine h j s' p ?_ hp
        rw [scope?_cons, if_neg (Nat.ne_of_lt hlt), hs']
      rw [lookupIn_cons_of_ne hi]
      exact ih holder hs

end FlowCanvas.ScopeTree
