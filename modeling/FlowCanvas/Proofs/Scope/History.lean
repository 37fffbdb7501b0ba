import FlowCanvas.Proofs.Scope.Lookup

/-!
# Scopes and their history

Scopes are opened inside others and names are declared in them, in any order: a name may be
declared again, and a scope may be declared into long after others were opened inside it. What a
name means in a scope is told by this history alone. `parent?` reads off it where a scope lies, and
`declared?` which type a scope gave to a name last. To look a name up is to follow the first
outwards (`Outward`) until the second has an answer (`Feasible.lookup_nearest`).

`Records` says that a tree holds what its history tells. Each of the two operations keeps it
(`Records.child`, `Records.declare`), so it holds after every history that is feasible, that is, in
which nothing is done to a scope before it is opened.
-/

namespace FlowCanvas.ScopeTree

/-- What can be done to the scopes of a program. -/
inductive Operation where
  | child (parent : Nat)
  | declare (scope : Nat) (name type : String)

/-- The scope that an operation is done to. -/
def Operation.scope : Operation → Nat
  | child parent => parent
  | declare scope .. => scope

/-- The scopes after an operation. -/
def perform (t : ScopeTree) : Operation → ScopeTree
  | .child parent => (t.child parent).1
  | .declare scope name type => t.declare scope name type

/-- The scopes after several operations. -/
def performAll (t : ScopeTree) (ops : List Operation) : ScopeTree := ops.foldl perform t

/-- Is everything that a series of operations does done to a scope that is there by then? -/
def Feasible (t : ScopeTree) : List Operation → Prop
  | [] => True
  | op :: rest => op.scope < t.size ∧ Feasible (t.perform op) rest

instance decidableFeasible : (t : ScopeTree) → DecidablePred (Feasible t)
  | _, [] => inferInstanceAs (Decidable True)
  | t, op :: rest =>
    have := decidableFeasible (t.perform op) rest
    inferInstanceAs (Decidable (op.scope < t.size ∧ Feasible (t.perform op) rest))

/-! ### What a history tells -/

/-- The scope in which an operation opens another one. -/
def Operation.opensIn? : Operation → Option Nat
  | child parent => some parent
  | declare .. => none

/-- The type that an operation declares a name with in a scope, if it declares that name there. -/
def Operation.declares? (scope : Nat) (name : String) : Operation → Option String
  | child _ => none
  | declare target name' type => if scope = target ∧ name = name' then some type else none

/-- The scopes in which others were opened, in order. -/
def parents (ops : List Operation) : List Nat := ops.filterMap Operation.opensIn?

/-- The scope around a scope: the one it was opened in. Nothing lies around the first scope. -/
def parent? (ops : List Operation) : Nat → Option Nat
  | 0 => none
  | i + 1 => (parents ops)[i]?

/-- The type that was declared last for a name in a scope. -/
def declared? (ops : List Operation) (scope : Nat) (name : String) : Option String :=
  (ops.filterMap (Operation.declares? scope name)).getLast?

/-- The scopes from one scope outwards: each was opened in the next, and the last is the first of
all. -/
inductive Outward (ops : List Operation) : Nat → List Nat → Prop
  | root : Outward ops 0 [0]
  | inner {scope parent : Nat} {rest : List Nat} (hparent : parent? ops scope = some parent)
      (hrest : Outward ops parent rest) : Outward ops scope (scope :: rest)

/-- On a way outwards one comes to a scope, and none before it declares the name. -/
def SeenFrom (ops : List Operation) (name : String) (path : List Nat) (scope : Nat) : Prop :=
  scope ∈ path ∧ ∀ i ∈ path.takeWhile (· ≠ scope), declared? ops i name = none

instance (ops : List Operation) (name : String) (path : List Nat) :
    DecidablePred (SeenFrom ops name path) := fun _ ↦ inferInstanceAs (Decidable (_ ∧ _))

variable {ops : List Operation} {t : ScopeTree} {scope : Nat} {path : List Nat}

theorem parents_append_child (ops : List Operation) (parent : Nat) :
    parents (ops ++ [.child parent]) = parents ops ++ [parent] := List.filterMap_append

theorem parents_append_declare (ops : List Operation) (scope : Nat) (name type : String) :
    parents (ops ++ [.declare scope name type]) = parents ops :=
  List.filterMap_append.trans (List.append_nil _)

/-- Opening a scope leaves what is around the others. -/
theorem parent?_append_child (ops : List Operation) (parent : Nat) {i : Nat}
    (h : i ≤ (parents ops).length + 1) : parent? (ops ++ [.child parent]) i =
      if i = (parents ops).length + 1 then some parent else parent? ops i := by
  cases i with
  | zero => rfl
  | succ i =>
    rw [parent?, parent?, parents_append_child]
    split
    · next hi =>
      obtain rfl := Nat.succ.inj hi
      exact List.getElem?_concat_length
    · next hi =>
      exact List.getElem?_append_left (Nat.lt_of_succ_lt_succ (Nat.lt_of_le_of_ne h hi))

/-- Declaring a name leaves the scopes where they are. -/
theorem parent?_append_declare (ops : List Operation) (scope : Nat) (name type : String) :
    parent? (ops ++ [.declare scope name type]) = parent? ops := by
  funext i
  cases i with
  | zero => rfl
  | succ i => rw [parent?, parent?, parents_append_declare]

theorem declared?_append_singleton (ops : List Operation) (op : Operation) (scope : Nat)
    (name : String) : declared? (ops ++ [op]) scope name =
      (op.declares? scope name).or (declared? ops scope name) := by
  rw [declared?, List.filterMap_append, List.getLast?_append, List.filterMap_cons]
  cases op.declares? scope name <;> rfl

theorem declared?_append_child (ops : List Operation) (parent scope : Nat) (name : String) :
    declared? (ops ++ [.child parent]) scope name = declared? ops scope name := by
  rw [declared?_append_singleton, Operation.declares?, Option.none_or]

theorem declared?_append_declare (ops : List Operation) (target : Nat) (name type : String)
    (scope : Nat) (other : String) : declared? (ops ++ [.declare target name type]) scope other =
      if scope = target ∧ other = name then some type else declared? ops scope other := by
  rw [declared?_append_singleton, Operation.declares?]
  split <;> rfl

/-- Where nothing was done nothing is declared. -/
theorem declared?_eq_none (h : ∀ op ∈ ops, op.scope ≠ scope) (name : String) :
    declared? ops scope name = none := by
  have hnone : ∀ op ∈ ops, op.declares? scope name = none := by
    intro op hop
    cases op with
    | child parent => rfl
    | declare target name' type => exact if_neg fun hs ↦ h _ hop hs.1.symm
  rw [declared?, List.filterMap_eq_nil_iff.2 hnone]
  rfl

/-- There is one way outwards. -/
theorem Outward.unique {others : List Nat} (h : Outward ops scope path)
    (h' : Outward ops scope others) : path = others := by
  induction h generalizing others with
  | root =>
    cases h' with
    | root => rfl
    | inner hparent _ => cases hparent
  | inner hparent _ ih =>
    cases h' with
    | root => cases hparent
    | inner hparent' hrest' =>
      obtain rfl := Option.some.inj (hparent.symm.trans hparent')
      rw [ih hrest']

theorem Outward.of_parent?_eq {more : List Operation} (h : Outward ops scope path)
    (hparent : parent? more = parent? ops) : Outward more scope path := by
  induction h with
  | root => exact .root
  | inner hscope _ ih => exact .inner (hparent ▸ hscope) ih

/-! ### What a tree holds -/

/-- A tree holds what its history tells: each scope with the one around it and with the last type of
each name. -/
structure Records (ops : List Operation) (t : ScopeTree) : Prop where
  ordered : t.Ordered
  size_eq : t.size = (parents ops).length + 1
  scope_lt : ∀ op ∈ ops, op.scope < t.size
  parent_eq : ∀ i s, t.scope? i = some s → s.parent = parent? ops i
  find?_eq : ∀ i s, t.scope? i = some s → ∀ name, s.bindings.find? name = declared? ops i name

theorem records_root : Records [] root where
  ordered := ordered_root
  size_eq := rfl
  scope_lt := nofun
  parent_eq i s hs := by
    obtain ⟨rfl, rfl⟩ := eq_of_scope?_root hs
    rfl
  find?_eq i s hs name := by
    obtain ⟨rfl, rfl⟩ := eq_of_scope?_root hs
    rfl

theorem Records.child (h : Records ops t) {parent : Nat} (hparent : parent < t.size) :
    Records (ops ++ [.child parent]) (t.child parent).1 where
  ordered := h.ordered.child hparent
  size_eq := by
    rw [size_child, h.size_eq, parents_append_child, List.length_append, List.length_singleton]
  scope_lt := by
    rw [size_child, List.forall_mem_append, List.forall_mem_singleton]
    exact ⟨fun op hop ↦ Nat.lt_succ_of_lt (h.scope_lt op hop), Nat.lt_succ_of_lt hparent⟩
  parent_eq i s hs := by
    have hi : i ≤ (parents ops).length + 1 := by
      rw [← h.size_eq]
      exact Nat.le_of_lt_succ (lt_size_of_scope? hs)
    rw [scope?_child] at hs
    rw [parent?_append_child ops parent hi, ← h.size_eq]
    split at hs
    · next hsize =>
      obtain rfl := Option.some.inj hs
      rw [if_pos hsize]
    · next hsize => rw [if_neg hsize, h.parent_eq i s hs]
  find?_eq i s hs name := by
    rw [scope?_child] at hs
    rw [declared?_append_child]
    split at hs
    · next hi =>
      -- nothing has been done to the scope that is opened only now
      obtain rfl := Option.some.inj hs
      rw [declared?_eq_none fun op hop ↦ hi ▸ Nat.ne_of_lt (h.scope_lt op hop)]
      rfl
    · exact h.find?_eq i s hs name

theorem Records.declare (h : Records ops t) (hscope : scope < t.size) (name type : String) :
    Records (ops ++ [.declare scope name type]) (t.declare scope name type) := by
  refine ⟨h.ordered.declare scope name type, ?_, ?_, ?_, ?_⟩
  · rw [size_declare, h.size_eq, parents_append_declare]
  · rw [size_declare, List.forall_mem_append, List.forall_mem_singleton]
    exact ⟨h.scope_lt, hscope⟩
  · intro i s hs
    rw [scope?_declare] at hs
    obtain ⟨s', hs', rfl⟩ := Option.map_eq_some_iff.1 hs
    rw [parent?_append_declare, ← h.parent_eq i s' hs']
    split <;> rfl
  · intro i s hs other
    rw [scope?_declare] at hs
    obtain ⟨s', hs', rfl⟩ := Option.map_eq_some_iff.1 hs
    rw [declared?_append_declare, ← h.find?_eq i s' hs']
    by_cases hi : i = scope
    · simp only [hi, if_true, true_and, Table.find?_insert]
    · simp only [hi, if_false, false_and]

theorem Records.performAll (h : Records ops t) {more : List Operation} (hmore : t.Feasible more) :
    Records (ops ++ more) (t.performAll more) := by
  induction more generalizing ops t with
  | nil =>
    rw [List.append_nil]
    exact h
  | cons op rest ih =>
    obtain ⟨hop, hrest⟩ := hmore
    have hstep : Records (ops ++ [op]) (t.perform op) := by
      cases op with
      | child parent => exact h.child hop
      | declare scope name type => exact h.declare hop name type
    rw [List.append_cons]
    exact ih hstep hrest

/-! ### Looking a name up -/

/-- From each scope there is a way outwards. -/
theorem Records.exists_outward (h : Records ops t) (hscope : scope < t.size) :
    ∃ path, Outward ops scope path := by
  induction scope using Nat.strongRecOn with
  | _ scope ih =>
    cases scope with
    | zero => exact ⟨[0], .root⟩
    | succ i =>
      obtain ⟨s, hs⟩ := exists_scope?_of_lt hscope
      have hi : i < (parents ops).length := by
        rw [h.size_eq] at hscope
        exact Nat.lt_of_succ_lt_succ hscope
      have hparent : parent? ops (i + 1) = some (parents ops)[i] := List.getElem?_eq_getElem hi
      have hlt := h.ordered _ s _ hs ((h.parent_eq _ s hs).trans hparent)
      obtain ⟨rest, hrest⟩ := ih _ hlt (Nat.lt_trans hlt hscope)
      exact ⟨_, .inner hparent hrest⟩

/-- A name is looked up along the way outwards. -/
theorem Records.lookup_eq (h : Records ops t) (hpath : Outward ops scope path)
    (hscope : scope < t.size) (name : String) :
    t.lookup scope name = path.findSome? (declared? ops · name) := by
  induction hpath with
  | root =>
    obtain ⟨s, hs⟩ := exists_scope?_of_lt hscope
    rw [h.ordered.lookup_eq hs, h.find?_eq _ s hs, h.parent_eq _ s hs, List.findSome?_cons]
    cases declared? ops 0 name <;> rfl
  | @inner scope parent rest hparent _ ih =>
    obtain ⟨s, hs⟩ := exists_scope?_of_lt hscope
    have hsparent := (h.parent_eq _ s hs).trans hparent
    have hlt := h.ordered _ s _ hs hsparent
    rw [h.ordered.lookup_eq hs, h.find?_eq _ s hs, hsparent, Option.bind_some,
      ih (Nat.lt_trans hlt hscope), List.findSome?_cons]
    cases declared? ops scope name <;> rfl

theorem seenFrom_cons {name : String} {i target : Nat} :
    SeenFrom ops name (i :: path) target ↔
      i = target ∨ declared? ops i name = none ∧ SeenFrom ops name path target := by
  by_cases hi : i = target
  · simp [SeenFrom, hi]
  · rw [SeenFrom, SeenFrom, List.mem_cons, List.takeWhile_cons_of_pos (by simpa using hi),
      List.forall_mem_cons, or_iff_right (Ne.symm hi), or_iff_right hi, and_left_comm]

/-- One more declaration is what is found where it is seen, and makes no difference elsewhere. -/
theorem findSome?_append_declare (ops : List Operation) (target : Nat) (name type other : String)
    (path : List Nat) :
    path.findSome? (declared? (ops ++ [.declare target name type]) · other) =
      if other = name ∧ SeenFrom ops name path target then some type
      else path.findSome? (declared? ops · other) := by
  simp only [declared?_append_declare]
  by_cases hname : other = name
  · subst hname
    simp only [and_true, true_and]
    induction path with
    | nil => exact (if_neg fun h ↦ List.not_mem_nil h.1).symm
    | cons i rest ih =>
      rw [List.findSome?_cons, List.findSome?_cons]
      by_cases hi : i = target
      · rw [if_pos hi, if_pos (seenFrom_cons.2 (.inl hi))]
      · rw [if_neg hi, ih]
        cases hd : declared? ops i other <;> simp [seenFrom_cons, hi, hd]
  · simp only [hname, and_false, false_and, if_false]

/-- **A name has the type of its nearest binding.** Let scopes have been opened and names declared
in any order, each time in a scope that was there. From a scope there is one way outwards, from each
scope to the one it was opened in. A name has there the type that was last declared for it in the
first scope on the way that declares it, and no type if none does. One more declaration, in whatever
scope, is found from where one comes to that scope before any that declares the name, and it makes
no difference to any other lookup. -/
theorem Feasible.lookup_nearest (h : root.Feasible ops)
    (hscope : scope < (root.performAll ops).size) :
    ∃ path, (∀ others, Outward ops scope others ↔ others = path) ∧
      (∀ name, (root.performAll ops).lookup scope name =
        path.findSome? (declared? ops · name)) ∧
      (∀ name, (root.performAll ops).lookup scope name = none ↔
        ∀ i ∈ path, declared? ops i name = none) ∧
      ∀ target, target < (root.performAll ops).size → ∀ name type other,
        ((root.performAll ops).declare target name type).lookup scope other =
          if other = name ∧ SeenFrom ops name path target then some type
          else (root.performAll ops).lookup scope other := by
  have hrecords : Records ops (root.performAll ops) := records_root.performAll h
  obtain ⟨path, hpath⟩ := hrecords.exists_outward hscope
  have hlookup := hrecords.lookup_eq hpath hscope
  refine ⟨path, fun others ↦ ⟨fun hothers ↦ hothers.unique hpath, ?_⟩, hlookup, ?_, ?_⟩
  · rintro rfl
    exact hpath
  · intro name
    rw [hlookup, List.findSome?_eq_none_iff]
  · intro target htarget name type other
    have hnext := hrecords.declare htarget name type
    have hsame := hpath.of_parent?_eq (parent?_append_declare ops target name type)
    rw [hnext.lookup_eq hsame (by rwa [size_declare]), findSome?_append_declare, hlookup]

/-- A name that is declared again in the first scope has its new type also further in, until a scope
in between declares it. A scope beside the way has no say. -/
theorem exists_lookup_after_redeclaring :
    ∃ ops path, root.Feasible ops ∧ 2 < (root.performAll ops).size ∧ Outward ops 2 path ∧
      path.map (declared? ops · "x") = [none, none, some "f64"] ∧
      (root.performAll ops).lookup 2 "x" = some "f64" ∧
      ((root.performAll ops).declare 1 "x" "String").lookup 2 "x" = some "String" ∧
      ((root.performAll ops).declare 3 "x" "String").lookup 2 "x" = some "f64" := by
  let ops : List Operation := [.child 0, .declare 0 "x" "i32", .child 1, .declare 1 "y" "bool",
    .child 0, .declare 3 "x" "u8", .declare 0 "x" "f64"]
  have hops : root.Feasible ops := by decide +kernel
  have hscope : 2 < (root.performAll ops).size := by decide +kernel
  have hpath : Outward ops 2 [2, 1, 0] := .inner rfl (.inner rfl .root)
  obtain ⟨path, hunique, hlookup, -, hdeclare⟩ := hops.lookup_nearest hscope
  obtain rfl := (hunique _).1 hpath
  have hx : (root.performAll ops).lookup 2 "x" = some "f64" := by
    rw [hlookup]
    decide +kernel
  refine ⟨ops, _, hops, hscope, hpath, by decide +kernel, hx, ?_, ?_⟩
  · rw [hdeclare 1 (by decide +kernel), if_pos (by decide +kernel)]
  · rw [hdeclare 3 (by decide +kernel), if_neg (by decide +kernel), hx]

end FlowCanvas.ScopeTree
