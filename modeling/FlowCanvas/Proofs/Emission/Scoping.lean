import FlowCanvas.Proofs.Emission.DataFlow
import FlowCanvas.Proofs.Emission.Layout
import FlowCanvas.Proofs.Scope.Lookup

/-!
# Scoping in an export

The type of a variable is looked up in the scopes that an export builds up as it goes. Scopes go on
changing after others were opened inside them, the blocks that they belong to are written by turns,
and blocks and scopes know of each other by number only. What comes out is lexical scoping. Around a
block lie the blocks that its opener was written into, that one's opener, and so on out to the root
block (`Outward`), and the type of a name is that of its last declaration in the nearest of these
that has one (`State.HasScopesOf.exists_outward`). The last declaration is the last one written so
far, be it before or after the inner blocks were opened.

`State.HasScopesOf` says what the scopes of a state have to do with what was written. One step is two
changes, each of which keeps it: a node declares its variable (`State.HasScopesOf.declare`), and it
opens blocks (`State.HasScopesOf.openBlock`).
-/

namespace FlowCanvas

namespace Emission

/-! ### Declarations and the blocks around them -/

/-- The variable that a node declares, with its type, if the node is a declaration. -/
def declared? (config : Config) (n : Node) : Option (String × String) :=
  match emittedAs? n.effectiveKind n.category with
  | some .letDeclaration => some ((n.textProperty? "name").getD ("var_" ++ n.id),
      (n.textProperty? "type").getD config.defaultType)
  | _ => none

/-- The type that a node declares a name with, if it declares that name. -/
def declaredType? (config : Config) (n : Node) (name : String) : Option String :=
  ((declared? config n).filter (·.1 = name)).map Prod.snd

/-- The type in the last declaration of a name that is written into a block. -/
def lastType? (config : Config) (ws : List Writing) (place : Option String) (name : String) :
    Option String :=
  ((ws.filter (·.place = place)).filterMap fun w ↦ declaredType? config w.node name).getLast?

/-- The blocks from one block outwards: each was opened by a node that was written into the next,
and the last is the root block. -/
inductive Outward (ws : List Writing) : Option String → List (Option String) → Prop
  | root : Outward ws none [none]
  | inner {key : String} {opener : Writing} {rest : List (Option String)} (hmem : opener ∈ ws)
      (hkey : key ∈ openedBy opener.node) (hrest : Outward ws opener.place rest) :
      Outward ws (some key) (some key :: rest)

theorem declares_contribution (config : Config) (s : State) (scope : Nat) (n : Node) :
    (contribution config s scope n).declares = declared? config n := by
  rw [contribution, declared?]
  cases emittedAs? n.effectiveKind n.category with
  | none => rfl
  | some c => cases c <;> rfl

theorem lastType?_append_singleton (config : Config) (ws : List Writing) (w : Writing)
    (place : Option String) (name : String) :
    lastType? config (ws ++ [w]) place name =
      if place = w.place then (declaredType? config w.node name).or (lastType? config ws place name)
      else lastType? config ws place name := by
  rw [lastType?, List.filter_append, List.filterMap_append, List.getLast?_append]
  by_cases h : place = w.place
  · have hlast : [w].filter (·.place = place) = [w] :=
      List.filter_cons_of_pos (decide_eq_true h.symm)
    rw [if_pos h, hlast, List.filterMap_cons]
    cases declaredType? config w.node name <;> rfl
  · have hlast : [w].filter (·.place = place) = [] :=
      List.filter_cons_of_neg (by simpa using Ne.symm h)
    rw [if_neg h, hlast]
    rfl

theorem lastType?_eq_none {config : Config} {ws : List Writing} {place : Option String}
    (h : ∀ w ∈ ws, w.place ≠ place) (name : String) : lastType? config ws place name = none := by
  rw [lastType?, filter_place_eq_nil h]
  rfl

section Outward

variable {ws : List Writing} {place inner : Option String} {blocks around : List (Option String)}

/-- If no block is opened twice, a key tells what opened its block. -/
theorem eq_of_mem_openedBy (hnodup : (ws.flatMap fun w ↦ openedBy w.node).Nodup) {v w : Writing}
    (hv : v ∈ ws) (hw : w ∈ ws) {key : String} (hkey : key ∈ openedBy v.node)
    (hkey' : key ∈ openedBy w.node) : v = w := by
  by_contra hne
  have hsymm : Std.Symm (Function.onFun List.Disjoint fun w : Writing ↦ openedBy w.node) :=
    ⟨fun _ _ h ↦ h.symm⟩
  exact (List.nodup_flatMap.1 hnodup).2.forall hv hw hne hkey hkey'

/-- There is one way outwards. -/
theorem Outward.unique (hnodup : (ws.flatMap fun w ↦ openedBy w.node).Nodup)
    (h : Outward ws place blocks) (h' : Outward ws place around) : blocks = around := by
  induction h generalizing around with
  | root =>
    cases h'
    rfl
  | @inner key opener rest hmem hkey hrest ih =>
    cases h' with
    | inner hmem' hkey' hrest' =>
      obtain rfl := eq_of_mem_openedBy hnodup hmem hmem' hkey hkey'
      rw [ih hrest']

/-- From a block on the way, the way goes on as it does. -/
theorem Outward.exists_suffix (h : Outward ws place blocks) (hmem : inner ∈ blocks) :
    ∃ rest, Outward ws inner rest ∧ rest <:+ blocks := by
  induction h with
  | root =>
    obtain rfl := List.mem_singleton.1 hmem
    exact ⟨[none], .root, List.suffix_refl _⟩
  | @inner key opener rest hopener hkey hrest ih =>
    rcases List.mem_cons.1 hmem with rfl | hmem
    · exact ⟨_, .inner hopener hkey hrest, List.suffix_refl _⟩
    · obtain ⟨more, hmore, hsuffix⟩ := ih hmem
      exact ⟨more, hmore, hsuffix.trans (List.suffix_cons _ _)⟩

/-- **A nested block** is not on the way outwards. -/
theorem Outward.not_mem_of_mem_tail (hnodup : (ws.flatMap fun w ↦ openedBy w.node).Nodup)
    (h : Outward ws place blocks) (haround : Outward ws inner around)
    (hmem : place ∈ around.tail) : inner ∉ blocks := by
  intro hinner
  obtain ⟨rest, hrest, hsuffix⟩ := h.exists_suffix hinner
  obtain rfl := hrest.unique hnodup haround
  have hlength : rest.length ≤ blocks.length := hsuffix.length_le
  cases haround with
  | root => exact absurd hmem List.not_mem_nil
  | inner hopener hkey hfurther =>
    obtain ⟨rest', hrest', hsuffix'⟩ := hfurther.exists_suffix hmem
    obtain rfl := hrest'.unique hnodup h
    exact absurd (Nat.le_trans hlength hsuffix'.length_le) (Nat.not_succ_le_self _)

/-- **Of sibling blocks** one at most is on the way outwards. -/
theorem Outward.eq_of_sibling (hnodup : (ws.flatMap fun w ↦ openedBy w.node).Nodup)
    (h : Outward ws place blocks) {opener : Writing} (hopener : opener ∈ ws) {key other : String}
    (hkey : key ∈ openedBy opener.node) (hother : other ∈ openedBy opener.node)
    (hmem : some key ∈ blocks) (hmem' : some other ∈ blocks) : key = other := by
  obtain ⟨rest, hrest, hsuffix⟩ := h.exists_suffix hmem
  obtain ⟨rest', hrest', hsuffix'⟩ := h.exists_suffix hmem'
  cases hrest with
  | inner hv hkey' hfurther =>
    cases hrest' with
    | inner hw hother' hfurther' =>
      -- what is around the two is the same, so they are in the same place on the way
      obtain rfl := eq_of_mem_openedBy hnodup hopener hv hkey hkey'
      obtain rfl := eq_of_mem_openedBy hnodup hopener hw hother hother'
      obtain rfl := hfurther.unique hnodup hfurther'
      have hsame := (List.suffix_of_suffix_length_le hsuffix hsuffix' (Nat.le_refl _)).eq_of_length
        rfl
      exact Option.some.inj (List.cons.inj hsame).1

end Outward

/-! ### The scopes of a state -/

/-- The scopes after a node has declared its variable, if it declares one. -/
def declaring (config : Config) (t : ScopeTree) (scope : Nat) (n : Node) : ScopeTree :=
  match declared? config n with
  | some v => t.declare scope v.1 v.2
  | none => t

theorem ordered_declaring {t : ScopeTree} (h : t.Ordered) (config : Config) (target : Nat)
    (n : Node) : (declaring config t target n).Ordered := by
  rw [declaring]
  split
  · exact h.declare target _ _
  · exact h

theorem exists_scope?_declaring {t : ScopeTree} {i : Nat} {scope : Scope}
    (h : t.scope? i = some scope) (config : Config) (target : Nat) (n : Node) :
    ∃ scope', (declaring config t target n).scope? i = some scope' ∧
      scope'.parent = scope.parent ∧ ∀ name, scope'.bindings.find? name =
        if i = target then (declaredType? config n name).or (scope.bindings.find? name)
        else scope.bindings.find? name := by
  simp only [declaring, declaredType?]
  cases declared? config n with
  | none => exact ⟨scope, h, rfl, fun name ↦ (ite_self _).symm⟩
  | some v =>
    by_cases hi : i = target
    · refine ⟨{ scope with bindings := scope.bindings.insert v.1 v.2 }, ?_, rfl, fun name ↦ ?_⟩
      · rw [ScopeTree.scope?_declare, h, Option.map_some, if_pos hi]
      · rw [if_pos hi, Table.find?_insert, Option.filter_some]
        by_cases hname : v.1 = name
        · rw [if_pos hname.symm, if_pos (decide_eq_true hname)]
          rfl
        · rw [if_neg (Ne.symm hname), if_neg (by simpa using hname)]
          rfl
    · refine ⟨scope, ?_, rfl, fun name ↦ (if_neg hi).symm⟩
      rw [ScopeTree.scope?_declare, h, Option.map_some, if_neg hi]

namespace State

/-- The scope with which a block is nested in others: none around the root block, and around any
other the scope of the block that its opener was written into. -/
def IsParent (s : State) (ws : List Writing) : Option String → Option Nat → Prop
  | none, parent => parent = none
  | some key, parent => ∃ w ∈ ws, key ∈ openedBy w.node ∧ parent = some (s.scopeAt w.place)

/-- Each block has a scope of its own. It binds what was declared in the block, and lies where the
block does. -/
structure HasScopesOf (config : Config) (s : State) (ws : List Writing) : Prop where
  ordered : s.scopes.Ordered
  /-- What is written stands in a block that is there. -/
  place : ∀ w ∈ ws, s.HasPlace w.place
  injective : ∀ {p q}, s.HasPlace p → s.HasPlace q → s.scopeAt p = s.scopeAt q → p = q
  scope : ∀ {p}, s.HasPlace p → ∃ scope, s.scopes.scope? (s.scopeAt p) = some scope ∧
    (∀ name, scope.bindings.find? name = lastType? config ws p name) ∧
    s.IsParent ws p scope.parent

variable {config : Config} {s : State} {ws : List Writing} {p : Option String}

/-- **Names are looked up outwards** from a block, in what was declared in each block on the way. -/
theorem HasScopesOf.exists_outward (h : s.HasScopesOf config ws) (hp : s.HasPlace p) :
    ∃ blocks, Outward ws p blocks ∧ ∀ name,
      s.scopes.lookup (s.scopeAt p) name = blocks.findSome? fun b ↦ lastType? config ws b name := by
  -- on the number of the scope, which gets smaller on the way
  induction hi : s.scopeAt p using Nat.strong_induction_on generalizing p with
  | _ i ih =>
    subst hi
    obtain ⟨scope, hscope, hbindings, hparent⟩ := h.scope hp
    cases p with
    | none =>
      refine ⟨[none], .root, fun name ↦ ?_⟩
      rw [h.ordered.lookup_eq hscope, hbindings, hparent]
      simp
    | some key =>
      obtain ⟨w, hw, hkey, hnumber⟩ := hparent
      have hlt : s.scopeAt w.place < s.scopeAt (some key) := h.ordered _ _ _ hscope hnumber
      obtain ⟨rest, hrest, hlookup⟩ := ih _ hlt (h.place w hw) rfl
      refine ⟨some key :: rest, .inner hw hkey hrest, fun name ↦ ?_⟩
      rw [h.ordered.lookup_eq hscope, hbindings, hnumber, List.findSome?_cons]
      cases lastType? config ws (some key) name with
      | none => exact hlookup name
      | some type => rfl

/-! ### One step -/

/-- A parent stays one, if what was written is still there and in the same scopes. -/
theorem IsParent.mono {s' : State} {ws' : List Writing} {parent : Option Nat}
    (h : s.IsParent ws p parent)
    (hmem : ∀ w ∈ ws, w ∈ ws' ∧ s'.scopeAt w.place = s.scopeAt w.place) :
    s'.IsParent ws' p parent := by
  cases p with
  | none => exact h
  | some key =>
    obtain ⟨w, hw, hkey, hparent⟩ := h
    obtain ⟨hw', hscope⟩ := hmem w hw
    exact ⟨w, hw', hkey, hparent.trans (congrArg some hscope.symm)⟩

theorem scopes_append (s : State) (place : Option String) (lines : List Line) :
    (s.append place lines).scopes = s.scopes := by
  cases place <;> rfl

theorem scopeAt_append (s : State) (place : Option String) (lines : List Line) (q : Option String) :
    (s.append place lines).scopeAt q = s.scopeAt q := by
  cases place with
  | none => cases q <;> rfl
  | some key =>
    cases q with
    | none => rfl
    | some other =>
      show (((s.blocks.modify key _).find? other).map Block.scope).getD _ = _
      rw [Table.find?_modify, scopeAt]
      split
      · cases s.blocks.find? other <;> rfl
      · rfl

/-- **What a node declares** is bound in the scope of its block, and its lines change no scope. -/
theorem HasScopesOf.declare (h : s.HasScopesOf config ws) {w : Writing} (hp : s.HasPlace w.place) :
    ({ s with scopes := declaring config s.scopes (s.scopeAt w.place) w.node }.append w.place
      w.lines).HasScopesOf config (ws ++ [w]) := by
  let written := { s with scopes := declaring config s.scopes (s.scopeAt w.place) w.node }.append
    w.place w.lines
  have hscopes : written.scopes = declaring config s.scopes (s.scopeAt w.place) w.node :=
    scopes_append _ w.place w.lines
  have hat : ∀ q, written.scopeAt q = s.scopeAt q := fun q ↦ scopeAt_append _ w.place w.lines q
  have hplace : ∀ q, written.HasPlace q ↔ s.HasPlace q := by
    intro q
    rw [HasPlace, HasPlace, keys_append]
  constructor
  · rw [scopes_append]
    exact ordered_declaring h.ordered config _ w.node
  · intro v hv
    rcases List.mem_append.1 hv with hv | hv
    · exact (hplace _).2 (h.place v hv)
    · obtain rfl := List.mem_singleton.1 hv
      exact (hplace _).2 hp
  · intro q r hq hr heq
    exact h.injective ((hplace q).1 hq) ((hplace r).1 hr) ((hat q).symm.trans (heq.trans (hat r)))
  · intro q hq
    have hq := (hplace q).1 hq
    obtain ⟨scope, hscope, hbindings, hparent⟩ := h.scope hq
    obtain ⟨scope', hscope', hparent', hbindings'⟩ :=
      exists_scope?_declaring hscope config (s.scopeAt w.place) w.node
    refine ⟨scope', ?_, fun name ↦ ?_, ?_⟩
    · rw [hat, hscopes]
      exact hscope'
    · -- the scope belongs to this block only
      have hiff : s.scopeAt q = s.scopeAt w.place ↔ q = w.place :=
        ⟨h.injective hq hp, fun heq ↦ congrArg s.scopeAt heq⟩
      rw [hbindings', hbindings, lastType?_append_singleton]
      exact if_congr hiff rfl rfl
    · rw [hparent']
      exact hparent.mono fun v hv ↦ ⟨List.mem_append_left _ hv, hat v.place⟩

theorem scopeAt_openBlock (scope : Nat) (s : State) (block : String × List (String × String))
    (q : Option String) : (s.openBlock scope block).scopeAt q =
      if q = some block.1 then s.scopes.size else s.scopeAt q := by
  cases q with
  | none => rw [if_neg nofun]; rfl
  | some key =>
    show (((s.blocks.insert block.1 _).find? key).map Block.scope).getD _ = _
    rw [Table.find?_insert, scopeAt]
    by_cases hkey : key = block.1
    · rw [if_pos hkey, if_pos (congrArg some hkey)]
      rfl
    · rw [if_neg hkey, if_neg fun heq ↦ hkey (Option.some.inj heq)]
      rfl

/-- **A block that a node opens** has a new scope inside that of the node's block. -/
theorem HasScopesOf.openBlock (h : s.HasScopesOf config ws) {w : Writing} (hw : w ∈ ws)
    {key : String} (hkey : key ∈ openedBy w.node) (hnew : key ∉ s.blocks.keys) :
    (s.openBlock (s.scopeAt w.place) (key, [])).HasScopesOf config ws := by
  let opened := s.openBlock (s.scopeAt w.place) (key, [])
  have hplace : ∀ q, opened.HasPlace q ↔ q = some key ∨ s.HasPlace q := by
    intro q
    rw [HasPlace, HasPlace, keys_openBlock, if_neg hnew]
    cases q with
    | none => simp
    | some other => simp [or_comm]
  have hlt : ∀ {q}, s.HasPlace q → s.scopeAt q < s.scopes.size := fun hq ↦ by
    obtain ⟨scope, hscope, -⟩ := h.scope hq
    exact ScopeTree.lt_size_of_scope? hscope
  have hat : ∀ {q}, s.HasPlace q → opened.scopeAt q = s.scopeAt q := fun hq ↦
    (scopeAt_openBlock _ s _ _).trans (if_neg fun heq ↦ hnew (hq key heq))
  have hatNew : opened.scopeAt (some key) = s.scopes.size :=
    (scopeAt_openBlock _ s _ _).trans (if_pos rfl)
  constructor
  · exact h.ordered.child (hlt (h.place w hw))
  · exact fun v hv ↦ (hplace _).2 (.inr (h.place v hv))
  · intro q r hq hr heq
    rcases (hplace q).1 hq with rfl | hq <;> rcases (hplace r).1 hr with rfl | hr
    · rfl
    · rw [hatNew, hat hr] at heq
      exact absurd (hlt hr) (Nat.not_lt.2 (Nat.le_of_eq heq))
    · rw [hatNew, hat hq] at heq
      exact absurd (hlt hq) (Nat.not_lt.2 (Nat.le_of_eq heq.symm))
    · exact h.injective hq hr ((hat hq).symm.trans (heq.trans (hat hr)))
  · intro q hq
    rcases (hplace q).1 hq with rfl | hq
    · -- nothing can have been written into the block yet
      have hnone : ∀ v ∈ ws, v.place ≠ some key := fun v hv heq ↦ hnew (h.place v hv key heq)
      refine ⟨⟨.empty, some (s.scopeAt w.place)⟩, ?_, fun name ↦ ?_, w, hw, hkey, ?_⟩
      · rw [hatNew]
        exact (ScopeTree.scope?_child s.scopes _ _).trans (if_pos rfl)
      · rw [lastType?_eq_none hnone]
        rfl
      · rw [hat (h.place w hw)]
    · obtain ⟨scope, hscope, hbindings, hparent⟩ := h.scope hq
      refine ⟨scope, ?_, hbindings, hparent.mono fun v hv ↦ ⟨hv, hat (h.place v hv)⟩⟩
      rw [hat hq, ← hscope]
      exact (ScopeTree.scope?_child s.scopes _ _).trans (if_neg (Nat.ne_of_lt (hlt hq)))

theorem HasScopesOf.foldl_openBlock (h : s.HasScopesOf config ws) {w : Writing} (hw : w ∈ ws)
    {keys : List String} (hkeys : ∀ key ∈ keys, key ∈ openedBy w.node)
    (hnew : (s.blocks.keys ++ keys).Nodup) {scope : Nat} (hscope : scope = s.scopeAt w.place) :
    ((keys.map fun key ↦ (key, [])).foldl (State.openBlock scope) s).HasScopesOf config ws := by
  induction keys generalizing s with
  | nil => exact h
  | cons key rest ih =>
    have hkey : key ∉ s.blocks.keys := fun hmem ↦
      (List.nodup_append.1 hnew).2.2 _ hmem _ List.mem_cons_self rfl
    have hfirst := h.openBlock hw (hkeys key List.mem_cons_self) hkey
    rw [← hscope] at hfirst
    refine ih hfirst (fun k hk ↦ hkeys k (List.mem_cons_of_mem _ hk)) ?_ ?_
    · rw [keys_openBlock, if_neg hkey, List.append_assoc]
      exact hnew
    · rw [scopeAt_openBlock, hscope, if_neg fun heq ↦ hkey (h.place w hw key heq)]

end State

/-! ### Whole runs -/

variable {config : Config} {connections : List Connection}

/-- A node opens its blocks without variables in them, if it has no parameters. -/
theorem opens_contribution_eq (config : Config) (s : State) (scope : Nat) {n : Node}
    (hinputs : emittedAs? n.effectiveKind n.category = some .functionDef → n.inputs = []) :
    (contribution config s scope n).opens = (openedBy n).map fun key ↦ (key, []) := by
  rw [contribution, openedBy]
  cases hc : emittedAs? n.effectiveKind n.category with
  | none => rfl
  | some c =>
    cases c with
    | functionDef =>
      simp only [functionDef, valueInputs_eq_nil (hinputs hc), List.map_nil, List.map_cons]
    | _ => rfl

/-- **One step**: writing a node keeps the scopes those of what is written. -/
theorem State.HasScopesOf.write {s : State} {ws : List Writing} {n : Node}
    (h : s.HasScopesOf config ws) (hplace : s.HasPlace (home s connections n.id))
    (hnew : (s.blocks.keys ++ openedBy n).Nodup)
    (hinputs : emittedAs? n.effectiveKind n.category = some .functionDef → n.inputs = []) :
    (write config connections s n).HasScopesOf config
      (ws ++ [writing config connections s n]) := by
  let w := writing config connections s n
  let declared := { s with scopes := declaring config s.scopes (s.scopeAt w.place) n }.append
    w.place w.lines
  have hdeclared : declared.HasScopesOf config (ws ++ [w]) := h.declare (w := w) hplace
  have hscope : s.scopeAt w.place = declared.scopeAt w.place :=
    (scopeAt_append { s with scopes := declaring config s.scopes (s.scopeAt w.place) n } w.place
      w.lines w.place).symm
  have hkeys : (declared.blocks.keys ++ openedBy n).Nodup := by
    rw [keys_append]
    exact hnew
  have hopened := hdeclared.foldl_openBlock (List.mem_append_right ws List.mem_cons_self)
    (fun key (hkey : key ∈ openedBy n) ↦ hkey) hkeys hscope
  rw [← opens_contribution_eq config s (s.scopeAt w.place) hinputs] at hopened
  rw [Emission.write, State.apply, declares_contribution]
  exact ⟨hopened.ordered, hopened.place, hopened.injective, hopened.scope⟩

theorem hasScopesOf_start (config : Config) : State.start.HasScopesOf config [] := by
  have hroot : ∀ {p}, State.start.HasPlace p → p = none := by
    intro p hp
    cases p with
    | none => rfl
    | some key => exact absurd (hp key rfl) List.not_mem_nil
  constructor
  · exact ScopeTree.ordered_root
  · exact fun w hw ↦ absurd hw List.not_mem_nil
  · exact fun hp hq _ ↦ (hroot hp).trans (hroot hq).symm
  · intro p hp
    obtain rfl := hroot hp
    exact ⟨⟨.empty, none⟩, rfl, fun _ ↦ rfl, rfl⟩

/-- **The scopes of an export** are those of what is written. -/
theorem hasScopesOf_stateAfter {nodes : List Node} (hnodup : (nodes.flatMap openedBy).Nodup)
    (hinputs : ∀ n ∈ nodes, emittedAs? n.effectiveKind n.category = some .functionDef →
      n.inputs = []) :
    (stateAfter config connections nodes).HasScopesOf config
      (writings config connections .start nodes) := by
  induction nodes using List.reverseRecOn with
  | nil => exact hasScopesOf_start config
  | append_singleton rest n ih =>
    rw [List.flatMap_append, List.flatMap_singleton] at hnodup
    have hrest := (List.nodup_append.1 hnodup).1
    have hscopes := ih hrest fun m hm ↦ hinputs m (List.mem_append_left _ hm)
    rw [stateAfter_append_singleton, writings_append_singleton]
    refine hscopes.write (hasPlace_home (hasPlace_of_find?_homes rest) n.id) ?_
      (hinputs n (List.mem_append_right rest List.mem_cons_self))
    rw [keys_blocks_stateAfter hrest]
    exact hnodup

end Emission

namespace Diagram

open Emission

variable {d : Diagram} {config : Config} {before after : List Writing} {w : Writing}

/-- What a construct with one slot for a value finds is the value at that slot. -/
theorem Consistent.producer?_eq_valueAt? (h : d.Consistent) (hids : d.HasNodeIds)
    (hfirst : config.consumersFirst = false) {earlier later : List Node} {n : Node}
    (horder : order config d.nodes.values d.connections = earlier ++ n :: later) {c : Construct}
    {slot : String} (hc : emittedAs? n.effectiveKind n.category = some c)
    (hslots : Catalog.inputs c = ["execution", slot]) :
    producer? (stateAfter config d.connections earlier) n = d.valueAt? n 1 := by
  have hn : n ∈ d.nodes.values := mem_values_of_mem_order hfirst (by rw [horder]; simp)
  rw [producer?_eq (h.isNodeId_of_mem_outputs hids hfirst horder)
    ((h.hasInputsOf hn hc).eq_nil_or hslots), valueAt?]
  cases hentry : n.inputs[1]? with
  | none => rfl
  | some entry =>
    rw [Option.bind_some, Option.bind_some, find?_outputs_before hfirst horder,
      h.find?_before hids hfirst horder hentry]

/-- **Lexical scoping.** Where an assignment of a reachable diagram is bound to no value, it is
written with the zero value of a type that is found as follows. From the block that it is written
into there is one way outwards, from each block to the one that its opener was written into, out to
the root block. The type is that in the last declaration of the target, among those written before
the assignment, in the first block on the way that has one, and the default type if none has. Blocks
nested in that of the assignment are not on the way, and of sibling blocks one at most is. What is
written this way stands in the export. -/
theorem Reachable.assignment_scoped (h : Reachable d) (hids : d.HasNodeIds)
    (hfirst : config.consumersFirst = false)
    (hsplit : writings config d.connections .start
      (order config d.nodes.values d.connections) = before ++ w :: after)
    (hc : emittedAs? w.node.effectiveKind w.node.category = some .assignment)
    (hvalue : d.valueAt? w.node 1 = none) :
    let target := (w.node.textProperty? "target").getD ("var_" ++ w.node.id)
    ∃ blocks, (∀ others, Outward before w.place others ↔ others = blocks) ∧
      w.lines.map Line.text = [target ++ " = " ++ zeroValue ((blocks.findSome? fun block ↦
        lastType? config before block target).getD config.defaultType) ++ ";"] ∧
      (∀ inner around, Outward before inner around → w.place ∈ around.tail → inner ∉ blocks) ∧
      (∀ opener ∈ before, ∀ key ∈ openedBy opener.node, ∀ other ∈ openedBy opener.node,
        some key ∈ blocks → some other ∈ blocks → key = other) ∧
      (Export.of config d.nodes.values d.connections).Collects (before ++ w :: after) := by
  intro target
  have hd := h.consistent
  let earlier := before.map Writing.node
  let s := stateAfter config d.connections earlier
  have horder : order config d.nodes.values d.connections =
      earlier ++ w.node :: after.map Writing.node := by
    have hnodes : (writings config d.connections .start _).map Writing.node = _ :=
      map_node_writings .start (order config d.nodes.values d.connections)
    rw [← hnodes, hsplit, List.map_append, List.map_cons]
  have hnodup : (earlier.flatMap openedBy).Nodup := by
    have hall := hd.nodup_openedKeys hids config
    rw [horder, List.flatMap_append] at hall
    exact (List.nodup_append.1 hall).1
  have hscopes : s.HasScopesOf config before := by
    rw [← (writings_of_split hsplit).1]
    refine hasScopesOf_stateAfter hnodup fun n hn ↦ ?_
    refine hd.inputs_eq_nil_of_functionDef (mem_values_of_mem_order hfirst ?_)
    rw [horder]
    exact List.mem_append_left _ hn
  have hwriting : w = writing config d.connections s w.node := eq_writing_of_split hsplit
  have hhome : w.place = home s d.connections w.node.id := congrArg Writing.place hwriting
  obtain ⟨blocks, hblocks, hlookup⟩ := hscopes.exists_outward (p := w.place) <| by
    rw [hhome]
    exact hasPlace_home (hasPlace_of_find?_homes earlier) w.node.id
  have hopened : (before.flatMap fun b ↦ openedBy b.node).Nodup := by
    rw [← List.flatMap_map Writing.node openedBy]
    exact hnodup
  have hnone : producer? s w.node = none :=
    (hd.producer?_eq_valueAt? hids hfirst horder hc rfl).trans hvalue
  have hlines : w.lines.map Line.text =
      (assignment config s (s.scopeAt w.place) w.node).lines.map Prod.snd := by
    have hcontribution : contribution config s (s.scopeAt w.place) w.node =
        assignment config s (s.scopeAt w.place) w.node := by rw [contribution, hc]
    rw [← hcontribution, hhome]
    exact (congrArg (fun v ↦ v.lines.map Line.text) hwriting).trans List.map_map
  refine ⟨blocks, fun others ↦ ⟨fun h ↦ h.unique hopened hblocks, ?_⟩, ?_, ?_, ?_,
    hsplit ▸ hd.collects hids config⟩
  · rintro rfl
    exact hblocks
  · simp only [hlines, assignment, hnone, hlookup, Option.getD_none, List.map_cons, List.map_nil,
      target]
  · exact fun inner around ↦ hblocks.not_mem_of_mem_tail hopened
  · exact fun opener hopener key hkey other hother ↦
      hblocks.eq_of_sibling hopened hopener hkey hother

/-- Of two declarations of a name, the one in the other branch is not seen, and the one around both
branches is, although it was written after the branches were opened. -/
theorem exists_assignment_beside_shadowing :
    ∃ d before w, Reachable d ∧ d.HasNodeIds ∧
      writings .default d.connections .start (order .default d.nodes.values d.connections) =
        before ++ [w] ∧
      before.map (fun b ↦ (b.place, declaredType? .default b.node "x")) =
        [(none, none), (some "node_00000000000c_true", some "f64"), (none, some "bool")] ∧
      w.place = some "node_00000000000c_false" ∧
      w.lines.map Line.text = ["x = false;"] := by
  let a := "node_00000000000a"
  let b := "node_00000000000b"
  let c := "node_00000000000c"
  let e := "node_00000000000e"
  let typed (type : String) : Properties :=
    .ofList [(.text "name", .str "x"), (.text "type", .str type)]
  let d := empty.performAll
    [.add b "let_declaration" (typed "f64") none .origin none,
      .add c "if_statement" .empty none .origin none,
      .add a "let_declaration" (typed "bool") none .origin none,
      .add e "assignment" (.ofList [(.text "target", .str "x")]) none .origin none,
      .connect "p" ⟨c, "then"⟩ ⟨b, "exec_in"⟩ .origin .origin,
      .connect "q" ⟨c, "else"⟩ ⟨e, "exec_in"⟩ .origin .origin]
  let ws := writings .default d.connections .start (order .default d.nodes.values d.connections)
  have h : Reachable d := Reachable.empty.performAll (by decide +kernel)
  have hids : d.HasNodeIds := by decide +kernel
  have hall : ws.length ≤ 4 := by decide +kernel
  have hopener : ((ws.take 3)[0]?).map (fun v ↦ (v.place, openedBy v.node)) =
      some (none, [c ++ "_true", c ++ "_false"]) := by decide +kernel
  have hassignment : (ws[3]?).map (fun v ↦ (v.place, emittedAs? v.node.effectiveKind
      v.node.category, d.valueAt? v.node 1, v.node.textProperty? "target")) =
      some (some (c ++ "_false"), some .assignment, none, some "x") := by decide +kernel
  obtain ⟨opener, hfirst, heq⟩ := Option.map_eq_some_iff.1 hopener
  obtain ⟨w, hlast, heq'⟩ := Option.map_eq_some_iff.1 hassignment
  simp only [Prod.mk.injEq] at heq heq'
  obtain ⟨hroot, hkeys⟩ := heq
  obtain ⟨hplace, hc, hvalue, htarget⟩ := heq'
  have hsplit : ws = ws.take 3 ++ [w] := by
    obtain ⟨hlt, hw⟩ := List.getElem?_eq_some_iff.1 hlast
    have htake : ws.take 3 ++ [ws[3]] = ws.take 4 := List.take_append_getElem hlt
    rw [← hw, htake, List.take_of_length_le hall]
  have houtward : Outward (ws.take 3) w.place [some (c ++ "_false"), none] := by
    have hrest : Outward (ws.take 3) opener.place [none] := by
      rw [hroot]
      exact .root
    have hmem : c ++ "_false" ∈ openedBy opener.node := by
      rw [hkeys]
      decide
    rw [hplace]
    exact .inner (List.mem_of_getElem? hfirst) hmem hrest
  obtain ⟨blocks, hblocks, hlines, -⟩ := h.assignment_scoped hids rfl hsplit hc hvalue
  refine ⟨d, ws.take 3, w, h, hids, hsplit, by decide +kernel, hplace, ?_⟩
  rw [hlines, ← (hblocks _).1 houtward, htarget, Option.getD_some]
  decide +kernel

end Diagram

end FlowCanvas
