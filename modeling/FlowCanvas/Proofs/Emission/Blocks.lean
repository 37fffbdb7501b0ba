import FlowCanvas.Proofs.Diagram.Identifier
import FlowCanvas.Proofs.Emission.Output
import Mathlib.Data.List.Nodup
import Mathlib.Data.List.Perm.Lattice

/-!
# The blocks of an export

Lines are collected in blocks under keys that are made of ids, and a block is opened in the middle
of the export, when other lines are collected already. Nothing in that protects a line from being
dropped, because no block has its key, or from being lost with a block that is opened a second
time. What does is that no two nodes open blocks under one key, as all ids have the same length
(`nodup_openedKeys`), and that a node is sent only to blocks that are there (`hasPlace_home`).

`Writing` records what one node writes and where, `writings` those of a whole run. A run collects
exactly its writings: a block holds the lines of the writings that went there, one after the other
(`linesIn_stateAfter`). All of it goes back to what one contribution does to the blocks
(`State.linesIn_apply`, `State.keys_blocks_apply`).
-/

namespace FlowCanvas.Emission

/-! ### What a node opens -/

/-- Does a node open blocks? Conditionals, loops and function definitions do. -/
def opensBlock (n : Node) : Bool :=
  match emittedAs? n.effectiveKind n.category with
  | some .ifStatement | some .loop | some .functionDef => true
  | _ => false

/-- The keys of the blocks that a node opens, in order. -/
def openedBy (n : Node) : List String :=
  match emittedAs? n.effectiveKind n.category with
  | some .ifStatement => [n.id ++ "_true", n.id ++ "_false"]
  | some .loop => [n.id ++ "_body"]
  | some .functionDef => [n.id]
  | _ => []

/-- How far each line of a node is indented beyond the blocks that are open. -/
def extraLevels (n : Node) : List Nat :=
  match emittedAs? n.effectiveKind n.category with
  | some .loop => if (n.textProperty? "break_condition").isSome then [0, 1] else [0]
  | some _ => [0]
  | none => []

theorem opens_contribution (config : Config) (s : State) (scope : Nat) (n : Node) :
    (contribution config s scope n).opens.map Prod.fst = openedBy n := by
  rw [contribution, openedBy]
  cases emittedAs? n.effectiveKind n.category with
  | none => rfl
  | some c => cases c <;> rfl

theorem isEmpty_opens_contribution (config : Config) (s : State) (scope : Nat) (n : Node) :
    (contribution config s scope n).opens.isEmpty = !opensBlock n := by
  rw [contribution, opensBlock]
  cases emittedAs? n.effectiveKind n.category with
  | none => rfl
  | some c => cases c <;> rfl

theorem levels_contribution (config : Config) (s : State) (scope : Nat) (n : Node) :
    (contribution config s scope n).lines.map Prod.fst = extraLevels n := by
  rw [contribution, extraLevels]
  cases emittedAs? n.effectiveKind n.category with
  | none => rfl
  | some c =>
    cases c with
    | loop =>
      simp only [loop]
      cases n.textProperty? "break_condition" <;> rfl
    | _ => rfl

/-! ### Keys -/

theorem exists_suffix_of_mem_openedBy {n : Node} {key : String} (h : key ∈ openedBy n) :
    ∃ suffix, key = n.id ++ suffix := by
  rw [openedBy] at h
  split at h
  · simp only [List.mem_cons, List.not_mem_nil, or_false] at h
    rcases h with rfl | rfl <;> exact ⟨_, rfl⟩
  · exact ⟨_, List.mem_singleton.1 h⟩
  · exact ⟨"", by rw [List.mem_singleton.1 h, String.append_empty]⟩
  · exact absurd h List.not_mem_nil

/-- A key tells which node opens its block. -/
theorem id_eq_of_mem_openedBy {n m : Node} (hn : IsNodeId n.id) (hm : IsNodeId m.id) {key : String}
    (h : key ∈ openedBy n) (h' : key ∈ openedBy m) : n.id = m.id := by
  obtain ⟨suffix, rfl⟩ := exists_suffix_of_mem_openedBy h
  obtain ⟨suffix', heq⟩ := exists_suffix_of_mem_openedBy h'
  exact (hn.append_inj hm heq).1

theorem nodup_openedBy (n : Node) : (openedBy n).Nodup := by
  rw [openedBy]
  split
  · have hne : n.id ++ "_true" ≠ n.id ++ "_false" := fun h ↦
      absurd ((String.append_right_inj n.id).1 h) (by decide)
    simp [hne]
  · exact List.nodup_singleton _
  · exact List.nodup_singleton _
  · exact List.nodup_nil

/-- **No block is opened twice.** -/
theorem nodup_openedKeys {nodes : List Node} (hids : ∀ n ∈ nodes, IsNodeId n.id)
    (hnodup : (nodes.map Node.id).Nodup) : (nodes.flatMap openedBy).Nodup := by
  refine List.nodup_flatMap.2 ⟨fun n _ ↦ nodup_openedBy n, ?_⟩
  refine (List.pairwise_map.1 hnodup).imp_of_mem fun {n m} hn hm hne ↦ ?_
  intro key h h'
  exact hne (id_eq_of_mem_openedBy (hids n hn) (hids m hm) h h')

/-! ### What a contribution does to the blocks -/

namespace State

/-- The lines in a block; none if there is no such block. -/
def linesIn (s : State) : Option String → List Line
  | none => s.root.lines
  | some key => ((s.blocks.find? key).map Block.lines).getD []

/-- The block is there. The root block always is. -/
def HasPlace (s : State) (place : Option String) : Prop :=
  ∀ key, place = some key → key ∈ s.blocks.keys

variable {s : State}

theorem keys_append (s : State) (place : Option String) (lines : List Line) :
    (s.append place lines).blocks.keys = s.blocks.keys := by
  cases place with
  | none => rfl
  | some key => exact Table.keys_modify _ _ _

theorem linesIn_append {place : Option String} (hplace : s.HasPlace place) (lines : List Line)
    (q : Option String) :
    (s.append place lines).linesIn q = s.linesIn q ++ if q = place then lines else [] := by
  cases place with
  | none =>
    cases q with
    | none => rw [if_pos rfl]; rfl
    | some key => rw [if_neg nofun, List.append_nil]; rfl
  | some key =>
    cases q with
    | none => rw [if_neg nofun, List.append_nil]; rfl
    | some other =>
      show (((s.blocks.modify key _).find? other).map Block.lines).getD [] = _
      rw [Table.find?_modify]
      by_cases hkey : other = key
      · -- this block is there, so it takes the lines
        obtain ⟨b, hb⟩ := Table.exists_find?_of_mem_keys (hplace key rfl)
        rw [if_pos hkey, if_pos (congrArg some hkey), linesIn, hkey, hb]
        rfl
      · rw [if_neg hkey, if_neg (fun h ↦ hkey (Option.some.inj h)), List.append_nil, linesIn]

theorem keys_openBlock (scope : Nat) (s : State) (block : String × List (String × String)) :
    (s.openBlock scope block).blocks.keys =
      if block.1 ∈ s.blocks.keys then s.blocks.keys else s.blocks.keys ++ [block.1] :=
  Table.keys_insert _ _ _

/-- Opening a block under a new key leaves every line where it is. -/
theorem linesIn_openBlock {scope : Nat} {block : String × List (String × String)}
    (hnew : block.1 ∉ s.blocks.keys) (q : Option String) :
    (s.openBlock scope block).linesIn q = s.linesIn q := by
  cases q with
  | none => rfl
  | some key =>
    show (((s.blocks.insert block.1 _).find? key).map Block.lines).getD [] = _
    rw [Table.find?_insert, linesIn]
    by_cases hkey : key = block.1
    · have hnone : s.blocks.find? key = none := by
        rw [← Option.not_isSome_iff_eq_none]
        exact fun h ↦ hnew (hkey ▸ Table.contains_iff.1 h)
      rw [if_pos hkey, hnone]
      rfl
    · rw [if_neg hkey]

theorem subset_keys_foldl_openBlock (scope : Nat) (blocks : List (String × List (String × String)))
    (s : State) : s.blocks.keys ⊆ (blocks.foldl (openBlock scope) s).blocks.keys := by
  induction blocks generalizing s with
  | nil => exact List.Subset.refl _
  | cons b rest ih =>
    refine List.Subset.trans ?_ (ih (s.openBlock scope b))
    rw [keys_openBlock]
    split
    · exact List.Subset.refl _
    · exact List.subset_append_left _ _

/-- Opening blocks under new keys adds these keys, in order, and moves no line. -/
theorem foldl_openBlock (scope : Nat) (blocks : List (String × List (String × String))) {s : State}
    (hnew : (s.blocks.keys ++ blocks.map Prod.fst).Nodup) :
    (blocks.foldl (openBlock scope) s).blocks.keys = s.blocks.keys ++ blocks.map Prod.fst ∧
      ∀ q, (blocks.foldl (openBlock scope) s).linesIn q = s.linesIn q := by
  induction blocks generalizing s with
  | nil => exact ⟨(List.append_nil _).symm, fun _ ↦ rfl⟩
  | cons b rest ih =>
    rw [List.map_cons] at hnew
    have hb : b.1 ∉ s.blocks.keys := fun h ↦
      (List.nodup_append.1 hnew).2.2 _ h _ List.mem_cons_self rfl
    have hkeys : (s.openBlock scope b).blocks.keys = s.blocks.keys ++ [b.1] := by
      rw [keys_openBlock, if_neg hb]
    have hrest := ih (s := s.openBlock scope b) (by
      rw [hkeys, List.append_assoc]
      exact hnew)
    refine ⟨?_, fun q ↦ (hrest.2 q).trans (linesIn_openBlock hb q)⟩
    rw [List.foldl_cons, hrest.1, hkeys, List.append_assoc]
    rfl

/-- No contribution takes a block away. -/
theorem subset_keys_apply (s : State) (node : String) (place : Option String) (c : Contribution) :
    s.blocks.keys ⊆ (s.apply node place c).blocks.keys := by
  refine List.Subset.trans ?_ (subset_keys_foldl_openBlock _ c.opens _)
  rw [keys_append]
  exact List.Subset.refl _

/-- A contribution that opens blocks under new keys adds these keys at the end. -/
theorem keys_blocks_apply (node : String) (place : Option String) {c : Contribution}
    (hnew : (s.blocks.keys ++ c.opens.map Prod.fst).Nodup) :
    (s.apply node place c).blocks.keys = s.blocks.keys ++ c.opens.map Prod.fst := by
  refine ((foldl_openBlock _ c.opens ?_).1).trans ?_
  · rw [keys_append]
    exact hnew
  · rw [keys_append]

/-- **What a contribution does to the blocks**, if its place is there and what it opens is new: its
lines go to the end of its place, and nothing else changes. -/
theorem linesIn_apply (node : String) {place : Option String} {c : Contribution}
    (hplace : s.HasPlace place) (hnew : (s.blocks.keys ++ c.opens.map Prod.fst).Nodup)
    (q : Option String) : (s.apply node place c).linesIn q =
      s.linesIn q ++ if q = place then c.linesAt node s.depth else [] := by
  refine ((foldl_openBlock _ c.opens ?_).2 q).trans ?_
  · rw [keys_append]
    exact hnew
  · refine linesIn_append ?_ _ q
    exact hplace

end State

/-! ### Places -/

variable {config : Config} {connections : List Connection}

/-- If every node was written into a block that is there, the next one goes into such a block,
too. -/
theorem hasPlace_home {s : State}
    (hhomes : ∀ id place, s.homes.find? id = some place → s.HasPlace place) (id : String) :
    s.HasPlace (home s connections id) := by
  intro key hkey
  obtain ⟨c, -, hc⟩ := List.exists_of_findSome?_eq_some (Option.join_eq_some_iff.1 hkey)
  rw [homeBy?] at hc
  cases hsuffix : branchSuffix? c.source.pin with
  | none =>
    rw [hsuffix] at hc
    exact hhomes _ _ hc key rfl
  | some suffix =>
    simp only [hsuffix] at hc
    split at hc
    · next hopen =>
      rw [← Option.some.inj (Option.some.inj hc)]
      exact Table.contains_iff.1 hopen
    · exact hhomes _ _ hc key rfl

/-- Every node is written into a block that is there, and stays there. -/
theorem hasPlace_of_find?_homes (nodes : List Node) (id : String) (place : Option String)
    (h : (stateAfter config connections nodes).homes.find? id = some place) :
    (stateAfter config connections nodes).HasPlace place := by
  induction nodes using List.reverseRecOn generalizing id place with
  | nil => exact absurd h nofun
  | append_singleton rest n ih =>
    rw [stateAfter_append_singleton] at h ⊢
    intro key hkey
    refine State.subset_keys_apply _ _ _ _ ?_
    have hfind : ((stateAfter config connections rest).homes.insert n.id _).find? id =
        some place := h
    rw [Table.find?_insert] at hfind
    split at hfind
    · exact hasPlace_home ih n.id key ((Option.some.inj hfind).trans hkey)
    · exact ih id place hfind key hkey

/-! ### Whole runs -/

/-- What a node writes, and into which block. -/
structure Writing where
  node : Node
  /-- The key of the block; none is the root block. -/
  place : Option String
  lines : List Line

/-- What a node writes in some state. -/
def writing (config : Config) (connections : List Connection) (s : State) (n : Node) : Writing :=
  let place := home s connections n.id
  ⟨n, place, (contribution config s (s.scopeAt place) n).linesAt n.id s.depth⟩

/-- What some nodes write one after the other. -/
def writings (config : Config) (connections : List Connection) : State → List Node → List Writing
  | _, [] => []
  | s, n :: rest =>
    writing config connections s n ::
      writings config connections (write config connections s n) rest

/-- The lines that are written into a block, in order. -/
def linesAt (ws : List Writing) (place : Option String) : List Line :=
  (ws.filter (·.place = place)).flatMap Writing.lines

theorem map_node_writings (s : State) (nodes : List Node) :
    (writings config connections s nodes).map Writing.node = nodes := by
  induction nodes generalizing s with
  | nil => rfl
  | cons n rest ih => exact congrArg (n :: ·) (ih _)

theorem writings_append (s : State) (nodes others : List Node) :
    writings config connections s (nodes ++ others) = writings config connections s nodes ++
      writings config connections (nodes.foldl (write config connections) s) others := by
  induction nodes generalizing s with
  | nil => rfl
  | cons n rest ih => exact congrArg (_ :: ·) (ih _)

theorem writings_append_singleton (nodes : List Node) (n : Node) :
    writings config connections .start (nodes ++ [n]) =
      writings config connections .start nodes ++
        [writing config connections (stateAfter config connections nodes) n] :=
  writings_append .start nodes [n]

theorem nodes_of_split {s : State} {nodes : List Node} {before after : List Writing}
    (h : writings config connections s nodes = before ++ after) :
    nodes = before.map Writing.node ++ after.map Writing.node := by
  rw [← List.map_append, ← h, map_node_writings]

/-- A part of what is written is what its nodes write, and the rest goes on from there. -/
theorem writings_of_split {nodes : List Node} {before after : List Writing}
    (h : writings config connections .start nodes = before ++ after) :
    writings config connections .start (before.map Writing.node) = before ∧
      writings config connections (stateAfter config connections (before.map Writing.node))
        (after.map Writing.node) = after := by
  rw [nodes_of_split h, writings_append] at h
  have hlength : (writings config connections .start (before.map Writing.node)).length =
      before.length := by
    rw [← List.length_map Writing.node, map_node_writings, List.length_map]
  exact List.append_inj h hlength

/-- Each writing is that of its node in the state that the nodes before it leave. -/
theorem eq_writing_of_split {nodes : List Node} {before after : List Writing} {w : Writing}
    (h : writings config connections .start nodes = before ++ w :: after) :
    w = writing config connections
      (stateAfter config connections (before.map Writing.node)) w.node :=
  (List.cons.inj (writings_of_split h).2).1.symm

theorem linesAt_append_singleton (ws : List Writing) (w : Writing) (place : Option String) :
    linesAt (ws ++ [w]) place = linesAt ws place ++ if place = w.place then w.lines else [] := by
  rw [linesAt, List.filter_append, List.flatMap_append, linesAt]
  by_cases h : place = w.place
  · rw [if_pos h, List.filter_cons_of_pos (by simpa using h.symm)]
    simp
  · rw [if_neg h, List.filter_cons_of_neg (by simpa using Ne.symm h)]
    simp

theorem filter_place_eq_nil {ws : List Writing} {place : Option String}
    (h : ∀ w ∈ ws, w.place ≠ place) : ws.filter (·.place = place) = [] :=
  List.filter_eq_nil_iff.2 fun w hw ↦ by simpa using h w hw

/-- A block that nothing is written into is empty. -/
theorem linesAt_eq_nil {ws : List Writing} {place : Option String} (h : ∀ w ∈ ws, w.place ≠ place) :
    linesAt ws place = [] := by
  rw [linesAt, filter_place_eq_nil h, List.flatMap_nil]

theorem depth_stateAfter (nodes : List Node) :
    (stateAfter config connections nodes).depth = nodes.countP opensBlock := by
  induction nodes using List.reverseRecOn with
  | nil => rfl
  | append_singleton rest n ih =>
    have hopens := isEmpty_opens_contribution config (stateAfter config connections rest)
      ((stateAfter config connections rest).scopeAt
        (home (stateAfter config connections rest) connections n.id)) n
    rw [stateAfter_append_singleton, write, State.apply, hopens, ih, List.countP_append]
    cases h : opensBlock n <;> simp [h]

/-- The blocks are those that the nodes open, in order. -/
theorem keys_blocks_stateAfter {nodes : List Node} (hnodup : (nodes.flatMap openedBy).Nodup) :
    (stateAfter config connections nodes).blocks.keys = nodes.flatMap openedBy := by
  induction nodes using List.reverseRecOn with
  | nil => rfl
  | append_singleton rest n ih =>
    rw [List.flatMap_append, List.flatMap_singleton] at hnodup ⊢
    have hrest := ih (List.nodup_append.1 hnodup).1
    rw [stateAfter_append_singleton, write, State.keys_blocks_apply, hrest, opens_contribution]
    rw [hrest, opens_contribution]
    exact hnodup

/-- **A run collects what its nodes write.** If no block is opened twice, each block holds the lines
that were written into it, in the order of writing. -/
theorem linesIn_stateAfter {nodes : List Node} (hnodup : (nodes.flatMap openedBy).Nodup)
    (place : Option String) : (stateAfter config connections nodes).linesIn place =
      linesAt (writings config connections .start nodes) place := by
  induction nodes using List.reverseRecOn with
  | nil => cases place <;> rfl
  | append_singleton rest n ih =>
    rw [List.flatMap_append, List.flatMap_singleton] at hnodup
    have hrest := List.nodup_append.1 hnodup
    rw [stateAfter_append_singleton, writings_append_singleton, linesAt_append_singleton, write,
      State.linesIn_apply n.id (hasPlace_home (hasPlace_of_find?_homes rest) n.id), ih hrest.1]
    · rfl
    · rw [keys_blocks_stateAfter hrest.1, opens_contribution]
      exact hnodup

/-- What a node writes goes into a block that is there in the end. -/
theorem hasPlace_of_mem_writings {nodes : List Node} {w : Writing}
    (hw : w ∈ writings config connections .start nodes) :
    (stateAfter config connections nodes).HasPlace w.place := by
  induction nodes using List.reverseRecOn with
  | nil => exact absurd hw List.not_mem_nil
  | append_singleton rest n ih =>
    rw [writings_append_singleton, List.mem_append, List.mem_singleton] at hw
    rw [stateAfter_append_singleton]
    intro key hkey
    refine State.subset_keys_apply _ _ _ _ ?_
    rcases hw with hw | rfl
    · exact ih hw key hkey
    · exact hasPlace_home (hasPlace_of_find?_homes rest) n.id key hkey

end FlowCanvas.Emission
