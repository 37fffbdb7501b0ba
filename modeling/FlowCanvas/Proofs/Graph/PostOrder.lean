import FlowCanvas.Graph.Schedule
import FlowCanvas.Proofs.Graph.Guard
import Mathlib.Data.List.Nodup

/-!
# The walk behind a schedule

`postOrder` runs on an explicit stack. `Walk` says the same by recursion: entering a vertex that is
still fresh lists what its neighbours lead to, and then the vertex itself; whatever is not fresh is
skipped. The set of fresh vertices is handed on from each walk to the next, so it is shared by the
whole of it. `postOrder_eq_of_walk` is the simulation between the two, and everything about the
order is proved by induction on the walk.

The result that exports rest on is `mem_of_edge_of_split`: a source of an edge is listed before its
target, unless the target leads back to the source. The induction carries the third possibility
along, since inside a walk the source may also be an open vertex further down the stack, and then
the target was reached from it.
-/

namespace FlowCanvas.Graph

variable {α ν : Type} [DecidableEq α] {next : α → List α} {edges : List (α × α)}

/-- Entering some vertices one after the other lists `out` and leaves `fresh'` fresh. -/
inductive Walk (next : α → List α) : (fresh vs fresh' out : List α) → Prop where
  | done (fresh : List α) : Walk next fresh [] fresh []
  | skip {fresh fresh' vs out : List α} {v : α} : v ∉ fresh → Walk next fresh vs fresh' out →
      Walk next fresh (v :: vs) fresh' out
  | enter {fresh fresh₁ fresh₂ vs below rest : List α} {v : α} : v ∈ fresh →
      Walk next (remove v fresh) (next v) fresh₁ below → Walk next fresh₁ vs fresh₂ rest →
      Walk next fresh (v :: vs) fresh₂ (below ++ v :: rest)

/-! ### The stack walks -/

theorem length_remove_lt {v : α} {fresh : List α} (h : v ∈ fresh) :
    (remove v fresh).length < fresh.length := by
  refine List.length_filter_lt_length_iff_exists.2 ⟨v, h, ?_⟩
  simp

theorem not_mem_remove {u v : α} {fresh : List α} : u ∉ remove v fresh ↔ u = v ∨ u ∉ fresh := by
  rw [mem_remove, not_and_or, not_not, or_comm]

/-- What stays fresh is what was fresh and has not been listed. -/
theorem Walk.mem_fresh_iff {fresh vs fresh' out : List α} (w : Walk next fresh vs fresh' out)
    {u : α} : u ∈ fresh' ↔ u ∈ fresh ∧ u ∉ out := by
  induction w with
  | done => simp
  | skip _ _ ih => exact ih
  | enter _ _ _ ih₁ ih₂ =>
    rw [ih₂, ih₁, mem_remove]
    simp only [List.mem_append, List.mem_cons, not_or]
    tauto

/-- What is not fresh any more after the walk below a vertex has been listed there, or is the vertex,
or was not fresh before. -/
theorem Walk.mem_or_eq_of_not_mem_fresh {fresh vs fresh₁ below : List α} {v : α}
    (w : Walk next (remove v fresh) vs fresh₁ below) {u : α} (hu : u ∉ fresh₁) :
    u ∈ below ∨ u = v ∨ u ∉ fresh := by
  rw [w.mem_fresh_iff, not_and_or, not_not, not_mem_remove] at hu
  exact hu.symm

theorem Walk.length_le {fresh vs fresh' out : List α} (w : Walk next fresh vs fresh' out) :
    fresh'.length ≤ fresh.length := by
  induction w with
  | done => exact Nat.le_refl _
  | skip _ _ ih => exact ih
  | enter hv _ _ ih₁ ih₂ =>
    have := length_remove_lt hv
    omega

/-- Every walk comes to an end. -/
theorem exists_walk (next : α → List α) (fresh vs : List α) :
    ∃ fresh' out, Walk next fresh vs fresh' out := by
  generalize hn : fresh.length = n
  induction n using Nat.strongRecOn generalizing fresh vs with
  | _ n ihn =>
    induction vs with
    | nil => exact ⟨fresh, [], .done fresh⟩
    | cons v vs ih =>
      by_cases hv : v ∈ fresh
      · -- fewer vertices are fresh for what lies below, and no more than that for the rest
        have hlt := length_remove_lt hv
        obtain ⟨fresh₁, below, w₁⟩ := ihn _ (hn ▸ hlt) _ (next v) rfl
        have hle := w₁.length_le
        obtain ⟨fresh₂, rest, w₂⟩ := ihn fresh₁.length (by omega) fresh₁ vs rfl
        exact ⟨fresh₂, _, .enter hv w₁ w₂⟩
      · obtain ⟨fresh', out, w⟩ := ih
        exact ⟨fresh', out, .skip hv w⟩

/-- The stack with a frame on top lists what the frame's neighbours lead to, then its vertex, and
goes on below it. -/
theorem Walk.postOrder_frame {fresh pending fresh' out : List α}
    (w : Walk next fresh pending fresh' out) (v : α) (starts : List α) (path : List (Frame α)) :
    postOrder next fresh starts (⟨v, pending⟩ :: path) =
      out ++ v :: postOrder next fresh' starts path := by
  induction w generalizing v path with
  | done => rw [postOrder, List.nil_append]
  | skip hu _ ih => rw [postOrder, if_neg hu, ih]
  | enter hu _ _ ih₁ ih₂ =>
    rw [postOrder, if_pos hu, ih₁, ih₂, List.append_assoc, List.cons_append]

/-- **The stack lists what the recursion lists.** -/
theorem postOrder_eq_of_walk {fresh starts fresh' out : List α}
    (w : Walk next fresh starts fresh' out) : postOrder next fresh starts [] = out := by
  induction w with
  | done => rw [postOrder]
  | skip hv _ ih => rw [postOrder, if_neg hv, ih]
  | enter hv w₁ _ _ ih₂ => rw [postOrder, if_pos hv, w₁.postOrder_frame, ih₂]

/-! ### What a walk lists -/

theorem Walk.mem_fresh_of_mem {fresh vs fresh' out : List α} (w : Walk next fresh vs fresh' out)
    {u : α} (hu : u ∈ out) : u ∈ fresh := by
  induction w with
  | done => exact absurd hu List.not_mem_nil
  | skip _ _ ih => exact ih hu
  | enter hv w₁ _ ih₁ ih₂ =>
    rcases List.mem_append.1 hu with hu | hu
    · exact (mem_remove.1 (ih₁ hu)).1
    · rcases List.mem_cons.1 hu with rfl | hu
      · exact hv
      · exact (mem_remove.1 (w₁.mem_fresh_iff.1 (ih₂ hu)).1).1

/-- No vertex is listed twice. -/
theorem Walk.nodup {fresh vs fresh' out : List α} (w : Walk next fresh vs fresh' out) :
    out.Nodup := by
  induction w with
  | done => exact List.nodup_nil
  | skip _ _ ih => exact ih
  | @enter fresh fresh₁ fresh₂ vs below rest v _ w₁ w₂ ih₁ ih₂ =>
    -- `v` is fresh for neither walk, and what was listed below is not fresh for the rest
    have hbelow : v ∉ below := fun h ↦ (mem_remove.1 (w₁.mem_fresh_of_mem h)).2 rfl
    have hrest : ∀ u ∈ rest, u ≠ v ∧ u ∉ below := fun u hu ↦
      have h := w₁.mem_fresh_iff.1 (w₂.mem_fresh_of_mem hu)
      ⟨(mem_remove.1 h.1).2, h.2⟩
    refine List.nodup_append.2 ⟨ih₁, List.nodup_cons.2 ⟨fun h ↦ (hrest v h).1 rfl, ih₂⟩, ?_⟩
    intro x hx y hy hxy
    rcases List.mem_cons.1 hy with rfl | hy
    · exact hbelow (hxy ▸ hx)
    · exact (hrest y hy).2 (hxy ▸ hx)

/-- Every fresh vertex that a walk is sent to is listed. -/
theorem Walk.mem_of_mem_starts {fresh vs fresh' out : List α} (w : Walk next fresh vs fresh' out)
    {u : α} (hu : u ∈ vs) (hf : u ∈ fresh) : u ∈ out := by
  induction w with
  | done => exact absurd hu List.not_mem_nil
  | skip hv _ ih =>
    rcases List.mem_cons.1 hu with rfl | hu
    · exact absurd hf hv
    · exact ih hu hf
  | @enter _ fresh₁ _ _ _ _ _ _ w₁ _ _ ih₂ =>
    rcases List.mem_cons.1 hu with rfl | hu
    · simp
    · by_cases h₁ : u ∈ fresh₁
      · exact List.mem_append_right _ (List.mem_cons_of_mem _ (ih₂ hu h₁))
      · rcases w₁.mem_or_eq_of_not_mem_fresh h₁ with hb | rfl | hf'
        · exact List.mem_append_left _ hb
        · exact List.mem_append_right _ List.mem_cons_self
        · exact absurd hf hf'

/-- What leads on to a listed vertex is listed, unless it was entered before the walk began. -/
theorem Walk.mem_or_not_mem_fresh {next : α → List α} {fresh vs fresh' out : List α}
    (w : Walk next fresh vs fresh' out) {u v : α} (hv : v ∈ out) (hu : u ∈ next v) :
    u ∈ out ∨ u ∉ fresh := by
  induction w with
  | done => exact absurd hv List.not_mem_nil
  | skip _ _ ih => exact ih hv
  | @enter fresh _ _ _ below _ x _ w₁ _ ih₁ ih₂ =>
    simp only [List.mem_append, List.mem_cons] at hv ⊢
    rcases hv with hv | rfl | hv
    · rcases ih₁ hv with hb | hf
      · exact Or.inl (Or.inl hb)
      · rcases not_mem_remove.1 hf with hux | hf
        · exact Or.inl (Or.inr (Or.inl hux))
        · exact Or.inr hf
    · by_cases hf : u ∈ remove v fresh
      · exact Or.inl (Or.inl (w₁.mem_of_mem_starts hu hf))
      · rcases not_mem_remove.1 hf with hux | hf
        · exact Or.inl (Or.inr (Or.inl hux))
        · exact Or.inr hf
    · rcases ih₂ hv with hb | hf
      · exact Or.inl (Or.inr (Or.inr hb))
      · rcases w₁.mem_or_eq_of_not_mem_fresh hf with hb | hux | hf
        · exact Or.inl (Or.inl hb)
        · exact Or.inl (Or.inr (Or.inl hux))
        · exact Or.inr hf

/-! ### Walking backwards along edges -/

/-- What is listed leads to where the walk was sent. -/
theorem Walk.exists_path {fresh vs fresh' out : List α}
    (w : Walk (sources edges) fresh vs fresh' out) {u : α} (hu : u ∈ out) :
    ∃ v ∈ vs, Path edges u v := by
  induction w with
  | done => exact absurd hu List.not_mem_nil
  | skip _ _ ih =>
    obtain ⟨v, hv, p⟩ := ih hu
    exact ⟨v, List.mem_cons_of_mem _ hv, p⟩
  | @enter _ _ _ _ _ _ v _ _ _ ih₁ ih₂ =>
    rcases List.mem_append.1 hu with hu | hu
    · obtain ⟨x, hx, p⟩ := ih₁ hu
      exact ⟨v, List.mem_cons_self, p.snoc (mem_sources.1 hx)⟩
    · rcases List.mem_cons.1 hu with rfl | hu
      · exact ⟨u, List.mem_cons_self, .refl u⟩
      · obtain ⟨x, hx, p⟩ := ih₂ hu
        exact ⟨x, List.mem_cons_of_mem _ hx, p⟩

omit [DecidableEq α] in
/-- Where an entry stands in a list that has another one in its middle. -/
theorem split_append_cons {as bs before after : List α} {x v : α}
    (h : as ++ x :: bs = before ++ v :: after) :
    (∃ more, as = before ++ v :: more) ∨ (as = before ∧ x = v) ∨
      ∃ more, before = as ++ x :: more ∧ bs = more ++ v :: after := by
  rcases List.append_eq_append_iff.1 h with ⟨more, hbefore, htail⟩ | ⟨more, has, htail⟩
  · cases more with
    | nil => exact Or.inr (Or.inl ⟨by simpa using hbefore.symm, (List.cons.inj htail).1⟩)
    | cons y more =>
      obtain ⟨rfl, hbs⟩ := List.cons.inj htail
      exact Or.inr (Or.inr ⟨more, hbefore, hbs⟩)
  · cases more with
    | nil => exact Or.inr (Or.inl ⟨by simpa using has, (List.cons.inj htail).1.symm⟩)
    | cons y more =>
      obtain ⟨rfl, -⟩ := List.cons.inj htail
      exact Or.inl ⟨more, has⟩

/-- A source of an edge into a listed vertex is listed before it, or was entered before the walk
began, or is led to by the vertex. -/
theorem Walk.mem_or_path_of_split {fresh vs fresh' out : List α}
    (w : Walk (sources edges) fresh vs fresh' out) {before after : List α} {u v : α}
    (h : out = before ++ v :: after) (e : (u, v) ∈ edges) :
    u ∈ before ∨ u ∉ fresh ∨ Path edges v u := by
  induction w generalizing before after with
  | done => simp at h
  | skip _ _ ih => exact ih h
  | @enter fresh _ _ _ below _ x _ w₁ _ ih₁ ih₂ =>
    rcases split_append_cons h with ⟨more, hbelow⟩ | ⟨rfl, rfl⟩ | ⟨more, rfl, hrest⟩
    · rcases ih₁ hbelow with hu | hu | p
      · exact Or.inl hu
      · by_cases hux : u = x
        · -- the source is the vertex that is open below: the inner walk came from it
          obtain ⟨z, hz, p⟩ := w₁.exists_path (u := v) (by simp [hbelow])
          exact Or.inr (Or.inr (hux ▸ p.snoc (mem_sources.1 hz)))
        · exact Or.inr (Or.inl fun hf ↦ hu (mem_remove.2 ⟨hf, hux⟩))
      · exact Or.inr (Or.inr p)
    · -- `v` is the vertex entered here: its sources are what the inner walk is sent to
      by_cases hux : u = x
      · exact Or.inr (Or.inr (hux ▸ .refl u))
      · by_cases hu : u ∈ fresh
        · exact Or.inl (w₁.mem_of_mem_starts (mem_sources.2 e) (mem_remove.2 ⟨hu, hux⟩))
        · exact Or.inr (Or.inl hu)
    · rcases ih₂ hrest with hu | hu | p
      · exact Or.inl (by simp [hu])
      · rcases w₁.mem_or_eq_of_not_mem_fresh hu with hb | rfl | hf
        · exact Or.inl (List.mem_append_left _ hb)
        · exact Or.inl (by simp)
        · exact Or.inr (Or.inl hf)
      · exact Or.inr (Or.inr p)

/-! ### Schedules -/

theorem exists_walk_orderFrom (edges : List (α × α)) (starts : List α) :
    ∃ fresh', Walk (sources edges) (starts ++ vertices edges) starts fresh'
      (orderFrom edges starts) := by
  obtain ⟨fresh', out, w⟩ := exists_walk (sources edges) (starts ++ vertices edges) starts
  exact ⟨fresh', by rwa [orderFrom, postOrder_eq_of_walk w]⟩

theorem nodup_orderFrom (edges : List (α × α)) (starts : List α) :
    (orderFrom edges starts).Nodup := by
  obtain ⟨_, w⟩ := exists_walk_orderFrom edges starts
  exact w.nodup

/-- **Sources first.** The source of an edge is listed before the target, unless the target leads
back to it. -/
theorem mem_of_edge_of_split {starts before after : List α} {u v : α}
    (h : orderFrom edges starts = before ++ v :: after) (e : (u, v) ∈ edges)
    (hback : ¬ Path edges v u) : u ∈ before := by
  obtain ⟨_, w⟩ := exists_walk_orderFrom edges starts
  have hu : u ∈ starts ++ vertices edges :=
    List.mem_append_right _ (mem_vertices.2 ⟨(u, v), e, Or.inl rfl⟩)
  rcases w.mem_or_path_of_split h e with hb | hf | p
  · exact hb
  · exact absurd hu hf
  · exact absurd p hback

/-! ### What counts of a list of edges -/

/-- Of the list of fresh vertices only what is in it counts, and of that only what the walk can
come to. -/
theorem Walk.of_fresh_iff {reach : α → Prop} (hnext : ∀ u, reach u → ∀ v ∈ next u, reach v)
    {fresh other vs fresh' out : List α} (w : Walk next fresh vs fresh' out)
    (hvs : ∀ v ∈ vs, reach v) (h : ∀ u, reach u → (u ∈ fresh ↔ u ∈ other)) :
    ∃ other', Walk next other vs other' out := by
  induction w generalizing other with
  | done => exact ⟨other, .done other⟩
  | skip hv _ ih =>
    rw [List.forall_mem_cons] at hvs
    obtain ⟨other', w⟩ := ih hvs.2 h
    exact ⟨other', .skip (mt (h _ hvs.1).2 hv) w⟩
  | @enter fresh fresh₁ _ _ _ _ v hv w₁ _ ih₁ ih₂ =>
    rw [List.forall_mem_cons] at hvs
    have hremove : ∀ u, reach u → (u ∈ remove v fresh ↔ u ∈ remove v other) := fun u hu ↦ by
      rw [mem_remove, mem_remove, h u hu]
    obtain ⟨other₁, w₁'⟩ := ih₁ (hnext v hvs.1) hremove
    -- both walks below list the same, so they leave the same fresh
    have hrest : ∀ u, reach u → (u ∈ fresh₁ ↔ u ∈ other₁) := fun u hu ↦ by
      rw [w₁.mem_fresh_iff, w₁'.mem_fresh_iff, hremove u hu]
    obtain ⟨other₂, w₂⟩ := ih₂ hvs.2 hrest
    exact ⟨other₂, .enter ((h v hvs.1).1 hv) w₁' w₂⟩

/-- Neighbours through which all walks go alike may be put in the place of others. -/
theorem Walk.of_neighbours {other : α → List α}
    (h : ∀ {v : α} {fresh fresh' out : List α}, Walk other fresh (next v) fresh' out →
      Walk other fresh (other v) fresh' out) {fresh vs fresh' out : List α}
    (w : Walk next fresh vs fresh' out) : Walk other fresh vs fresh' out := by
  induction w with
  | done fresh => exact .done fresh
  | skip hv _ ih => exact .skip hv ih
  | enter hv _ _ ih₁ ih₂ => exact .enter hv (h ih₁) ih₂

variable {others : List (α × α)} {key : ν → α} {nodes : List ν}

theorem orderFrom_eq_of_walk (hedge : ∀ u v, (u, v) ∈ edges ↔ (u, v) ∈ others)
    (hwalk : ∀ {v : α} {fresh fresh' out : List α},
      Walk (sources others) fresh (sources edges v) fresh' out →
        Walk (sources others) fresh (sources others v) fresh' out) (starts : List α) :
    orderFrom edges starts = orderFrom others starts := by
  obtain ⟨fresh', w⟩ := exists_walk_orderFrom edges starts
  have hvertices : ∀ u, True → (u ∈ starts ++ vertices edges ↔ u ∈ starts ++ vertices others) := by
    intro u _
    simp only [List.mem_append, mem_vertices, Prod.exists, hedge]
  obtain ⟨_, w'⟩ := (w.of_neighbours hwalk).of_fresh_iff (fun _ _ _ _ ↦ trivial)
    (fun _ _ ↦ trivial) hvertices
  exact (postOrder_eq_of_walk w').symm

/-- A schedule depends on which edges there are, and on how walks go through what lands on each
vertex. -/
theorem schedule_eq_of_walk (hedge : ∀ u v, (u, v) ∈ edges ↔ (u, v) ∈ others)
    (hwalk : ∀ {v : α} {fresh fresh' out : List α},
      Walk (sources others) fresh (sources edges v) fresh' out →
        Walk (sources others) fresh (sources others v) fresh' out) :
    schedule key edges nodes = schedule key others nodes := by
  have hsinks : sinks key edges nodes = sinks key others nodes := by
    refine List.filter_congr fun n _ ↦ decide_eq_decide.2 (not_congr ?_)
    simp [hedge]
  rw [schedule, schedule, hsinks, orderFrom_eq_of_walk hedge hwalk]

theorem mem_iff_of_sources_eq (h : ∀ v, sources edges v = sources others v) (u v : α) :
    (u, v) ∈ edges ↔ (u, v) ∈ others := by
  rw [← mem_sources, ← mem_sources, h]

/-- **A schedule depends on what lands on each vertex**, and not on how the edges into different
vertices are mixed. -/
theorem schedule_congr (h : ∀ v, sources edges v = sources others v) :
    schedule key edges nodes = schedule key others nodes :=
  schedule_eq_of_walk (mem_iff_of_sources_eq h) fun {v} _ _ _ w ↦ h v ▸ w

/-! ### The nodes of a schedule -/

theorem key_of_lastWithKey? {k : α} {n : ν} (h : lastWithKey? key nodes k = some n) :
    key n = k := by
  simpa using List.find?_some h

theorem mem_of_lastWithKey? {k : α} {n : ν} (h : lastWithKey? key nodes k = some n) : n ∈ nodes :=
  List.mem_reverse.1 (List.mem_of_find?_eq_some h)

/-- Where no key stands twice, each node is the last one with its key. -/
theorem lastWithKey?_key (hkeys : (nodes.map key).Nodup) {n : ν} (hn : n ∈ nodes) :
    lastWithKey? key nodes (key n) = some n := by
  cases h : lastWithKey? key nodes (key n) with
  | none =>
    have := List.find?_eq_none.1 h n (List.mem_reverse.2 hn)
    simp at this
  | some m =>
    rw [List.inj_on_of_nodup_map hkeys (mem_of_lastWithKey? h) hn (key_of_lastWithKey? h)]

theorem mem_of_mem_schedule {n : ν} (h : n ∈ schedule key edges nodes) : n ∈ nodes := by
  obtain ⟨k, -, hk⟩ := List.mem_filterMap.1 h
  exact mem_of_lastWithKey? hk

/-- No key is scheduled twice. -/
theorem nodup_keys_schedule (key : ν → α) (edges : List (α × α)) (nodes : List ν) :
    ((schedule key edges nodes).map key).Nodup := by
  have hkey : ∀ {k l : α}, l ∈ (lastWithKey? key nodes k).map key → l = k := by
    intro k l h
    obtain ⟨n, hn, rfl⟩ := Option.map_eq_some_iff.1 h
    exact key_of_lastWithKey? hn
  rw [schedule, List.map_filterMap]
  exact (nodup_orderFrom edges _).filterMap fun k k' l h h' ↦ (hkey h).symm.trans (hkey h')

/-- A node is scheduled before another one if the walk lists its key before the other's. -/
theorem mem_of_schedule_split (hkeys : (nodes.map key).Nodup) {before after : List ν} {m n : ν}
    (h : schedule key edges nodes = before ++ n :: after) (hm : m ∈ nodes)
    (hlisted : ∀ as bs, orderFrom edges ((sinks key edges nodes).map key) = as ++ key n :: bs →
      key m ∈ as) : m ∈ before := by
  obtain ⟨as, bs, hsplit, hbefore, htail⟩ := List.filterMap_eq_append_iff.1 h
  obtain ⟨skipped, k, rest, rfl, hskipped, hk, -⟩ := List.filterMap_eq_cons_iff.1 htail
  obtain rfl := key_of_lastWithKey? hk
  have hmem : key m ∈ as ++ skipped := hlisted _ rest (by rw [hsplit, List.append_assoc])
  rw [← hbefore]
  refine List.mem_filterMap.2 ⟨key m, ?_, lastWithKey?_key hkeys hm⟩
  -- what is skipped on the way to `n` is no node's key, but the key of `m` is
  refine (List.mem_append.1 hmem).resolve_right fun hs ↦ ?_
  exact absurd (lastWithKey?_key hkeys hm) (by rw [hskipped _ hs]; simp)

/-- The source of an edge is scheduled before its target, unless the target leads back to it. -/
theorem mem_of_edge_of_schedule_split (hkeys : (nodes.map key).Nodup) {before after : List ν}
    {m n : ν} (h : schedule key edges nodes = before ++ n :: after) (hm : m ∈ nodes)
    (e : (key m, key n) ∈ edges) (hback : ¬ Path edges (key n) (key m)) : m ∈ before :=
  mem_of_schedule_split hkeys h hm fun _ _ hsplit ↦ mem_of_edge_of_split hsplit e hback

end FlowCanvas.Graph
