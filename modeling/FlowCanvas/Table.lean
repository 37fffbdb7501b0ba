/-!
# Tables in order of first entry

A `Table` maps keys to values and remembers the order in which keys were first entered.
Writing to a key that is present replaces its value where it stands; a new key goes to the end.
No key stands twice, which `keys_nodup` carries along, so two tables are equal exactly when
their entry lists are.

The main statements say what each operation does to `find?` and to `keys`: `find?_insert`,
`keys_insert`, `find?_erase`, `keys_erase`, `find?_modify` and `keys_modify`. Together the two decide
a table (`eq_of_find?`).
-/

namespace FlowCanvas

universe u v w x

/-- A finite map that keeps the order of first entry. -/
@[ext] structure Table (κ : Type u) (β : Type v) where
  /-- The entries, oldest key first. -/
  entries : List (κ × β)
  /-- No key stands twice. -/
  keys_nodup : (entries.map Prod.fst).Nodup

namespace Table

variable {κ : Type u} {β : Type v} {γ : Type w} [DecidableEq κ]

/-! ### Entry lists -/

/-- Writes a key: in place where it stands, else at the end. -/
def put (key : κ) (value : β) : List (κ × β) → List (κ × β)
  | [] => [(key, value)]
  | e :: rest => if e.1 = key then (key, value) :: rest else e :: put key value rest

/-- The value at a key. -/
def lookup (key : κ) : List (κ × β) → Option β
  | [] => none
  | e :: rest => if e.1 = key then some e.2 else lookup key rest

theorem map_fst_put (key : κ) (value : β) (es : List (κ × β)) :
    (put key value es).map Prod.fst =
      if key ∈ es.map Prod.fst then es.map Prod.fst else es.map Prod.fst ++ [key] := by
  induction es with
  | nil => simp [put]
  | cons e rest ih =>
    by_cases h : e.1 = key
    · simp [put, h]
    · rw [put, if_neg h, List.map_cons, ih]
      have h' : ¬ key = e.1 := fun hk ↦ h hk.symm
      by_cases hm : key ∈ rest.map Prod.fst
      · rw [if_pos hm, if_pos (by simp only [List.map_cons, List.mem_cons]; exact Or.inr hm)]
        rfl
      · rw [if_neg hm, if_neg (by simp only [List.map_cons, List.mem_cons, not_or]; exact ⟨h', hm⟩)]
        rfl

theorem put_eq_append {key : κ} {es : List (κ × β)} (h : key ∉ es.map Prod.fst) (value : β) :
    put key value es = es ++ [(key, value)] := by
  induction es with
  | nil => rfl
  | cons e rest ih =>
    rw [List.map_cons, List.mem_cons, not_or] at h
    rw [put, if_neg (Ne.symm h.1), ih h.2]
    rfl

theorem nodup_put (key : κ) (value : β) {es : List (κ × β)}
    (h : (es.map Prod.fst).Nodup) : ((put key value es).map Prod.fst).Nodup := by
  rw [map_fst_put]
  split
  · exact h
  · next hm =>
    refine List.nodup_append.2 ⟨h, by simp, ?_⟩
    intro a ha b hb
    rw [List.mem_singleton.1 hb]
    intro hab
    exact hm (hab ▸ ha)

theorem lookup_put (key other : κ) (value : β) (es : List (κ × β)) :
    lookup other (put key value es) = if other = key then some value else lookup other es := by
  induction es with
  | nil =>
    by_cases h : other = key
    · simp [put, lookup, h]
    · simp [put, lookup, h, Ne.symm h]
  | cons e rest ih =>
    by_cases h : e.1 = key
    · by_cases ho : other = key
      · simp [put, lookup, h, ho]
      · simp [put, lookup, h, ho, Ne.symm ho]
    · by_cases ho : e.1 = other
      · have : ¬ other = key := fun hk ↦ h (ho.trans hk)
        simp only [put, if_neg h, lookup, if_pos ho, if_neg this]
      · simp only [put, if_neg h, lookup, if_neg ho, ih]

theorem lookup_filter (key other : κ) (es : List (κ × β)) :
    lookup other (es.filter (·.1 ≠ key)) = if other = key then none else lookup other es := by
  induction es with
  | nil => simp [lookup]
  | cons e rest ih =>
    by_cases h : e.1 = key
    · rw [List.filter_cons_of_neg (by simpa using h), ih]
      by_cases ho : other = key
      · simp [ho]
      · have : ¬ e.1 = other := fun he ↦ ho (he.symm.trans h)
        simp [ho, lookup, this]
    · rw [List.filter_cons_of_pos (by simpa using h)]
      by_cases ho : e.1 = other
      · have : ¬ other = key := fun hk ↦ h (ho.trans hk)
        simp [lookup, ho, this]
      · simp only [lookup, if_neg ho, ih]

theorem lookup_map (f : κ → β → γ) (key : κ) (es : List (κ × β)) :
    lookup key (es.map fun e ↦ (e.1, f e.1 e.2)) = (lookup key es).map (f key) := by
  induction es with
  | nil => rfl
  | cons e rest ih =>
    by_cases h : e.1 = key
    · simp [lookup, h]
    · simp only [List.map_cons, lookup, if_neg h, ih]

theorem lookup_isSome_iff {key : κ} {es : List (κ × β)} :
    (lookup key es).isSome ↔ key ∈ es.map Prod.fst := by
  induction es with
  | nil => simp [lookup]
  | cons e rest ih =>
    by_cases h : e.1 = key
    · simp [lookup, h]
    · have h' : ¬ key = e.1 := fun hk ↦ h hk.symm
      simp only [lookup, if_neg h, ih, List.map_cons, List.mem_cons, h', false_or]

theorem lookup_eq_some_iff {key : κ} {value : β} {es : List (κ × β)}
    (h : (es.map Prod.fst).Nodup) : lookup key es = some value ↔ (key, value) ∈ es := by
  induction es with
  | nil => simp [lookup]
  | cons e rest ih =>
    rw [List.map_cons, List.nodup_cons] at h
    by_cases hk : e.1 = key
    · have hrest : (key, value) ∉ rest := fun hm ↦ h.1 (hk ▸ List.mem_map_of_mem hm)
      rw [lookup, if_pos hk, List.mem_cons, or_iff_left hrest, Option.some.injEq, Prod.ext_iff]
      exact ⟨fun hv ↦ ⟨hk.symm, hv.symm⟩, fun hv ↦ hv.2.symm⟩
    · have hne : (key, value) ≠ e := fun he ↦ hk (congrArg Prod.fst he).symm
      rw [lookup, if_neg hk, ih h.2, List.mem_cons, or_iff_right hne]

theorem eq_of_lookup {es es' : List (κ × β)} (hkeys : es.map Prod.fst = es'.map Prod.fst)
    (hnodup : (es.map Prod.fst).Nodup) (h : ∀ key, lookup key es = lookup key es') : es = es' := by
  induction es generalizing es' with
  | nil => exact (List.map_eq_nil_iff.1 hkeys.symm).symm
  | cons e rest ih =>
    cases es' with
    | nil => simp at hkeys
    | cons e' rest' =>
      rw [List.map_cons, List.map_cons, List.cons.injEq] at hkeys
      rw [List.map_cons, List.nodup_cons] at hnodup
      have hvalue : e.2 = e'.2 := by
        have := h e.1
        rw [lookup, if_pos rfl, lookup, if_pos hkeys.1.symm] at this
        exact Option.some.inj this
      have hrest : rest = rest' := by
        refine ih hkeys.2 hnodup.2 fun key ↦ ?_
        by_cases hk : e.1 = key
        · -- the first key stands in neither rest
          have hnone : lookup key rest = none := by
            rw [← Option.not_isSome_iff_eq_none, lookup_isSome_iff, ← hk]
            exact hnodup.1
          have hnone' : lookup key rest' = none := by
            rw [← Option.not_isSome_iff_eq_none, lookup_isSome_iff, ← hk, ← hkeys.2]
            exact hnodup.1
          rw [hnone, hnone']
        · have := h key
          rwa [lookup, if_neg hk, lookup, if_neg (hkeys.1 ▸ hk)] at this
      rw [Prod.ext hkeys.1 hvalue, hrest]

/-! ### Operations -/

/-- The table without entries. -/
def empty : Table κ β := ⟨[], List.nodup_nil⟩

instance : Inhabited (Table κ β) := ⟨empty⟩

/-- The keys, oldest first. -/
def keys (t : Table κ β) : List κ := t.entries.map Prod.fst

/-- The values in the order of their keys. -/
def values (t : Table κ β) : List β := t.entries.map Prod.snd

/-- How many keys there are. -/
def size (t : Table κ β) : Nat := t.entries.length

/-- The value at a key. -/
def find? (t : Table κ β) (key : κ) : Option β := lookup key t.entries

/-- Is the key present? -/
def contains (t : Table κ β) (key : κ) : Bool := (t.find? key).isSome

/-- Writes a value at a key: in place where the key stands, else at the end. -/
def insert (t : Table κ β) (key : κ) (value : β) : Table κ β :=
  ⟨put key value t.entries, nodup_put key value t.keys_nodup⟩

/-- Takes a key out. -/
def erase (t : Table κ β) (key : κ) : Table κ β :=
  ⟨t.entries.filter (·.1 ≠ key), t.keys_nodup.sublist (List.filter_sublist.map _)⟩

/-- Keeps the entries that meet a condition. -/
def keep (p : κ → β → Bool) (t : Table κ β) : Table κ β :=
  ⟨t.entries.filter fun e ↦ p e.1 e.2, t.keys_nodup.sublist (List.filter_sublist.map _)⟩

/-- Changes every value, in view of its key. -/
def mapValues (f : κ → β → γ) (t : Table κ β) : Table κ γ :=
  ⟨t.entries.map fun e ↦ (e.1, f e.1 e.2), by
    rw [List.map_map]; exact t.keys_nodup⟩

/-- Changes the value at one key, if it is present. -/
def modify (t : Table κ β) (key : κ) (f : β → β) : Table κ β :=
  t.mapValues fun k value ↦ if k = key then f value else value

/-- Lays the entries of a list over a table, one after the other. -/
def insertAll (t : Table κ β) (es : List (κ × β)) : Table κ β :=
  es.foldl (fun acc e ↦ acc.insert e.1 e.2) t

/-- The table of a list of entries. The last value of a repeated key counts, at the place of
its first. -/
def ofList (es : List (κ × β)) : Table κ β := empty.insertAll es

/-! ### What each operation does -/

@[simp] theorem find?_empty (key : κ) : (empty : Table κ β).find? key = none := rfl

theorem contains_iff {t : Table κ β} {key : κ} : t.contains key ↔ key ∈ t.keys :=
  lookup_isSome_iff

theorem find?_eq_some_iff {t : Table κ β} {key : κ} {value : β} :
    t.find? key = some value ↔ (key, value) ∈ t.entries :=
  lookup_eq_some_iff t.keys_nodup

theorem mem_keys_of_find? {t : Table κ β} {key : κ} {value : β} (h : t.find? key = some value) :
    key ∈ t.keys :=
  List.mem_map_of_mem (find?_eq_some_iff.1 h)

theorem exists_find?_of_mem_keys {t : Table κ β} {key : κ} (h : key ∈ t.keys) :
    ∃ value, t.find? key = some value :=
  Option.isSome_iff_exists.1 (contains_iff.2 h)

theorem mem_values_iff {t : Table κ β} {value : β} :
    value ∈ t.values ↔ ∃ key, t.find? key = some value := by
  simp only [values, List.mem_map, find?_eq_some_iff]
  constructor
  · rintro ⟨⟨key, v⟩, he, rfl⟩
    exact ⟨key, he⟩
  · rintro ⟨key, he⟩
    exact ⟨(key, value), he, rfl⟩

/-- Where a condition singles out one key, the first entry that meets it is the one at that key. -/
theorem map_snd_find?_entries {t : Table κ β} {p : κ → Bool} {key : κ}
    (h : ∀ k ∈ t.keys, p k = true ↔ k = key) :
    (t.entries.find? fun e ↦ p e.1).map Prod.snd = t.find? key := by
  cases hf : t.entries.find? fun e ↦ p e.1 with
  | none =>
    have hno : key ∉ t.keys := by
      intro hkey
      obtain ⟨value, hv⟩ := exists_find?_of_mem_keys hkey
      exact List.find?_eq_none.1 hf _ (find?_eq_some_iff.1 hv) ((h key hkey).2 rfl)
    exact (Option.not_isSome_iff_eq_none.1 fun hs ↦ hno (contains_iff.1 hs)).symm
  | some e =>
    have hmem : e ∈ t.entries := List.mem_of_find?_eq_some hf
    have hp : p e.1 = true := by simpa using List.find?_some hf
    have hkey : e.1 = key := (h e.1 (List.mem_map_of_mem hmem)).1 hp
    exact (find?_eq_some_iff.2 (hkey ▸ hmem)).symm

theorem find?_insert (t : Table κ β) (key other : κ) (value : β) :
    (t.insert key value).find? other = if other = key then some value else t.find? other :=
  lookup_put key other value t.entries

theorem keys_insert (t : Table κ β) (key : κ) (value : β) :
    (t.insert key value).keys = if key ∈ t.keys then t.keys else t.keys ++ [key] :=
  map_fst_put key value t.entries

theorem values_insert {t : Table κ β} {key : κ} (h : key ∉ t.keys) (value : β) :
    (t.insert key value).values = t.values ++ [value] := by
  show (put key value t.entries).map Prod.snd = t.values ++ [value]
  rw [put_eq_append h, List.map_append]
  rfl

theorem find?_keep (p : κ → β → Bool) (t : Table κ β) (key : κ) :
    (t.keep p).find? key = (t.find? key).filter (p key) := by
  refine Option.ext fun value ↦ ?_
  rw [find?_eq_some_iff, Option.filter_eq_some_iff, find?_eq_some_iff, keep, List.mem_filter]

theorem find?_erase (t : Table κ β) (key other : κ) :
    (t.erase key).find? other = if other = key then none else t.find? other :=
  lookup_filter key other t.entries

theorem keys_erase (t : Table κ β) (key : κ) :
    (t.erase key).keys = t.keys.filter (· ≠ key) := by
  simp only [keys, erase, List.filter_map]
  rfl

theorem find?_modify (t : Table κ β) (key other : κ) (f : β → β) :
    (t.modify key f).find? other =
      if other = key then (t.find? other).map f else t.find? other := by
  have h := lookup_map (fun k value ↦ if k = key then f value else value) other t.entries
  refine h.trans ?_
  by_cases ho : other = key
  · simp only [ho, if_true]; rfl
  · simp only [ho, if_false]
    exact Option.map_id'

theorem find?_mapValues (f : κ → β → γ) (t : Table κ β) (key : κ) :
    (t.mapValues f).find? key = (t.find? key).map (f key) := lookup_map f key t.entries

omit [DecidableEq κ] in
@[simp] theorem keys_mapValues (f : κ → β → γ) (t : Table κ β) :
    (t.mapValues f).keys = t.keys := by
  simp only [keys, mapValues, List.map_map]
  rfl

/-- Two tables with the same keys in the same order and the same values are the same. -/
theorem eq_of_find? {t t' : Table κ β} (hkeys : t.keys = t'.keys)
    (h : ∀ key, t.find? key = t'.find? key) : t = t' :=
  Table.ext (eq_of_lookup hkeys t.keys_nodup h)

@[simp] theorem keys_modify (t : Table κ β) (key : κ) (f : β → β) :
    (t.modify key f).keys = t.keys := by
  simp only [keys, modify, mapValues, List.map_map]
  rfl

omit [DecidableEq κ] in
theorem mapValues_mapValues {δ : Type x} (f : κ → β → γ) (g : κ → γ → δ) (t : Table κ β) :
    (t.mapValues f).mapValues g = t.mapValues fun key value ↦ g key (f key value) :=
  Table.ext List.map_map

theorem erase_mapValues (f : κ → β → γ) (t : Table κ β) (key : κ) :
    (t.mapValues f).erase key = (t.erase key).mapValues f :=
  Table.ext List.filter_map

theorem erase_erase (t : Table κ β) (key other : κ) :
    (t.erase key).erase other = (t.erase other).erase key := by
  refine Table.ext ?_
  simp only [erase, List.filter_filter, Bool.and_comm]

theorem erase_eq_self {t : Table κ β} {key : κ} (h : key ∉ t.keys) : t.erase key = t := by
  refine Table.ext (List.filter_eq_self.2 fun e he ↦ ?_)
  have hne : e.1 ≠ key := fun hk ↦ h (hk ▸ List.mem_map_of_mem he)
  exact decide_eq_true hne

theorem erase_insert {t : Table κ β} {key : κ} (h : key ∉ t.keys) (value : β) :
    (t.insert key value).erase key = t := by
  refine Eq.trans (Table.ext ?_) (erase_eq_self h)
  show (put key value t.entries).filter _ = t.entries.filter _
  rw [put_eq_append h, List.filter_append, List.filter_cons_of_neg (by simp), List.filter_nil,
    List.append_nil]

theorem erase_modify (t : Table κ β) (key : κ) (f : β → β) :
    (t.modify key f).erase key = t.erase key := by
  refine eq_of_find? (by rw [keys_erase, keys_erase, keys_modify]) fun k ↦ ?_
  rw [find?_erase, find?_erase, find?_modify]
  split <;> rfl

/-- Writing the value that stands at a key changes nothing. -/
theorem modify_eq_self {t : Table κ β} {key : κ} {value : β} (h : t.find? key = some value) :
    (t.modify key fun _ ↦ value) = t := by
  refine eq_of_find? (keys_modify t key _) fun k ↦ ?_
  rw [find?_modify]
  split
  · next hk => rw [hk, h, Option.map_some]
  · rfl

end Table

end FlowCanvas
