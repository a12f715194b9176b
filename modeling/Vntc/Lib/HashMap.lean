import Mathlib.Data.List.AList

/-!
# Hash maps

A hash map is an association list with distinct keys (`AList`); the order of its entries is the
iteration order, which no result here depends on. The operations are those of `AList`
(`lookup`, `insert`, `erase`); this file has what they lack: lookups in one equation, the values
of a map, `retain`, `mapValues` and the map of a list of pairs.
-/

namespace Lib

/-- A map from `κ` to `ν`. -/
abbrev HashMap (κ ν : Type) := AList fun _ : κ => ν

namespace HashMap

variable {κ ν : Type} [DecidableEq κ]

theorem lookup_insert_if (m : HashMap κ ν) (k a : κ) (v : ν) :
    (m.insert k v).lookup a = if a = k then some v else m.lookup a := by
  by_cases h : a = k
  · subst h; simp
  · simp [h, AList.lookup_insert_ne h]

theorem lookup_erase_if (m : HashMap κ ν) (k a : κ) :
    (m.erase k).lookup a = if a = k then none else m.lookup a := by
  by_cases h : a = k
  · subst h; simp
  · simp [h, AList.lookup_erase_ne h]

variable {k : κ} {m : HashMap κ ν} {v : ν} {l : List (κ × ν)}

theorem lookup_insert_cases {a : κ} {w : ν} (h : (m.insert k v).lookup a = some w) :
    (a = k ∧ v = w) ∨ (a ≠ k ∧ m.lookup a = some w) := by
  grind [lookup_insert_if]

theorem lookup_erase_some {a : κ} {w : ν} :
    (m.erase k).lookup a = some w ↔ a ≠ k ∧ m.lookup a = some w := by
  grind [lookup_erase_if]

theorem erase_of_none (h : m.lookup k = none) : m.erase k = m :=
  AList.ext (List.kerase_of_notMem_keys (AList.lookup_eq_none.mp h))

/-- The lookup function of a map after an insertion. -/
theorem lookup_insert_update (m : HashMap κ ν) (k : κ) (v : ν) :
    (fun a => (m.insert k v).lookup a) = Function.update (fun a => m.lookup a) k (some v) := by
  funext a; rw [lookup_insert_if]; simp [Function.update_apply]

theorem mem_entries : (⟨k, v⟩ : (_ : κ) × ν) ∈ m.entries ↔ m.lookup k = some v := by
  rw [← AList.mem_lookup_iff]; rfl

/-- The values of a map, in iteration order. -/
def values (m : HashMap κ ν) : List ν := m.entries.map (·.2)

theorem mem_values : v ∈ m.values ↔ ∃ k, m.lookup k = some v := by
  constructor
  · intro h
    obtain ⟨⟨k, w⟩, hm, rfl⟩ := List.mem_map.mp h
    exact ⟨k, mem_entries.mp hm⟩
  · rintro ⟨k, hk⟩
    exact List.mem_map.mpr ⟨⟨k, v⟩, mem_entries.mpr hk, rfl⟩

/-- The entries that satisfy `p`. -/
def retain (p : κ → ν → Bool) (m : HashMap κ ν) : HashMap κ ν where
  entries := m.entries.filter fun e => p e.1 e.2
  nodupKeys := List.NodupKeys.sublist List.filter_sublist m.nodupKeys

theorem lookup_retain (p : κ → ν → Bool) (m : HashMap κ ν) (k : κ) :
    (m.retain p).lookup k = (m.lookup k).filter (p k) := by
  apply Option.ext
  intro v
  rw [← mem_entries, Option.filter_eq_some_iff, ← mem_entries]
  simp [retain]

/-- `retain` with a closure that also changes the values. -/
def retainMut (f : κ → ν → Option ν) (m : HashMap κ ν) : HashMap κ ν where
  entries := m.entries.filterMap fun e => (f e.1 e.2).map fun v => ⟨e.1, v⟩
  nodupKeys := by
    refine List.Nodup.sublist ?_ m.nodupKeys
    induction m.entries with
    | nil => exact .slnil
    | cons e l ih =>
      cases h : f e.1 e.2 with
      | none => simpa [List.keys, h] using ih.cons e.1
      | some v => simpa [List.keys, h] using ih

theorem lookup_retainMut (f : κ → ν → Option ν) (m : HashMap κ ν) (k : κ) :
    (m.retainMut f).lookup k = (m.lookup k).bind (f k) := by
  apply Option.ext
  intro v
  rw [← mem_entries, Option.bind_eq_some_iff]
  constructor
  · intro h
    obtain ⟨e, he, hv⟩ := List.mem_filterMap.mp h
    obtain ⟨w, hw, heq⟩ := Option.map_eq_some_iff.mp hv
    cases heq
    exact ⟨e.2, mem_entries.mp he, hw⟩
  · rintro ⟨w, hw, hf⟩
    exact List.mem_filterMap.mpr ⟨⟨k, w⟩, mem_entries.mpr hw, by simp [hf]⟩

/-- Remove a key, if there is one to remove. -/
def eraseOpt (m : HashMap κ ν) : Option κ → HashMap κ ν
  | none => m
  | some k => m.erase k

theorem lookup_eraseOpt (m : HashMap κ ν) (o : Option κ) (a : κ) :
    (m.eraseOpt o).lookup a = if o = some a then none else m.lookup a := by
  cases o with
  | none => simp [eraseOpt]
  | some k => simp only [eraseOpt, lookup_erase_if, Option.some.injEq, eq_comm]

/-- The number of entries. -/
def len (m : HashMap κ ν) : Nat := m.entries.length

theorem len_erase_le (m : HashMap κ ν) (k : κ) : len (m.erase k) ≤ len m :=
  (List.kerase_sublist k m.entries).length_le

theorem len_erase_lt (h : m.lookup k = some v) : len (m.erase k) < len m := by
  have hm : k ∈ m.entries.keys := AList.lookup_isSome.mp (by rw [h]; rfl)
  obtain ⟨w, l₁, l₂, -, he, hk⟩ := List.exists_of_kerase hm
  show (List.kerase k m.entries).length < _
  rw [hk, len, he, List.length_append, List.length_append, List.length_cons]
  omega

theorem len_insert_of_none (h : m.lookup k = none) (v : ν) : len (m.insert k v) = len m + 1 := by
  show (List.kinsert k v m.entries).length = _
  rw [List.kinsert, List.kerase_of_notMem_keys (AList.lookup_eq_none.mp h)]
  rfl

theorem len_insert_of_some {w : ν} (h : m.lookup k = some w) (v : ν) :
    len (m.insert k v) = len m := by
  have hm : k ∈ m.entries.keys := AList.lookup_isSome.mp (by rw [h]; rfl)
  obtain ⟨w', l₁, l₂, -, he, hk⟩ := List.exists_of_kerase hm
  show (List.kinsert k v m.entries).length = _
  rw [List.kinsert, hk, len, he, List.length_cons, List.length_append, List.length_append,
    List.length_cons]
  omega

/-- The value of a key changes, if it has one. -/
def modify (m : HashMap κ ν) (k : κ) (f : ν → ν) : HashMap κ ν :=
  match m.lookup k with
  | some v => m.insert k (f v)
  | none => m

theorem lookup_modify (m : HashMap κ ν) (k a : κ) (f : ν → ν) :
    (modify m k f).lookup a = if a = k then (m.lookup k).map f else m.lookup a := by
  unfold modify
  cases h : m.lookup k with
  | none =>
    by_cases ha : a = k
    · rw [if_pos ha, ha, h]; rfl
    · rw [if_neg ha]
  | some v => exact lookup_insert_if m k a (f v)

/-- The map that `collect` builds from pairs: the last pair of a key counts. -/
def ofPairs (l : List (κ × ν)) : HashMap κ ν := l.foldl (fun m e => m.insert e.1 e.2) ∅

theorem mem_of_lookup_foldl (h : (l.foldl (fun m e => m.insert e.1 e.2) m).lookup k = some v) :
    (k, v) ∈ l ∨ m.lookup k = some v := by
  induction l generalizing m with
  | nil => exact .inr h
  | cons e l ih =>
    rcases ih h with hm | hm
    · exact .inl (List.mem_cons_of_mem e hm)
    · rw [lookup_insert_if] at hm
      split at hm
      · rename_i hk
        cases hm
        exact .inl (by rw [hk]; exact List.mem_cons_self)
      · exact .inr hm

theorem mem_of_lookup_ofPairs (h : (ofPairs l).lookup k = some v) : (k, v) ∈ l :=
  (mem_of_lookup_foldl h).resolve_right fun hn => by cases hn

theorem isSome_lookup_foldl (h : k ∈ l.map Prod.fst ∨ (m.lookup k).isSome) :
    ((l.foldl (fun m e => m.insert e.1 e.2) m).lookup k).isSome := by
  induction l generalizing m with
  | nil => simpa using h
  | cons e l ih =>
    refine ih ?_
    rw [lookup_insert_if]
    rcases h with h | h
    · rcases List.mem_cons.mp h with h | h
      · exact .inr (by rw [if_pos h]; rfl)
      · exact .inl h
    · right; split
      · rfl
      · exact h

/-- Every key of the pairs has a value. -/
theorem isSome_lookup_ofPairs (h : (k, v) ∈ l) : ((ofPairs l).lookup k).isSome :=
  isSome_lookup_foldl (.inl (List.mem_map_of_mem h))

/-- `extend`: the entries of `n` replace those of `m`. -/
def extend (m n : HashMap κ ν) : HashMap κ ν := n ∪ m

theorem lookup_extend (m n : HashMap κ ν) (k : κ) :
    (extend m n).lookup k = (n.lookup k).or (m.lookup k) := by
  unfold extend
  cases h : n.lookup k with
  | none =>
    rw [AList.lookup_union_right (AList.lookup_eq_none.mp h)]; rfl
  | some v =>
    rw [AList.lookup_union_left (AList.lookup_isSome.mp (by rw [h]; rfl)), h]; rfl

/-- The first value of a map that `f` accepts, in iteration order. -/
def findMap {β : Type} (f : κ → ν → Option β) (m : HashMap κ ν) : Option β :=
  m.entries.findSome? fun e => f e.1 e.2

theorem findMap_some {β : Type} {f : κ → ν → Option β} {b : β}
    (h : m.findMap f = some b) : ∃ k v, m.lookup k = some v ∧ f k v = some b := by
  obtain ⟨⟨k, v⟩, hm, hf⟩ := List.exists_of_findSome?_eq_some h
  exact ⟨k, v, mem_entries.mp hm, hf⟩

theorem findMap_none {β : Type} {f : κ → ν → Option β} :
    m.findMap f = none ↔ ∀ k v, m.lookup k = some v → f k v = none := by
  unfold findMap
  rw [List.findSome?_eq_none_iff]
  constructor
  · intro h k v hk
    exact h ⟨k, v⟩ (mem_entries.mpr hk)
  · rintro h ⟨k, v⟩ hm
    exact h k v (mem_entries.mp hm)

/-- Every value changes. -/
def mapValues {μ : Type} (f : ν → μ) (m : HashMap κ ν) : HashMap κ μ where
  entries := m.entries.map fun e => ⟨e.1, f e.2⟩
  nodupKeys := by
    have h : (m.entries.map fun e => (⟨e.1, f e.2⟩ : (_ : κ) × μ)).keys = m.entries.keys := by
      rw [List.keys, List.map_map]
      rfl
    rw [List.NodupKeys, h]
    exact m.nodupKeys

section mapValues
variable {μ : Type} (f : ν → μ) (m : HashMap κ ν)

theorem lookup_mapValues (k : κ) : (m.mapValues f).lookup k = (m.lookup k).map f := by
  apply Option.ext
  intro w
  rw [← mem_entries, Option.map_eq_some_iff]
  constructor
  · intro h
    obtain ⟨⟨k', v⟩, hm, he⟩ := List.mem_map.mp h
    cases he
    exact ⟨v, mem_entries.mp hm, rfl⟩
  · rintro ⟨v, hv, rfl⟩
    exact List.mem_map.mpr ⟨⟨k, v⟩, mem_entries.mpr hv, rfl⟩

omit [DecidableEq κ] in
theorem len_mapValues : (m.mapValues f).len = m.len := List.length_map _

theorem kerase_map (k : κ) (l : List ((_ : κ) × ν)) :
    (l.map fun e => (⟨e.1, f e.2⟩ : (_ : κ) × μ)).kerase k =
      (l.kerase k).map fun e => ⟨e.1, f e.2⟩ := by
  induction l with
  | nil => rfl
  | cons e l ih =>
    by_cases h : k = e.1
    · rw [List.kerase_cons_eq h]
      exact List.kerase_cons_eq h
    · have h' : k ≠ (⟨e.1, f e.2⟩ : (_ : κ) × μ).1 := h
      rw [List.kerase_cons_ne h, List.map_cons, List.kerase_cons_ne h', ih, List.map_cons]

theorem mapValues_erase (k : κ) : mapValues f (m.erase k) = (m.mapValues f).erase k :=
  AList.ext (kerase_map f k m.entries).symm

theorem mapValues_insert (k : κ) (v : ν) :
    mapValues f (m.insert k v) = (m.mapValues f).insert k (f v) :=
  AList.ext (congrArg (List.cons _) (kerase_map f k m.entries).symm)

omit [DecidableEq κ] in
theorem findMap_mapValues {β : Type} (g : κ → μ → Option β) :
    (m.mapValues f).findMap g = m.findMap fun k v => g k (f v) :=
  List.findSome?_map

omit [DecidableEq κ] in
theorem retain_mapValues (p : κ → μ → Bool) :
    (m.mapValues f).retain p = mapValues f (m.retain fun k v => p k (f v)) :=
  AList.ext List.filter_map

end mapValues

theorem kerase_eq_filter {l : List ((_ : κ) × ν)} (h : l.NodupKeys) :
    l.kerase k = l.filter fun e => decide (e.1 ≠ k) := by
  induction l with
  | nil => rfl
  | cons e l ih =>
    obtain ⟨hn, h⟩ := List.nodupKeys_cons.mp h
    by_cases he : k = e.1
    · -- No other entry has the key.
      rw [List.kerase_cons_eq he, List.filter_cons_of_neg (by simp [he])]
      refine (List.filter_eq_self.mpr fun e' he' => ?_).symm
      rw [decide_eq_true_eq, he]
      intro hk
      exact hn (hk ▸ List.mem_map_of_mem he')
    · rw [List.kerase_cons_ne he, ih h, List.filter_cons_of_pos (by simp [Ne.symm he])]

/-- Removing one key after the other leaves the entries with other keys. -/
theorem foldl_erase_eq_retain (ks : List κ) (m : HashMap κ ν) :
    ks.foldl (fun m k => m.erase k) m = m.retain fun k _ => !ks.contains k := by
  apply AList.ext
  induction ks generalizing m with
  | nil => exact (List.filter_eq_self.mpr fun _ _ => rfl).symm
  | cons k ks ih =>
    rw [List.foldl_cons, ih]
    simp only [retain]
    rw [show (m.erase k).entries = _ from kerase_eq_filter m.nodupKeys, List.filter_filter]
    refine List.filter_congr fun e _ => ?_
    by_cases h : e.1 = k <;> simp [h]

end HashMap

/-- A set of keys. -/
abbrev HashSet (κ : Type) := HashMap κ Unit

end Lib
