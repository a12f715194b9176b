import Vntc.Lib.HashMap

/-!
# Indexes

A map with further maps that find its keys by some component of an entry. Each of them is kept by
hand: an entry is inserted into all of them, and removed from all of them.
-/

namespace Lib

namespace HashMap

variable {κ ν ι : Type} [DecidableEq κ]

/-- `look` finds the key of each entry of `m` by `f`, and nothing else. -/
def IndexedBy (m : HashMap κ ν) (f : κ → ν → ι) (look : ι → Option κ) : Prop :=
  ∀ i k, look i = some k ↔ ∃ v, m.lookup k = some v ∧ f k v = i

namespace IndexedBy

variable {m : HashMap κ ν} {f : κ → ν → ι} {look look' : ι → Option κ} {k : κ} {v v' : ν}

theorem empty : (∅ : HashMap κ ν).IndexedBy f fun _ => none := by
  intro i k
  simp

theorem find (h : m.IndexedBy f look) (hk : m.lookup k = some v) : look (f k v) = some k :=
  (h _ k).mpr ⟨v, hk, rfl⟩

theorem congr (h : m.IndexedBy f look) (hl : ∀ i, look' i = look i) : m.IndexedBy f look' := by
  intro i k
  rw [hl]
  exact h i k

section

variable [DecidableEq ι]

/-- A new entry, with a component that no other entry has. -/
theorem insert (h : m.IndexedBy f look) (hk : m.lookup k = none) (hi : look (f k v) = none)
    (hl : ∀ i, look' i = if i = f k v then some k else look i) :
    IndexedBy (m.insert k v) f look' := by
  intro i j
  rw [hl, lookup_insert_if]
  constructor
  · intro hj
    split at hj
    · rename_i hif
      cases hj
      exact ⟨v, if_pos rfl, hif.symm⟩
    · obtain ⟨w, hw, rfl⟩ := (h i j).mp hj
      refine ⟨w, ?_, rfl⟩
      rw [if_neg, hw]
      rintro rfl
      rw [hk] at hw
      cases hw
  · rintro ⟨w, hw, rfl⟩
    split at hw
    · rename_i hj
      cases hw
      rw [hj, if_pos rfl]
    · have hfind := h.find hw
      rw [if_neg, hfind]
      intro he
      rw [he, hi] at hfind
      cases hfind

theorem erase (h : m.IndexedBy f look) (hk : m.lookup k = some v)
    (hl : ∀ i, look' i = if i = f k v then none else look i) : IndexedBy (m.erase k) f look' := by
  intro i j
  rw [hl, lookup_erase_if]
  constructor
  · intro hj
    split at hj
    · cases hj
    · rename_i hne
      obtain ⟨w, hw, rfl⟩ := (h i j).mp hj
      refine ⟨w, ?_, rfl⟩
      rw [if_neg, hw]
      rintro rfl
      rw [hk] at hw
      cases hw
      exact hne rfl
  · rintro ⟨w, hw, rfl⟩
    split at hw
    · cases hw
    · rename_i hne
      have hfind := h.find hw
      rw [if_neg, hfind]
      intro he
      rw [he, h.find hk] at hfind
      exact hne (Option.some.inj hfind).symm

end

/-- The entry changes, its component does not. -/
theorem update (h : m.IndexedBy f look) (hk : m.lookup k = some v) (hf : f k v' = f k v) :
    IndexedBy (m.insert k v') f look := by
  intro i j
  rw [h i j, lookup_insert_if]
  by_cases hj : j = k
  · subst hj
    simp only [if_true, hk, Option.some.injEq, exists_eq_left', hf]
  · rw [if_neg hj]

/-- The entries change, their components do not. -/
theorem mapValues {g : ν → ν} (h : m.IndexedBy f look) (hf : ∀ k v, f k (g v) = f k v) :
    IndexedBy (m.mapValues g) f look := by
  intro i k
  rw [h i k, lookup_mapValues]
  simp only [Option.map_eq_some_iff]
  constructor
  · rintro ⟨v, hv, rfl⟩
    exact ⟨g v, ⟨v, hv, rfl⟩, hf k v⟩
  · rintro ⟨_, ⟨v, hv, rfl⟩, rfl⟩
    exact ⟨v, hv, (hf k v).symm⟩

end IndexedBy

end HashMap

end Lib
