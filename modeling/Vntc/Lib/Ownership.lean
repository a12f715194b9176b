import Mathlib.Logic.Function.Basic

/-!
# Holdings and their reverse index

Holders hold at most one resource each, and an index says who owns a resource. Nothing in the
two functions ties them together: an operation that updates one and forgets the other leaves the
index wrong. Over a set `U` of indexed resources there are two halves of being right:

* `Ownership.Covers U`: every held resource of `U` is indexed under its holder;
* `Ownership.Sound U`: every indexed resource is in `U` and held by its owner;
* `Ownership.Exact U`: both, as one equivalence.

`Ownership.Unique` is about the holdings alone: no resource has two holders.

`assign` gives a holder a free resource and indexes it, `revoke` takes a holder's resource away
with its index entry, `move` is one after the other, and `hold` leaves the index alone. `assign`
alone keeps `Covers`, but it keeps `Exact` only if the holder had nothing indexed before
(`Exact.assign_iff`).
-/

namespace Lib

/-- Who holds what, and the index of the owners. -/
@[ext] structure Ownership (D A : Type) where
  held : D → Option A
  owner : A → Option D

namespace Ownership

variable {D A : Type}

/-- Every held resource of `U` is indexed under its holder. -/
def Covers (t : Ownership D A) (U : A → Prop) : Prop :=
  ∀ a d, t.held d = some a → U a → t.owner a = some d

/-- Every indexed resource is in `U` and held by its owner. -/
def Sound (t : Ownership D A) (U : A → Prop) : Prop :=
  ∀ a d, t.owner a = some d → t.held d = some a ∧ U a

/-- The index is right. -/
def Exact (t : Ownership D A) (U : A → Prop) : Prop :=
  ∀ a d, t.owner a = some d ↔ t.held d = some a ∧ U a

/-- No resource has two holders. -/
def Unique (t : Ownership D A) : Prop :=
  ∀ a d e, t.held d = some a → t.held e = some a → d = e

variable {t : Ownership D A} {U : A → Prop} {d : D} {a : A}

theorem exact_iff : t.Exact U ↔ t.Covers U ∧ t.Sound U := by
  constructor
  · intro h
    exact ⟨fun a d hd hu => (h a d).mpr ⟨hd, hu⟩, fun a d ho => (h a d).mp ho⟩
  · rintro ⟨hc, hs⟩ a d
    exact ⟨hs a d, fun ⟨hd, hu⟩ => hc a d hd hu⟩

variable {e : D} {ds : List D}

/-- A resource of `U` has at most one holder. -/
theorem Covers.unique (h : t.Covers U) {d : D} (hd : t.held d = some a) (he : t.held e = some a)
    (hu : U a) : d = e :=
  Option.some.inj ((h a d hd hu).symm.trans (h a e he hu))

/-- A resource of `U` that is not in the index has no holder. -/
theorem Covers.held_ne (h : t.Covers U) (ho : t.owner a = none) (hu : U a) (e : D) :
    t.held e ≠ some a := fun he => by rw [h a e he hu] at ho; cases ho

/-! ## Operations -/

variable [DecidableEq D] [DecidableEq A]

/-- `d` holds `a` and is its owner. -/
def assign (t : Ownership D A) (d : D) (a : A) : Ownership D A where
  held := Function.update t.held d (some a)
  owner := Function.update t.owner a (some d)

/-- `d` holds nothing, and what it held has no owner. -/
def revoke (t : Ownership D A) (d : D) : Ownership D A where
  held := Function.update t.held d none
  owner := fun a => if t.held d = some a then none else t.owner a

/-- `d` gives up what it held for `a`. -/
def move (t : Ownership D A) (d : D) (a : A) : Ownership D A := (t.revoke d).assign d a

/-- `d` holds `x`, and the index is not told. -/
def hold (t : Ownership D A) (d : D) (x : Option A) : Ownership D A :=
  { t with held := Function.update t.held d x }

@[simp] theorem assign_held_self : (t.assign d a).held d = some a := by simp [assign]

@[simp] theorem assign_owner_self : (t.assign d a).owner a = some d := by simp [assign]

theorem assign_held_ne (h : e ≠ d) : (t.assign d a).held e = t.held e := by
  simp [assign, h]

theorem assign_owner_ne {b : A} (h : b ≠ a) : (t.assign d a).owner b = t.owner b := by
  simp [assign, h]

@[simp] theorem revoke_held_self : (t.revoke d).held d = none := by simp [revoke]

theorem revoke_held_ne (h : e ≠ d) : (t.revoke d).held e = t.held e := by
  simp [revoke, h]

theorem revoke_owner_none (h : t.owner a = none) : (t.revoke d).owner a = none := by
  simp [revoke, h]

theorem owner_of_revoke_owner (h : (t.revoke d).owner a = some e) : t.owner a = some e := by
  simp only [revoke] at h
  split at h
  · cases h
  · exact h

theorem owner_of_revokeAll_owner
    (h : (ds.foldl revoke t).owner a = some e) : t.owner a = some e := by
  induction ds generalizing t with
  | nil => exact h
  | cons d ds ih => exact owner_of_revoke_owner (ih h)

theorem held_of_revoke_held (h : (t.revoke d).held e = some a) : t.held e = some a := by
  by_cases he : e = d
  · subst he; rw [revoke_held_self] at h; cases h
  · rwa [revoke_held_ne he] at h

theorem held_of_revokeAll_held (h : (ds.foldl revoke t).held e = some a) : t.held e = some a := by
  induction ds generalizing t with
  | nil => exact h
  | cons d ds ih => exact held_of_revoke_held (ih h)

theorem move_held_ne (h : e ≠ d) : (t.move d a).held e = t.held e := by
  rw [move, assign_held_ne h, revoke_held_ne h]

/-- Taking away nothing changes nothing. -/
theorem revoke_of_none (h : t.held d = none) : t.revoke d = t := by
  ext1
  · exact (congrArg _ h.symm).trans (Function.update_eq_self d t.held)
  · funext a; simp [revoke, h]

/-- Taking away what was just assigned restores a table in which `d` held nothing and `a` was
free. -/
theorem revoke_assign (hd : t.held d = none) (ha : t.owner a = none) :
    (t.assign d a).revoke d = t := by
  ext1
  · funext e
    by_cases he : e = d
    · subst he; simp [hd]
    · rw [revoke_held_ne he, assign_held_ne he]
  · funext b
    by_cases hb : b = a
    · subst hb; simp [revoke, ha]
    · simp [revoke, assign_owner_ne hb, Ne.symm hb]

/-! ## What the operations keep -/

theorem Covers.assign (h : t.Covers U) (ha : t.owner a = none) : (t.assign d a).Covers U := by
  intro b e hb hu
  by_cases he : e = d
  · subst he
    rw [assign_held_self, Option.some.injEq] at hb
    subst hb
    exact assign_owner_self
  · rw [assign_held_ne he] at hb
    have ho := h b e hb hu
    have : b ≠ a := fun hba => by rw [hba, ha] at ho; cases ho
    rw [assign_owner_ne this, ho]

theorem Covers.revoke (h : t.Covers U) (d : D) : (t.revoke d).Covers U := by
  intro b e hb hu
  by_cases he : e = d
  · subst he; rw [revoke_held_self] at hb; cases hb
  · rw [revoke_held_ne he] at hb
    have hne : t.held d ≠ some b := fun hd => he (h.unique hb hd hu)
    simpa [Ownership.revoke, hne] using h b e hb hu

theorem Covers.move (h : t.Covers U) (ha : t.owner a = none) : (t.move d a).Covers U :=
  (h.revoke d).assign (revoke_owner_none ha)

/-- A holder of nothing indexed gets `a`: the index stays right. -/
theorem Sound.assign (h : t.Sound U) (hd : ∀ b, t.held d = some b → ¬ U b) (hu : U a) :
    (t.assign d a).Sound U := by
  intro b e ho
  by_cases hb : b = a
  · subst hb
    rw [assign_owner_self, Option.some.injEq] at ho
    subst ho
    exact ⟨assign_held_self, hu⟩
  · rw [assign_owner_ne hb] at ho
    obtain ⟨hh, hub⟩ := h b e ho
    have he : e ≠ d := fun hed => hd b (hed ▸ hh) hub
    exact ⟨by rw [assign_held_ne he, hh], hub⟩

theorem Sound.revoke (h : t.Sound U) (d : D) : (t.revoke d).Sound U := by
  intro b e ho
  by_cases hd : t.held d = some b
  · simp [Ownership.revoke, hd] at ho
  · simp only [Ownership.revoke, hd, if_false] at ho
    obtain ⟨hh, hub⟩ := h b e ho
    have he : e ≠ d := fun hed => hd (hed ▸ hh)
    exact ⟨by rw [revoke_held_ne he, hh], hub⟩

theorem Exact.revoke (h : t.Exact U) (d : D) : (t.revoke d).Exact U :=
  exact_iff.mpr ⟨(exact_iff.mp h).1.revoke d, (exact_iff.mp h).2.revoke d⟩

/-- Revoking one holder after another. -/
theorem Exact.revokeAll (h : t.Exact U) (ds : List D) : (ds.foldl Ownership.revoke t).Exact U :=
  ds.foldlRecOn (motive := (Exact · U)) _ h fun _ ht d _ => ht.revoke d

theorem Covers.revokeAll (h : t.Covers U) (ds : List D) :
    (ds.foldl Ownership.revoke t).Covers U :=
  ds.foldlRecOn (motive := (Covers · U)) _ h fun _ ht d _ => ht.revoke d

/-- When `assign` keeps the index right. -/
theorem Exact.assign_iff (h : t.Exact U) (ha : t.owner a = none) :
    (t.assign d a).Exact U ↔ U a ∧ ∀ b, t.held d = some b → ¬ U b := by
  constructor
  · intro h'
    refine ⟨((h' a d).mp assign_owner_self).2, fun b hb hu => ?_⟩
    have ho : t.owner b = some d := (h b d).mpr ⟨hb, hu⟩
    have hba : b ≠ a := fun e => by rw [e, ha] at ho; cases ho
    have := ((h' b d).mp (by rw [assign_owner_ne hba, ho])).1
    rw [assign_held_self, Option.some.injEq] at this
    exact hba this.symm
  · rintro ⟨hu, hd⟩
    exact exact_iff.mpr ⟨(exact_iff.mp h).1.assign ha, (exact_iff.mp h).2.assign hd hu⟩

theorem Exact.move (h : t.Exact U) (ha : t.owner a = none) (hu : U a) : (t.move d a).Exact U :=
  ((h.revoke d).assign_iff (revoke_owner_none ha)).mpr
    ⟨hu, fun b hb => by rw [revoke_held_self] at hb; cases hb⟩

/-- A resource that nobody holds stays with one holder. -/
theorem Unique.assign (h : t.Unique) (ha : ∀ e, t.held e ≠ some a) : (t.assign d a).Unique := by
  have other : ∀ e, e ≠ d → (t.assign d a).held e ≠ some a := fun e he => by
    rw [assign_held_ne he]; exact ha e
  intro b e f he hf
  by_cases hb : b = a
  · subst hb
    have hed : e = d := by_contra fun hn => other e hn he
    have hfd : f = d := by_contra fun hn => other f hn hf
    rw [hed, hfd]
  · have back : ∀ k, (t.assign d a).held k = some b → t.held k = some b := by
      intro k hk
      by_cases hkd : k = d
      · subst hkd
        rw [assign_held_self, Option.some.injEq] at hk
        exact (hb hk.symm).elim
      · rwa [assign_held_ne hkd] at hk
    exact h b e f (back e he) (back f hf)

theorem Unique.revoke (h : t.Unique) (d : D) : (t.revoke d).Unique := fun a e f he hf =>
  h a e f (held_of_revoke_held he) (held_of_revoke_held hf)

theorem Unique.revokeAll (h : t.Unique) (ds : List D) : (ds.foldl Ownership.revoke t).Unique :=
  fun a e f he hf => h a e f (held_of_revokeAll_held he) (held_of_revokeAll_held hf)

theorem Unique.move (h : t.Unique) (ha : ∀ e, t.held e ≠ some a) : (t.move d a).Unique :=
  (h.revoke d).assign fun e he => ha e (held_of_revoke_held he)

omit [DecidableEq A] in
/-- What is not indexed may change hands without the index. -/
theorem Exact.hold (h : t.Exact U) (hd : ∀ b, t.held d = some b → ¬ U b) {x : Option A}
    (hx : ∀ b, x = some b → ¬ U b) : (t.hold d x).Exact U := by
  intro b e
  by_cases he : e = d
  · subst he
    rw [show (t.hold e x).owner b = t.owner b from rfl, h b e]
    simp only [Ownership.hold, Function.update_self]
    exact ⟨fun ⟨hb, hu⟩ => (hd b hb hu).elim, fun ⟨hb, hu⟩ => (hx b hb hu).elim⟩
  · rw [show (t.hold d x).owner b = t.owner b from rfl, h b e]
    simp [Ownership.hold, he]

end Ownership

end Lib
