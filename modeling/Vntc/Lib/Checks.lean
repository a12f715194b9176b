import Mathlib.Data.List.Forall2

/-!
# Sequences of checks

A function that checks its input in steps returns the error of the first check that fails. The
lemmas here say what it means that such a sequence succeeds or fails, one step at a time.
-/

namespace Lib

variable {ε α β : Type}

/-- Stop with `e` unless `c`. -/
def ensure (c : Prop) [Decidable c] (e : ε) : Except ε Unit :=
  if c then .ok () else .error e

variable {e : ε} {f : α → Except ε β} {x : Except ε α} {l : List α}

variable {c : Prop} {e' : ε} {o : Option α} {r : List β}

theorem ensure_ok [Decidable c] {u : Unit} : ensure c e = .ok u ↔ c := by
  unfold ensure
  split <;> rename_i h <;> simp [h]

theorem ensure_error [Decidable c] : ensure c e = .error e' ↔ ¬ c ∧ e = e' := by
  unfold ensure
  split <;> rename_i h <;> simp [h]

/-- The value of `o`, or stop with `e`. -/
def orStop (o : Option α) (e : ε) : Except ε α :=
  match o with
  | some a => .ok a
  | none => .error e

theorem orStop_ok {a : α} : orStop o e = .ok a ↔ o = some a := by
  cases o <;> simp [orStop]

theorem orStop_error : orStop o e = .error e' ↔ o = none ∧ e = e' := by
  cases o <;> simp [orStop]

theorem bind_eq_ok {b : β} : (x >>= f) = .ok b ↔ ∃ a, x = .ok a ∧ f a = .ok b := by
  cases x with
  | ok a => exact ⟨fun h => ⟨a, rfl, h⟩, fun ⟨_, ha, h⟩ => by cases ha; exact h⟩
  | error e => exact ⟨nofun, nofun⟩

theorem ensure_bind_ok [Decidable c] {g : Unit → Except ε β} {b : β} :
    (ensure c e >>= g) = .ok b ↔ c ∧ g () = .ok b := by
  unfold ensure
  split <;> rename_i h <;> simp [h, bind, Except.bind]

theorem bind_eq_error : (x >>= f) = .error e ↔ x = .error e ∨ ∃ a, x = .ok a ∧ f a = .error e := by
  cases x with
  | ok a => exact ⟨fun h => .inr ⟨a, rfl, h⟩, fun | .inr ⟨_, ha, h⟩ => by cases ha; exact h⟩
  | error e' => exact ⟨fun h => .inl (by cases h; rfl), fun | .inl h => by cases h; rfl⟩

theorem isOk_iff : x.isOk = true ↔ ∃ a, x = .ok a := by
  cases x <;> simp [Except.isOk, Except.toBool]

/-- Each element of the one list has its partner in the other. -/
theorem exists_of_forall₂ {α β : Type} {R : α → β → Prop} {l : List α} {r : List β}
    (h : List.Forall₂ R l r) : (∀ a ∈ l, ∃ b ∈ r, R a b) ∧ ∀ b ∈ r, ∃ a ∈ l, R a b := by
  induction h with
  | nil => simp
  | @cons a b l r hab _ ih =>
    refine ⟨fun x hx => ?_, fun y hy => ?_⟩
    · rcases List.mem_cons.mp hx with rfl | hx
      · exact ⟨b, List.mem_cons_self, hab⟩
      · obtain ⟨y, hy, hf⟩ := ih.1 x hx
        exact ⟨y, List.mem_cons_of_mem b hy, hf⟩
    · rcases List.mem_cons.mp hy with rfl | hy
      · exact ⟨a, List.mem_cons_self, hab⟩
      · obtain ⟨x, hx, hf⟩ := ih.2 y hy
        exact ⟨x, List.mem_cons_of_mem a hx, hf⟩

/-- A list of steps succeeds if each of them does. -/
theorem mapM_eq_some {α β : Type} {f : α → Option β} {l : List α} {r : List β} :
    l.mapM f = some r ↔ List.Forall₂ (fun a b => f a = some b) l r := by
  induction l generalizing r with
  | nil =>
    constructor
    · intro h; cases h; exact .nil
    · intro h; cases h; rfl
  | cons a l ih =>
    rw [List.mapM_cons]
    constructor
    · intro h
      obtain ⟨b, hb, h⟩ := Option.bind_eq_some_iff.mp h
      obtain ⟨bs, hbs, h⟩ := Option.bind_eq_some_iff.mp h
      cases h
      exact .cons hb (ih.mp hbs)
    · intro h
      cases h with
      | cons hb hbs =>
        exact Option.bind_eq_some_iff.mpr
          ⟨_, hb, Option.bind_eq_some_iff.mpr ⟨_, ih.mpr hbs, rfl⟩⟩

/-- What a list of checks collects was accepted by one of them. -/
theorem exists_of_mem_mapM {α β : Type} {f : α → Option β} {l : List α} {r : List β}
    (h : l.mapM f = some r) {b : β} (hb : b ∈ r) : ∃ a ∈ l, f a = some b :=
  (exists_of_forall₂ (mapM_eq_some.mp h)).2 b hb

theorem mapM_eq_ok : l.mapM f = .ok r ↔ List.Forall₂ (fun a b => f a = .ok b) l r := by
  induction l generalizing r with
  | nil =>
    constructor
    · intro h; cases h; exact .nil
    · intro h; cases h; rfl
  | cons a l ih =>
    rw [List.mapM_cons, bind_eq_ok]
    constructor
    · rintro ⟨b, hb, h⟩
      obtain ⟨bs, hbs, h⟩ := bind_eq_ok.mp h
      cases h
      exact .cons hb (ih.mp hbs)
    · intro h
      cases h with
      | cons hb hbs => exact ⟨_, hb, bind_eq_ok.mpr ⟨_, ih.mpr hbs, rfl⟩⟩

theorem exists_mapM_ok (h : ∀ a ∈ l, ∃ b, f a = .ok b) : ∃ r, l.mapM f = .ok r := by
  induction l with
  | nil => exact ⟨[], rfl⟩
  | cons a l ih =>
    obtain ⟨b, hb⟩ := h a List.mem_cons_self
    obtain ⟨r, hr⟩ := ih fun x hx => h x (List.mem_cons_of_mem a hx)
    exact ⟨b :: r, mapM_eq_ok.mpr (.cons hb (mapM_eq_ok.mp hr))⟩

/-- The results come from the elements, and each element has one. -/
theorem mem_of_mapM_ok (h : l.mapM f = .ok r) :
    (∀ a ∈ l, ∃ b ∈ r, f a = .ok b) ∧ ∀ b ∈ r, ∃ a ∈ l, f a = .ok b :=
  exists_of_forall₂ (mapM_eq_ok.mp h)

end Lib
