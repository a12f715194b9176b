import Mathlib.Logic.Function.Basic

/-!
# Labelled transition systems and their runs

A system has initial states and labelled atomic steps. A property of every state of every run
is proved by an **inductive invariant**: it holds initially and each step keeps it. Many
properties hold only of runs whose steps meet a condition on the state before the step, so the
reachable states are defined relative to such a condition (`Sys.ReachWith`); `Sys.Reach` is the
case without a condition.
-/

namespace Lib

/-- A system: its initial states and the steps of each label. -/
structure Sys (σ α : Type) where
  init : σ → Prop
  step : σ → α → σ → Prop

namespace Sys

variable {σ α : Type}

/-- The system whose steps are the values of `f`. -/
def ofFun (init : σ → Prop) (f : σ → α → σ) : Sys σ α where
  init := init
  step s a s' := s' = f s a

variable (S : Sys σ α)

/-- The states that a run reaches when each of its steps meets `C`. -/
inductive ReachWith (C : σ → α → Prop) : σ → Prop
  | init {s : σ} : S.init s → ReachWith C s
  | step {s s' : σ} (a : α) : ReachWith C s → C s a → S.step s a s' → ReachWith C s'

/-- The states that a run reaches. -/
def Reach : σ → Prop := S.ReachWith fun _ _ => True

variable {S}

variable {C : σ → α → Prop} {I : σ → Prop} {s : σ} {as : List α} {f : σ → α → σ}

/-- The invariant rule: what holds initially, and is kept by each step that meets `C`, holds of
every state of a run whose steps meet `C`. -/
theorem ReachWith.invariant (h0 : ∀ s, S.init s → I s)
    (hs : ∀ s a s', I s → C s a → S.step s a s' → I s') (h : S.ReachWith C s) : I s := by
  induction h with
  | init hi => exact h0 _ hi
  | step a _ hc hst ih => exact hs _ a _ ih hc hst

theorem Reach.invariant (h0 : ∀ s, S.init s → I s)
    (hs : ∀ s a s', I s → S.step s a s' → I s') (h : S.Reach s) : I s :=
  ReachWith.invariant h0 (fun s a s' hi _ => hs s a s' hi) h

/-- The invariant rule for a step function. -/
theorem ReachWith.invariant_of {init : σ → Prop} (h : (ofFun init f).ReachWith C s)
    (h0 : ∀ s, init s → I s) (hs : ∀ s a, I s → C s a → I (f s a)) : I s :=
  h.invariant h0 fun s a _ hi hc hst => by rw [hst]; exact hs s a hi hc

/-- A run that meets a condition is a run that meets every weaker one. -/
theorem ReachWith.mono {D : σ → α → Prop} (hCD : ∀ s a, C s a → D s a)
    (h : S.ReachWith C s) : S.ReachWith D s := by
  induction h with
  | init hi => exact .init hi
  | step a _ hc hst ih => exact .step a ih (hCD _ a hc) hst

theorem Reach.init (h : S.init s) : S.Reach s := ReachWith.init h

theorem Reach.next {s' : σ} (h : S.Reach s) (a : α) (hst : S.step s a s') : S.Reach s' :=
  ReachWith.step a h trivial hst

/-- The rule of simulation; `I` is an invariant that the simulation may use. -/
theorem ReachWith.simulate {τ β : Type} {T : Sys τ β}
    (f : σ → τ) (hI : ∀ s, S.ReachWith C s → I s) (h0 : ∀ s, S.init s → T.init (f s))
    (hs : ∀ s a s', I s → C s a → S.step s a s' → f s' = f s ∨ ∃ b, T.step (f s) b (f s'))
    (h : S.ReachWith C s) : T.Reach (f s) := by
  induction h with
  | init hi => exact Reach.init (h0 _ hi)
  | step a hr hc hst ih =>
    rcases hs _ a _ (hI _ hr) hc hst with he | ⟨b, hb⟩
    · rw [he]; exact ih
    · exact ih.next b hb

/-- The steps of the list meet `C` one after the other. -/
def Meets (C : σ → α → Prop) (f : σ → α → σ) : σ → List α → Prop
  | _, [] => True
  | s, a :: as => C s a ∧ Meets C f (f s a) as

instance Meets.decidable {C : σ → α → Prop} [∀ s a, Decidable (C s a)] {f : σ → α → σ} :
    ∀ s as, Decidable (Meets C f s as)
  | _, [] => inferInstanceAs (Decidable True)
  | s, a :: as => @instDecidableAnd _ _ _ (Meets.decidable (f s a) as)

/-- A condition on the labels alone is met with any other one. -/
theorem Meets.and_left {D : α → Prop}
    (h : Meets C f s as) (hd : ∀ a ∈ as, D a) : Meets (fun s a => D a ∧ C s a) f s as := by
  induction as generalizing s with
  | nil => trivial
  | cons a as ih =>
    exact ⟨⟨hd a List.mem_cons_self, h.1⟩, ih h.2 fun b hb => hd b (List.mem_cons_of_mem a hb)⟩

theorem ReachWith.foldl {init : σ → Prop} (h : (ofFun init f).ReachWith C s) (hm : Meets C f s as) :
    (ofFun init f).ReachWith C (as.foldl f s) := by
  induction as generalizing s with
  | nil => exact h
  | cons a as ih => exact ih (.step a h hm.1 rfl) hm.2

theorem Reach.foldl {init : σ → Prop} (h : (ofFun init f).Reach s)
    (as : List α) : (ofFun init f).Reach (as.foldl f s) := by
  induction as generalizing s with
  | nil => exact h
  | cons a as ih => exact ih (h.next a rfl)

/-- What the steps of a list make true one by one, with an invariant that they keep. -/
theorem foldl_iff {Q : σ → Prop} {B : α → Prop}
    (hs : ∀ s, I s → ∀ a ∈ as, I (f s a) ∧ (Q (f s a) ↔ Q s ∨ B a)) (h0 : I s) :
    Q (as.foldl f s) ↔ Q s ∨ ∃ a ∈ as, B a := by
  induction as generalizing s with
  | nil => simp
  | cons a as ih =>
    obtain ⟨hI, hQ⟩ := hs s h0 a List.mem_cons_self
    rw [List.foldl_cons, ih (fun s hI b hb => hs s hI b (List.mem_cons_of_mem a hb)) hI, hQ]
    simp only [List.mem_cons, exists_eq_or_imp, or_assoc]

end Sys

end Lib
