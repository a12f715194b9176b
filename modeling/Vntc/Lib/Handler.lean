import Vntc.Lib.Checks

/-!
# Programs that stop with an error

A handler works on a state and returns a value or stops with an error. What it did to the state
before the error stays done.

The rules of `Handler.Wp` are applied in the order of the commands and carry the state along.
-/

namespace Lib

/-- A program on states `σ` that may stop with an error. -/
def Handler (σ ε α : Type) : Type := σ → σ × Except ε α

namespace Handler

variable {σ τ ε α β : Type}

/-- One program after the other. -/
def bind (x : Handler σ ε α) (f : α → Handler σ ε β) : Handler σ ε β := fun s =>
  match x s with
  | (s', .ok a) => f a s'
  | (s', .error e) => (s', .error e)

instance : Monad (Handler σ ε) where
  pure a := fun s => (s, .ok a)
  bind := bind

variable {f : α → Handler σ ε β} {s s' : σ} {x : Handler σ ε α}

theorem bind_of_ok {a : α} (h : x s = (s', .ok a)) : (x >>= f) s = f a s' := by
  show Handler.bind x f s = _
  unfold Handler.bind
  rw [h]

theorem bind_of_error {e : ε} (h : x s = (s', .error e)) : (x >>= f) s = (s', .error e) := by
  show Handler.bind x f s = _
  unfold Handler.bind
  rw [h]

/-- Reads the state. -/
def get : Handler σ ε σ := fun s => (s, .ok s)

/-- Changes the state. -/
def modify (f : σ → σ) : Handler σ ε Unit := fun s => (f s, .ok ())

/-- A computation that does not look at the state. -/
def check (x : Except ε α) : Handler σ ε α := fun s => (s, x)

/-- Only if the condition holds. -/
def when (c : Prop) [Decidable c] (x : Handler σ ε Unit) : Handler σ ε Unit :=
  if c then x else pure ()

/-- A handler of the part `view` of the state. -/
def zoom (view : σ → τ) (put : τ → σ → σ) (x : Handler τ ε α) : Handler σ ε α := fun s =>
  (put (x (view s)).1 s, (x (view s)).2)

/-- The handler returns with `Q` or stops with `E`. -/
def Wp (x : Handler σ ε α) (Q : α → σ → Prop) (E : σ → Prop) (s : σ) : Prop :=
  (∀ a, (x s).2 = .ok a → Q a (x s).1) ∧ ∀ e, (x s).2 = .error e → E (x s).1

/-- The handler keeps `I`, whether it returns or stops. -/
abbrev Keeps (x : Handler σ ε α) (I : σ → Prop) (s : σ) : Prop := x.Wp (fun _ => I) I s

namespace Wp

variable {x : Handler σ ε α} {Q : α → σ → Prop} {R : β → σ → Prop} {E I : σ → Prop} {s : σ}

theorem pure {a : α} (h : Q a s) : Wp (Pure.pure a : Handler σ ε α) Q E s := by
  refine ⟨fun b hb => ?_, fun e he => by cases he⟩
  cases hb
  exact h

theorem bind {f : α → Handler σ ε β} (h : Wp x (fun a s' => Wp (f a) R E s') E s) :
    Wp (x >>= f) R E s := by
  obtain ⟨hok, herr⟩ := h
  show (∀ b, (Handler.bind x f s).2 = .ok b → R b (Handler.bind x f s).1) ∧
    ∀ e, (Handler.bind x f s).2 = .error e → E (Handler.bind x f s).1
  unfold Handler.bind
  split
  · rename_i s' a hs
    rw [hs] at hok
    exact hok a rfl
  · rename_i s' e hs
    rw [hs] at herr
    exact ⟨fun b hb => (by cases hb), fun _ _ => herr e rfl⟩

theorem get {Q : σ → σ → Prop} (h : Q s s) : Wp (Handler.get : Handler σ ε σ) Q E s := by
  refine ⟨fun a ha => ?_, fun e he => by cases he⟩
  cases ha
  exact h

theorem modify {f : σ → σ} {Q : Unit → σ → Prop} (h : Q () (f s)) :
    Wp (Handler.modify f : Handler σ ε Unit) Q E s :=
  ⟨fun _ _ => h, fun e he => by cases he⟩

theorem check {x : Except ε α} (hE : E s) (h : ∀ a, x = .ok a → Q a s) :
    Wp (Handler.check x) Q E s :=
  ⟨h, fun _ _ => hE⟩

theorem when {c : Prop} [Decidable c] {x : Handler σ ε Unit} {Q : Unit → σ → Prop}
    (hx : c → Wp x Q E s) (h : ¬ c → Q () s) : Wp (Handler.when c x) Q E s := by
  unfold Handler.when
  split
  · rename_i hc
    exact hx hc
  · rename_i hc
    exact pure (h hc)

theorem zoom {view : σ → τ} {put : τ → σ → σ} {x : Handler τ ε α}
    (h : Wp x (fun a t => Q a (put t s)) (fun t => E (put t s)) (view s)) :
    Wp (Handler.zoom view put x) Q E s :=
  ⟨h.1, h.2⟩

theorem mono {Q' : α → σ → Prop} {E' : σ → Prop} (h : Wp x Q E s) (hQ : ∀ a s', Q a s' → Q' a s')
    (hE : ∀ s', E s' → E' s') : Wp x Q' E' s :=
  ⟨fun a ha => hQ a _ (h.1 a ha), fun e he => hE _ (h.2 e he)⟩

/-- What holds of the state in both cases. -/
theorem state (h : x.Keeps I s) : I (x s).1 := by
  obtain ⟨hok, herr⟩ := h
  cases hx : (x s).2 with
  | ok a => exact hok a hx
  | error e => exact herr e hx

end Wp

/-- In states with `P`, `x` does to the part `view` of the state what `y` does, and keeps `P`. -/
def Acts (P : σ → Prop) (view : σ → τ) (x : Handler σ ε α) (y : Handler τ ε α) : Prop :=
  ∀ s, P s → P (x s).1 ∧ view (x s).1 = (y (view s)).1 ∧ (x s).2 = (y (view s)).2

namespace Acts

variable {P : σ → Prop} {view : σ → τ} {x : Handler σ ε α} {y : Handler τ ε α}

theorem pure (a : α) : Acts P view (Pure.pure a : Handler σ ε α) (Pure.pure a : Handler τ ε α) :=
  fun _ hs => ⟨hs, rfl, rfl⟩

theorem bind {f : α → Handler σ ε β} {g : α → Handler τ ε β} (hx : Acts P view x y)
    (hf : ∀ a, Acts P view (f a) (g a)) : Acts P view (x >>= f) (y >>= g) := by
  intro s hs
  obtain ⟨hP, hview, hresult⟩ := hx s hs
  show P (Handler.bind x f s).1 ∧ view (Handler.bind x f s).1 = (Handler.bind y g (view s)).1 ∧
    (Handler.bind x f s).2 = (Handler.bind y g (view s)).2
  unfold Handler.bind
  cases hxs : x s with
  | mk s' r =>
    cases hys : y (view s) with
    | mk t' r' =>
      rw [hxs] at hP hview hresult
      rw [hys] at hview hresult
      cases hview
      cases hresult
      cases r with
      | ok a => exact hf a s' hP
      | error e => exact ⟨hP, rfl, rfl⟩

/-- A last command that does nothing to the part. -/
theorem andThen {x : Handler σ ε Unit} {y : Handler τ ε Unit} {z : Unit → Handler σ ε Unit}
    (hx : Acts P view x y) (hz : Acts P view (z ()) (Pure.pure ())) : Acts P view (x >>= z) y := by
  have h := hx.bind (g := fun _ => Pure.pure ()) fun _ => hz
  have hy : (y >>= fun _ => Pure.pure ()) = y := by
    funext t
    show Handler.bind y (fun _ => Pure.pure ()) t = y t
    unfold Handler.bind
    cases y t with
    | mk t' r => cases r <;> rfl
  rwa [hy] at h

variable {put : τ → σ → σ}

theorem zoom (hP : ∀ s t, P s → P (put t s))
    (hput : ∀ s t, view (put t s) = t) : Acts P view (Handler.zoom view put y) y :=
  fun s hs => ⟨hP s _ hs, hput s _, rfl⟩

/-- A look at the part before. -/
theorem look {f : τ → Handler σ ε α} (hP : ∀ s t, P s → P (put t s))
    (hput : ∀ s t, view (put t s) = t) (hf : ∀ t, Acts P view (f t) y) :
    Acts P view (Handler.zoom view put Handler.get >>= f) y := by
  intro s hs
  have h := hf (view s) (put (view s) s) (hP s _ hs)
  rw [hput] at h
  exact h

theorem modify {f : σ → σ} (hP : ∀ s, P s → P (f s)) (hview : ∀ s, view (f s) = view s) :
    Acts P view (Handler.modify f : Handler σ ε Unit) (Pure.pure ()) :=
  fun s hs => ⟨hP s hs, hview s, rfl⟩

theorem when {c : Prop} [Decidable c] {x : Handler σ ε Unit} {y : Handler τ ε Unit}
    (hx : Acts P view x y) : Acts P view (Handler.when c x) (Handler.when c y) := by
  unfold Handler.when
  split
  · exact hx
  · exact pure ()

end Acts

end Handler

end Lib
