import Vntc.Lib.Bytes

/-!
# Authenticated encryption

A cipher with associated data, for keys and nonces of any kind. What a proof needs of the cipher is
a hypothesis: it decrypts what it encrypted (`Correct`), it refuses with one key what was encrypted
with another (`Separates`), and it decrypts only under the associated data of the encryption
(`Binds`).
-/

namespace Lib

/-- The arguments are the key, the nonce, the associated data and the text. -/
structure Aead (κ ν : Type) where
  encrypt : κ → ν → Bytes → Bytes → Option Bytes
  decrypt : κ → ν → Bytes → Bytes → Option Bytes

namespace Aead

variable {κ ν : Type} (A : Aead κ ν)

/-- What was encrypted can be decrypted. -/
def Correct : Prop :=
  ∀ k n a m c, A.encrypt k n a m = some c → A.decrypt k n a c = some m

/-- What was encrypted with `k'` is refused with `k`. -/
def Separates (k k' : κ) : Prop :=
  ∀ n a m c, A.encrypt k' n a m = some c → A.decrypt k n a c = none

/-- What was encrypted with `k` is decrypted with `k'` only under the same associated data. -/
def Binds (k k' : κ) : Prop :=
  ∀ n a m c, A.encrypt k n a m = some c → ∀ n' a' m', A.decrypt k' n' a' c = some m' → a' = a

/-- A cipher without secrecy, which marks the text with a tag of the key. -/
def tagged (tag : κ → Bytes.Sized 16) : Aead κ ν where
  encrypt k _ _ m := some (m ++ (tag k).1)
  decrypt k _ _ c :=
    if c.drop (c.length - 16) = (tag k).1 then some (c.take (c.length - 16)) else none

variable {tag : κ → Bytes.Sized 16}

theorem length_append_tag (m : Bytes) (k : κ) : (m ++ (tag k).1).length - 16 = m.length := by
  rw [List.length_append, (tag k).2, Nat.add_sub_cancel]

theorem tagged_correct : (tagged tag : Aead κ ν).Correct := by
  intro k n a m c h
  cases h
  simp only [tagged, length_append_tag, List.drop_left, if_true, List.take_left]

theorem tagged_separates {k k' : κ} (h : tag k ≠ tag k') :
    (tagged tag : Aead κ ν).Separates k k' := by
  intro n a m c hc
  cases hc
  simp only [tagged, length_append_tag, List.drop_left]
  exact if_neg fun e => h (Subtype.ext e.symm)

/-- The associated data as a label that ends where it ends. -/
def label : Bytes → Bytes
  | [] => [0]
  | b :: a => 1 :: b :: label a

/-- What stands behind the label. -/
def unlabel : Bytes → Bytes → Option Bytes
  | [], 0 :: m => some m
  | b :: a, 1 :: b' :: c => if b = b' then unlabel a c else none
  | _, _ => none

theorem unlabel_label {a a' m m' : Bytes} (h : unlabel a' (label a ++ m) = some m') : a' = a := by
  induction a generalizing a' with
  | nil =>
    cases a' with
    | nil => rfl
    | cons => cases h
  | cons b a ih =>
    cases a' with
    | nil => cases h
    | cons b' a' =>
      simp only [label, List.cons_append, unlabel] at h
      split at h
      · rename_i hb
        rw [hb, ih h]
      · cases h

/-- A cipher without secrecy, which labels the text with the associated data. -/
def labelled : Aead κ ν where
  encrypt _ _ a m := some (label a ++ m)
  decrypt _ _ a c := unlabel a c

theorem labelled_binds (k k' : κ) : (labelled : Aead κ ν).Binds k k' := by
  intro n a m c hc n' a' m' hm
  cases hc
  exact unlabel_label hm

end Aead

end Lib
