import Mathlib.Algebra.Group.Nat.Defs
import Mathlib.Data.List.Basic

/-!
# Fields of byte buffers

Reading and writing fixed fields of a buffer, numbers in network byte order. A read outside the
buffer is 0; the codecs check lengths before they read.
-/

namespace Lib

/-- A byte string. -/
abbrev Bytes := List UInt8

namespace Bytes

/-- A byte, 0 past the end. -/
def byteAt (b : Bytes) (i : Nat) : Nat := (b.getD i 0).toNat

/-- A 16-bit field. -/
def readU16 (b : Bytes) (i : Nat) : Nat := b.byteAt i * 2 ^ 8 + b.byteAt (i + 1)

/-- A 32-bit field. -/
def readU32 (b : Bytes) (i : Nat) : BitVec 32 :=
  BitVec.ofNat 32 (b.byteAt i * 2 ^ 24 + b.byteAt (i + 1) * 2 ^ 16 + b.byteAt (i + 2) * 2 ^ 8 +
    b.byteAt (i + 3))

/-- The bytes of a 32-bit field. -/
def ofU32 (x : BitVec 32) : Bytes :=
  [UInt8.ofNat (x.toNat / 2 ^ 24), UInt8.ofNat (x.toNat / 2 ^ 16), UInt8.ofNat (x.toNat / 2 ^ 8),
    UInt8.ofNat x.toNat]

/-- The buffer with another 16-bit field; nothing outside the buffer is written. -/
def writeU16 (b : Bytes) (i x : Nat) : Bytes :=
  (b.set i (UInt8.ofNat (x / 2 ^ 8))).set (i + 1) (UInt8.ofNat x)

/-- The buffer with another 32-bit field. -/
def writeU32 (b : Bytes) (i : Nat) (x : BitVec 32) : Bytes :=
  writeU16 (b.writeU16 i (x.toNat / 2 ^ 16)) (i + 2) (x.toNat % 2 ^ 16)

theorem byteAt_lt (b : Bytes) (i : Nat) : b.byteAt i < 256 := (b.getD i 0).toNat_lt

theorem readU16_lt (b : Bytes) (i : Nat) : b.readU16 i < 65536 := by
  have h0 := b.byteAt_lt i
  have h1 := b.byteAt_lt (i + 1)
  unfold readU16
  omega

variable {i j n : Nat} {a b : Bytes}

theorem byteAt_set_ne (b : Bytes) (h : i ≠ j) (x : UInt8) : byteAt (b.set i x) j = b.byteAt j := by
  unfold byteAt
  rw [List.getD_eq_getElem?_getD, List.getElem?_set_ne h, ← List.getD_eq_getElem?_getD]

theorem byteAt_set_self (b : Bytes) (h : i < b.length) (x : UInt8) :
    byteAt (b.set i x) i = x.toNat := by
  unfold byteAt
  rw [List.getD_eq_getElem?_getD, List.getElem?_set_self h, Option.getD_some]

theorem readU32_set (b : Bytes) (h : i < j ∨ j + 3 < i) (x : UInt8) :
    readU32 (b.set i x) j = b.readU32 j := by
  unfold readU32
  rw [byteAt_set_ne b (by omega), byteAt_set_ne b (by omega), byteAt_set_ne b (by omega),
    byteAt_set_ne b (by omega)]

theorem byteAt_append_right (a b : Bytes) (i : Nat) : byteAt (a ++ b) (a.length + i) = b.byteAt i := by
  unfold byteAt
  rw [List.getD_eq_getElem?_getD, List.getElem?_append_right (Nat.le_add_right _ _),
    Nat.add_sub_cancel_left, ← List.getD_eq_getElem?_getD]

theorem readU16_append_right (a b : Bytes) (i : Nat) :
    readU16 (a ++ b) (a.length + i) = b.readU16 i := by
  unfold readU16
  rw [byteAt_append_right, Nat.add_assoc, byteAt_append_right]

theorem byteAt_drop (b : Bytes) (n i : Nat) : byteAt (b.drop n) i = b.byteAt (n + i) := by
  unfold byteAt
  rw [List.getD_eq_getElem?_getD, List.getElem?_drop, ← List.getD_eq_getElem?_getD]

/-- A field that was written is read back. -/
theorem readU32_ofU32 (a b : Bytes) (x : BitVec 32) :
    readU32 (a ++ (ofU32 x ++ b)) a.length = x := by
  have h0 := byteAt_append_right a (ofU32 x ++ b) 0
  rw [Nat.add_zero] at h0
  unfold readU32
  rw [h0, byteAt_append_right, byteAt_append_right, byteAt_append_right]
  apply BitVec.eq_of_toNat_eq
  have := x.isLt
  simp only [byteAt, ofU32, List.cons_append, List.nil_append, List.getD_cons_zero,
    List.getD_cons_succ, UInt8.toNat_ofNat', BitVec.toNat_ofNat]
  omega

/-- A buffer of four bytes is the field that it is read as. -/
theorem ofU32_readU32 {word : Bytes} (h : word.length = 4) : ofU32 (word.readU32 0) = word := by
  obtain ⟨b0, b1, b2, b3, rfl⟩ := List.length_eq_four.mp h
  have h0 := b0.toNat_lt
  have h1 := b1.toNat_lt
  have h2 := b2.toNat_lt
  have h3 := b3.toNat_lt
  have hx : (readU32 [b0, b1, b2, b3] 0).toNat =
      b0.toNat * 2 ^ 24 + b1.toNat * 2 ^ 16 + b2.toNat * 2 ^ 8 + b3.toNat :=
    (BitVec.toNat_ofNat _ _).trans (Nat.mod_eq_of_lt (by simp [byteAt]; omega))
  simp only [ofU32, hx, List.cons.injEq, and_true]
  refine ⟨?_, ?_, ?_, ?_⟩ <;>
  · apply UInt8.toNat_inj.mp
    rw [UInt8.toNat_ofNat']
    omega

theorem ofU32_inj {x y : BitVec 32} : ofU32 x = ofU32 y ↔ x = y := by
  constructor
  · intro h
    rw [← readU32_ofU32 [] [] x, h, readU32_ofU32]
  · exact congrArg ofU32

/-- A field is written over the four bytes at its place. -/
theorem writeU32_append (a b : Bytes) (x : BitVec 32) (b0 b1 b2 b3 : UInt8) :
    writeU32 (a ++ (b0 :: b1 :: b2 :: b3 :: b)) a.length x = a ++ (ofU32 x ++ b) := by
  have h0 : x.toNat / 2 ^ 16 / 2 ^ 8 = x.toNat / 2 ^ 24 := by omega
  have h2 : UInt8.ofNat (x.toNat % 2 ^ 16 / 2 ^ 8) = UInt8.ofNat (x.toNat / 2 ^ 8) := by
    apply UInt8.toNat_inj.mp
    simp only [UInt8.toNat_ofNat']
    omega
  have h3 : UInt8.ofNat (x.toNat % 2 ^ 16) = UInt8.ofNat x.toNat := by
    apply UInt8.toNat_inj.mp
    simp only [UInt8.toNat_ofNat']
    omega
  unfold writeU32 writeU16
  rw [h0, h2, h3]
  simp only [List.set_append_right _ _ (Nat.le_add_right a.length _),
    List.set_append_right _ _ (Nat.le_refl a.length), Nat.sub_self, Nat.add_assoc,
    Nat.add_sub_cancel_left]
  rfl

theorem length_writeU32 (b : Bytes) (i : Nat) (x : BitVec 32) :
    (b.writeU32 i x).length = b.length := by
  simp only [writeU32, writeU16, List.length_set]

theorem length_writeU16 (b : Bytes) (i x : Nat) : (b.writeU16 i x).length = b.length := by
  simp only [writeU16, List.length_set]

/-! ### What a write leaves -/

theorem byteAt_congr (h : a[i]? = b[i]?) : a.byteAt i = b.byteAt i := by
  unfold byteAt
  rw [List.getD_eq_getElem?_getD, h, List.getD_eq_getElem?_getD]

theorem readU32_congr (h : ∀ k < 4, a[i + k]? = b[i + k]?) : a.readU32 i = b.readU32 i := by
  have h0 := byteAt_congr (h 0 (by decide))
  rw [Nat.add_zero] at h0
  unfold readU32
  rw [h0, byteAt_congr (h 1 (by decide)), byteAt_congr (h 2 (by decide)),
    byteAt_congr (h 3 (by decide))]

theorem readU16_congr (h : ∀ k < 2, a[i + k]? = b[i + k]?) : a.readU16 i = b.readU16 i := by
  have h0 := byteAt_congr (h 0 (by decide))
  rw [Nat.add_zero] at h0
  unfold readU16
  rw [h0, byteAt_congr (h 1 (by decide))]

theorem readU16_writeU16 (h : i + 1 < b.length) {x : Nat} (hx : x < 65536) :
    (b.writeU16 i x).readU16 i = x := by
  unfold readU16 writeU16
  rw [byteAt_set_ne _ (show i + 1 ≠ i by omega), byteAt_set_self _ (by omega),
    byteAt_set_self _ (by rw [List.length_set]; exact h), UInt8.toNat_ofNat', UInt8.toNat_ofNat']
  omega

theorem readU16_drop (b : Bytes) (n i : Nat) : readU16 (b.drop n) i = b.readU16 (n + i) := by
  unfold readU16
  rw [byteAt_drop, byteAt_drop, Nat.add_assoc]

theorem getElem?_writeU16 (b : Bytes) (h : j < i ∨ i + 1 < j) (x : Nat) :
    (b.writeU16 i x)[j]? = b[j]? := by
  unfold writeU16
  rw [List.getElem?_set_ne (by omega), List.getElem?_set_ne (by omega)]

theorem getElem?_writeU32 (b : Bytes) (h : j < i ∨ i + 3 < j) (x : BitVec 32) :
    (b.writeU32 i x)[j]? = b[j]? := by
  unfold writeU32
  rw [getElem?_writeU16 _ (by omega), getElem?_writeU16 _ (by omega)]

theorem writeU16_writeU16 (b : Bytes) (i x y : Nat) :
    (b.writeU16 i x).writeU16 i y = b.writeU16 i y := by
  unfold writeU16
  rw [List.set_comm _ _ (show i + 1 ≠ i by omega), List.set_set, List.set_set]

theorem writeU16_append (a b : Bytes) (h : i + 1 < a.length) (x : Nat) :
    writeU16 (a ++ b) i x = a.writeU16 i x ++ b := by
  unfold writeU16
  rw [List.set_append_left _ _ (Nat.lt_of_succ_lt h),
    List.set_append_left _ _ (by rw [List.length_set]; exact h)]

theorem writeU32_append_left (a b : Bytes) (h : i + 3 < a.length) (x : BitVec 32) :
    writeU32 (a ++ b) i x = a.writeU32 i x ++ b := by
  unfold writeU32
  rw [writeU16_append _ _ (by omega), writeU16_append _ _ (by rw [length_writeU16]; omega)]

theorem take_writeU16 (b : Bytes) (n i x : Nat) :
    (b.writeU16 i x).take n = writeU16 (b.take n) i x := by
  unfold writeU16
  rw [List.take_set, List.take_set]

theorem drop_writeU16 (b : Bytes) (h : i + 1 < n) (x : Nat) :
    (b.writeU16 i x).drop n = b.drop n := by
  unfold writeU16
  rw [List.drop_set, if_pos h, List.drop_set, if_pos (Nat.lt_of_succ_lt h)]

theorem readU32_writeU32 (h : i + 3 < b.length) (x : BitVec 32) :
    (b.writeU32 i x).readU32 i = x := by
  have hi : (b.take i).length = i := by
    rw [List.length_take]
    omega
  match hd : b.drop i with
  | b0 :: b1 :: b2 :: b3 :: rest =>
    have hw := writeU32_append (b.take i) rest x b0 b1 b2 b3
    have hr := readU32_ofU32 (b.take i) rest x
    rw [← hd, List.take_append_drop, hi] at hw
    rw [hw]
    rw [hi] at hr
    exact hr
  | [] | [_] | [_, _] | [_, _, _] =>
    have hl := congrArg List.length hd
    simp only [List.length_drop, List.length_cons, List.length_nil] at hl
    omega

/-! ### Slices -/

/-- The first `n` bytes; none if the buffer is shorter. -/
def sliceTo (b : Bytes) (n : Nat) : Option Bytes := if n ≤ b.length then some (b.take n) else none

/-- The bytes from `n` on; none if the buffer is shorter. -/
def sliceFrom (b : Bytes) (n : Nat) : Option Bytes := if n ≤ b.length then some (b.drop n) else none

theorem sliceTo_of_le (h : n ≤ b.length) : b.sliceTo n = some (b.take n) :=
  if_pos h

theorem sliceFrom_of_le (h : n ≤ b.length) : b.sliceFrom n = some (b.drop n) :=
  if_pos h

theorem sliceTo_eq_none : b.sliceTo n = none ↔ b.length < n := by
  unfold sliceTo
  split
  · rename_i h
    simpa using h
  · rename_i h
    simpa using h

/-- The bytes of a 64-bit field. -/
def ofU64 (x : BitVec 64) : Bytes := ofU32 (x.extractLsb' 32 32) ++ ofU32 (x.extractLsb' 0 32)

theorem ofU64_inj {x y : BitVec 64} : ofU64 x = ofU64 y ↔ x = y := by
  constructor
  · intro h
    obtain ⟨hh, hl⟩ := List.append_inj h rfl
    have hh := congrArg BitVec.toNat (ofU32_inj.mp hh)
    have hl := congrArg BitVec.toNat (ofU32_inj.mp hl)
    simp only [BitVec.extractLsb'_toNat, Nat.shiftRight_eq_div_pow] at hh hl
    apply BitVec.eq_of_toNat_eq
    omega
  · exact congrArg ofU64

/-! ## Buffers of a fixed length -/

/-- A string of `n` bytes. -/
abbrev Sized (n : Nat) := { b : Bytes // b.length = n }

/-- The buffer, if it has `n` bytes. -/
def tryInto (n : Nat) (b : Bytes) : Option (Sized n) :=
  if h : b.length = n then some ⟨b, h⟩ else none

theorem tryInto_eq_some {x : Sized n} : tryInto n b = some x ↔ b = x.1 := by
  unfold tryInto
  split
  · rw [Option.some_inj, Subtype.ext_iff]
  · rename_i h
    exact ⟨fun e => (by cases e), fun e => absurd (e ▸ x.2) h⟩

end Bytes

end Lib
