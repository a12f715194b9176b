import Mathlib.Algebra.BigOperators.Group.List.Basic
import Mathlib.Algebra.Order.BigOperators.Group.List
import Vntc.Lib.Ipv4Packet

/-!
# The Internet checksum

The ones' complement sum of RFC 1071 over 16-bit words (`onesSum`), and that the checksum which
packet libraries compute makes it all ones. A ones' complement sum is the plain sum modulo
`2^16 - 1`, except that it is zero only if all words are (`onesSum_eq_ones`); the checksum is what
is missing to the next multiple (`complement_spec`).
-/

namespace Lib

namespace Checksum

/-- Ones' complement addition: a carry is added at the other end. -/
def onesAdd (a b : Nat) : Nat := if a + b < 65536 then a + b else a + b - 65535

/-- The sum of words in ones' complement. -/
def onesSum (words : List Nat) : Nat := words.foldl onesAdd 0

/-- The words with those of a pseudo-header add up to all ones. -/
def ValidWith (pseudo : List Nat) (b : Bytes) : Prop := onesSum (pseudo ++ b.words) = 0xffff

/-- The checksum in the bytes is right. -/
def Valid (b : Bytes) : Prop := onesSum b.words = 0xffff

variable {b : Bytes} {k : Nat}

theorem validWith_nil : ValidWith [] b ↔ Valid b := Iff.rfl

/-! ## Sums -/

variable {a x : Nat} {words l : List Nat}

theorem onesAdd_spec {b : Nat} (ha : a < 65536) (hb : b < 65536) :
    onesAdd a b < 65536 ∧ onesAdd a b % 65535 = (a + b) % 65535 ∧
      (onesAdd a b = 0 ↔ a + b = 0) := by
  unfold onesAdd
  split <;> omega

theorem foldl_onesAdd_spec (hw : ∀ w ∈ words, w < 65536) (ha : a < 65536) :
    words.foldl onesAdd a < 65536 ∧ words.foldl onesAdd a % 65535 = (a + words.sum) % 65535 ∧
      (words.foldl onesAdd a = 0 ↔ a + words.sum = 0) := by
  induction words generalizing a with
  | nil => simpa using ha
  | cons w words ih =>
    obtain ⟨hlt, hmod, hzero⟩ := onesAdd_spec ha (hw w List.mem_cons_self)
    obtain ⟨hlt', hmod', hzero'⟩ := ih (fun x hx => hw x (List.mem_cons_of_mem w hx)) hlt
    rw [List.foldl_cons, List.sum_cons]
    refine ⟨hlt', ?_, ?_⟩
    · rw [hmod', Nat.add_mod, hmod, ← Nat.add_mod, Nat.add_assoc]
    · rw [hzero']
      omega

/-- The sum is all ones if the plain sum is a multiple of `2^16 - 1`, and not zero. -/
theorem onesSum_eq_ones (hw : ∀ w ∈ words, w < 65536) :
    onesSum words = 0xffff ↔ 65535 ∣ words.sum ∧ 0 < words.sum := by
  obtain ⟨hlt, hmod, hzero⟩ := foldl_onesAdd_spec hw (show 0 < 65536 by decide)
  unfold onesSum
  omega

/-- What is added to a 32-bit sum to make it valid. -/
def complement (sum : Nat) : Nat := 65535 - Bytes.endAround (Bytes.endAround sum)

theorem complement_spec {sum : Nat} (h : sum < 4294967296) :
    complement sum < 65536 ∧ 65535 ∣ sum + complement sum ∧ 0 < sum + complement sum := by
  unfold complement Bytes.endAround
  omega

/-! ## Words -/

theorem word_lt {w : Nat} (h : w ∈ b.words) : w < 65536 := by
  fun_induction Bytes.words b with
  | case1 => cases h
  | case2 a =>
    cases List.mem_singleton.mp h
    have := a.toNat_lt
    omega
  | case3 a c rest ih =>
    rcases List.mem_cons.mp h with rfl | h
    · have := a.toNat_lt
      have := c.toNat_lt
      omega
    · exact ih h

theorem length_words (b : Bytes) : b.words.length = (b.length + 1) / 2 := by
  fun_induction Bytes.words b with
  | case1 => simp
  | case2 a => simp
  | case3 a c rest ih =>
    simp only [List.length_cons, ih]
    omega

/-- A field at an even place is a word. -/
theorem exists_cons_cons (h : 2 ≤ b.length) : ∃ a c rest, b = a :: c :: rest := by
  obtain _ | ⟨a, _ | ⟨c, rest⟩⟩ := b
  · cases h
  · exact absurd (Nat.le_of_succ_le_succ h) (Nat.not_succ_le_zero 0)
  · exact ⟨a, c, rest, rfl⟩

theorem words_writeU16 (h : 2 * k + 1 < b.length)
    (hx : x < 65536) : Bytes.words (b.writeU16 (2 * k) x) = b.words.set k x := by
  induction k generalizing b with
  | zero =>
    obtain ⟨a, c, rest, rfl⟩ := exists_cons_cons (show 2 ≤ b.length by omega)
    simp only [Bytes.writeU16, Nat.mul_zero, List.set_cons_zero, List.set_cons_succ, Bytes.words,
      UInt8.toNat_ofNat', List.cons.injEq, and_true]
    omega
  | succ k ih =>
    obtain ⟨a, c, rest, rfl⟩ := exists_cons_cons (show 2 ≤ b.length by omega)
    have hlen : 2 * k + 1 < rest.length := by
      simp only [List.length_cons] at h
      omega
    show Bytes.words (a :: c :: Bytes.writeU16 rest (2 * k) x) = _
    rw [Bytes.words, ih hlen]
    rfl

theorem sum_set (h : k < l.length) (x : Nat) : (l.set k x).sum = (l.eraseIdx k).sum + x := by
  rw [List.sum_set, if_pos h, List.eraseIdx_eq_take_drop_succ, List.sum_append]
  omega

theorem sum_le (h : ∀ w ∈ l, w < 65536) : l.sum ≤ l.length * 65535 :=
  List.sum_le_card_nsmul l 65535 fun w hw => Nat.le_of_lt_succ (h w hw)

/-! ## Checksums -/

/-- The checksum of a buffer without its word `skip`, with a pseudo-header. -/
def checksumWith (pseudo : List Nat) (b : Bytes) (skip : Nat) : Nat :=
  complement (pseudo.sum + (b.words.eraseIdx skip).sum)

theorem checksum_eq (b : Bytes) (skip : Nat) : b.checksum skip = checksumWith [] b skip := by
  simp only [checksumWith, List.sum_nil, Nat.zero_add]
  rfl

/-- The checksum does not depend on the word that is left out. -/
theorem checksum_writeU16 (h : 2 * k + 1 < b.length)
    (hx : x < 65536) : (b.writeU16 (2 * k) x).checksum k = b.checksum k := by
  unfold Bytes.checksum
  rw [words_writeU16 h hx, List.eraseIdx_set_eq]

/-- **A written checksum is valid.** -/
theorem validWith_writeU16 {pseudo : List Nat}
    (hp : ∀ w ∈ pseudo, w < 65536) (hlen : 2 * pseudo.length + b.length ≤ 131072)
    (hk : 2 * k + 1 < b.length) :
    ValidWith pseudo (b.writeU16 (2 * k) (checksumWith pseudo b k)) := by
  have hk' : k < b.words.length := by
    rw [length_words]
    omega
  -- The sum of the other words fits into 32 bits.
  have hsum : pseudo.sum + (b.words.eraseIdx k).sum < 4294967296 := by
    have hps := sum_le hp
    have hes := sum_le fun w (hw : w ∈ b.words.eraseIdx k) => word_lt (List.mem_of_mem_eraseIdx hw)
    rw [List.length_eraseIdx_of_lt hk', length_words] at hes
    omega
  obtain ⟨hlt, hdvd, hpos⟩ := complement_spec hsum
  have htotal : (pseudo ++ b.words.set k (checksumWith pseudo b k)).sum =
      pseudo.sum + (b.words.eraseIdx k).sum + checksumWith pseudo b k := by
    rw [List.sum_append, sum_set hk', Nat.add_assoc]
  rw [ValidWith, words_writeU16 hk (show checksumWith pseudo b k < 65536 from hlt),
    onesSum_eq_ones, htotal]
  · exact ⟨hdvd, hpos⟩
  · intro w hw
    rcases List.mem_append.mp hw with hw | hw
    · exact hp w hw
    · rcases List.mem_or_eq_of_mem_set hw with hw | rfl
      · exact word_lt hw
      · exact hlt

theorem valid_writeU16 (hlen : b.length ≤ 131072)
    (hk : 2 * k + 1 < b.length) : Valid (b.writeU16 (2 * k) (b.checksum k)) := by
  rw [checksum_eq, ← validWith_nil]
  exact validWith_writeU16 (by simp) (by simpa using hlen) hk

end Checksum

end Lib
