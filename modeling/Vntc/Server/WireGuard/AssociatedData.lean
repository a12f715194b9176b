import Vntc.Server.WireGuard.Secret

/-!
# What the associated data binds

The associated data of an encrypted private key (`associated_data` of
`server/control_server/wireguard_profile.rs` and `wireguard_identity.rs`) is a context, the two
versions, for a peer its network and id with their lengths, and the public key. Each field has a
known length or stands behind its length, so the fields can be read back one after the other.
-/

namespace Vntc

open Lib Bytes

/-! ## Fields -/

/-- A value of the type `i64`. -/
def IsI64 (x : Int) : Prop := -2 ^ 63 ≤ x ∧ x < 2 ^ 63

theorem i64Bytes_inj {x y : Int} (hx : IsI64 x) (hy : IsI64 y) :
    i64Bytes x = i64Bytes y ↔ x = y := by
  constructor
  · intro h
    have h : (BitVec.ofInt 64 x).toInt = (BitVec.ofInt 64 y).toInt :=
      congrArg BitVec.toInt (ofU64_inj.mp h)
    obtain ⟨hx, hx'⟩ := hx
    obtain ⟨hy, hy'⟩ := hy
    rw [BitVec.toInt_ofInt, BitVec.toInt_ofInt, Int.bmod_def, Int.bmod_def] at h
    omega
  · exact congrArg i64Bytes

theorem toList_loop (bs : ByteArray) (i : Nat) (r : List UInt8) :
    ByteArray.toList.loop bs i r = r.reverse ++ bs.data.toList.drop i := by
  induction i, r using ByteArray.toList.loop.induct bs with
  | case1 i r hi ih =>
    have hi' : i < bs.data.toList.length := hi
    have hget : bs.get! i = bs.data.toList[i] := by
      rw [Array.getElem_toList]
      exact getElem!_pos bs.data i hi
    rw [ByteArray.toList.loop, if_pos hi, ih, List.drop_eq_getElem_cons hi', List.reverse_cons,
      List.append_assoc, hget]
    rfl
  | case2 i r hi =>
    have hi' : bs.data.toList.length ≤ i := Nat.not_lt.mp hi
    rw [ByteArray.toList.loop, if_neg hi, List.drop_eq_nil_of_le hi', List.append_nil]

theorem textBytes_eq (s : String) : textBytes s = s.toByteArray.data.toList :=
  (toList_loop _ 0 []).trans rfl

theorem length_textBytes (s : String) : (textBytes s).length = s.utf8ByteSize := by
  rw [textBytes_eq]
  rfl

theorem textBytes_inj {s t : String} : textBytes s = textBytes t ↔ s = t := by
  rw [textBytes_eq, textBytes_eq, Array.toList_inj]
  exact ⟨fun h => String.toByteArray_inj.mp (ByteArray.ext h), fun h => by rw [h]⟩

/-- A text behind its length is read back, whatever follows. -/
theorem lengthAndText_append_inj {s t : String} (hs : s.utf8ByteSize < 2 ^ 32)
    (ht : t.utf8ByteSize < 2 ^ 32) {a b : Bytes}
    (h : lengthAndText s ++ a = lengthAndText t ++ b) : s = t ∧ a = b := by
  unfold lengthAndText at h
  rw [List.append_assoc, List.append_assoc] at h
  obtain ⟨hl, h⟩ := List.append_inj h rfl
  have hl : s.utf8ByteSize = t.utf8ByteSize := by
    have := congrArg BitVec.toNat (ofU32_inj.mp hl)
    rwa [BitVec.toNat_ofNat, BitVec.toNat_ofNat, Nat.mod_eq_of_lt hs, Nat.mod_eq_of_lt ht] at this
  obtain ⟨he, h⟩ := List.append_inj h (by rw [length_textBytes, length_textBytes, hl])
  exact ⟨textBytes_inj.mp he, h⟩

/-! ## Owners -/

/-- What the associated data of a peer's private key is made of. -/
structure SecretOwner where
  formatVersion : Int
  keyVersion : Int
  networkCode : String
  peerId : String
  publicKey : Sized 32
  format_i64 : IsI64 formatVersion
  version_i64 : IsI64 keyVersion
  networkCode_lt : networkCode.utf8ByteSize < 2 ^ 32
  peerId_lt : peerId.utf8ByteSize < 2 ^ 32

def SecretOwner.associatedData (o : SecretOwner) : Bytes :=
  (secretKind o.networkCode o.peerId).associatedData o.formatVersion o.keyVersion o.publicKey

/-- Two owners with the same associated data are the same. -/
theorem SecretOwner.associatedData_injective : Function.Injective associatedData := by
  rintro ⟨f, v, nc, pid, pk, hf, hv, hnc, hpid⟩ ⟨f', v', nc', pid', pk', hf', hv', hnc', hpid'⟩ h
  simp only [associatedData, secretKind, List.append_assoc] at h
  -- The versions have eight bytes each, the texts their lengths before them.
  obtain ⟨hfe, h₁⟩ := List.append_inj (List.append_cancel_left h) rfl
  obtain ⟨hve, h₂⟩ := List.append_inj h₁ rfl
  obtain ⟨rfl, h₃⟩ := lengthAndText_append_inj hnc hnc' h₂
  obtain ⟨rfl, h₄⟩ := lengthAndText_append_inj hpid hpid' h₃
  cases (i64Bytes_inj hf hf').mp hfe
  cases (i64Bytes_inj hv hv').mp hve
  cases Subtype.ext h₄
  rfl

/-- The contexts differ, so no associated data of a peer is one of the server. -/
theorem associatedData_ne (networkCode peerId : String) (format format' version version' : Int)
    (publicKey publicKey' : Sized 32) :
    (secretKind networkCode peerId).associatedData format version publicKey ≠
      identityKind.associatedData format' version' publicKey' := by
  intro h
  have h := congrArg (List.take 17) h
  simp only [secretKind, identityKind, List.append_assoc, textBytes_eq] at h
  rw [List.take_append_of_le_length (by decide), List.take_append_of_le_length (by decide)] at h
  revert h
  decide

/-! ## Ciphertexts -/

/-- The columns of a row have their types, and its texts have lengths of the type `u32`. -/
def EncryptedWireGuardPeerSecret.InRange (r : EncryptedWireGuardPeerSecret) : Prop :=
  IsI64 r.encryptionKeyVersion ∧ r.networkCode.utf8ByteSize < 2 ^ 32 ∧
    r.peerId.utf8ByteSize < 2 ^ 32

/-- The columns that a ciphertext is bound to. -/
def EncryptedWireGuardPeerSecret.owner (r : EncryptedWireGuardPeerSecret) :
    String × String × Bytes × Int :=
  (r.networkCode, r.peerId, r.publicKey, r.encryptionKeyVersion)

theorem encryptSecret_eq_ok {C : Crypto} {key : Sized 32} {nonce : Sized 24}
    {networkCode peerId : String} {publicKey privateKey : Sized 32}
    {version createdAt updatedAt : Int} {row : EncryptedWireGuardPeerSecret}
    (h : encryptSecret C key nonce networkCode peerId publicKey privateKey version createdAt
      updatedAt = .ok row) :
    row.owner = (networkCode, peerId, publicKey.1, version) ∧
      C.aead.encrypt key nonce ((secretKind networkCode peerId).associatedData formatVersion
        version publicKey) privateKey.1 = some row.ciphertext := by
  simp only [encryptSecret, bind_eq_ok, pure, Except.pure] at h
  obtain ⟨sealed, hs, h⟩ := h
  cases h
  obtain ⟨-, c, hc, rfl⟩ := SealKind.encrypt_eq_ok.mp hs
  exact ⟨rfl, hc⟩

theorem isI64_formatVersion : IsI64 formatVersion := by
  constructor <;> decide

/-- The associated data tells all owners apart, so with a cipher that decrypts only under the
associated data of the encryption, the ciphertext of a peer's private key is read neither for
another owner nor as the private key of the server. -/
theorem secret_bound (C : Crypto) (key key' : Sized 32) (hA : C.aead.Binds key key') :
    Function.Injective SecretOwner.associatedData ∧
      (∀ (o : SecretOwner) (format version : Int) (publicKey : Sized 32),
        o.associatedData ≠ identityKind.associatedData format version publicKey) ∧
      ∀ nonce networkCode peerId publicKey privateKey version createdAt updatedAt row,
        encryptSecret C key nonce networkCode peerId publicKey privateKey version createdAt
          updatedAt = .ok row → row.InRange →
        (∀ record k, record.InRange → record.ciphertext = row.ciphertext →
          decryptSecret C key' record = .ok k → record.owner = row.owner) ∧
        ∀ record k, record.ciphertext = row.ciphertext → decryptIdentity C key' record ≠ .ok k := by
  refine ⟨SecretOwner.associatedData_injective, ?_, ?_⟩
  · intro o format version publicKey
    exact associatedData_ne _ _ _ _ _ _ _ _
  · intro nonce networkCode peerId publicKey privateKey version createdAt updatedAt row hrow hrange
    obtain ⟨hown, henc⟩ := encryptSecret_eq_ok hrow
    simp only [EncryptedWireGuardPeerSecret.owner, Prod.mk.injEq] at hown
    obtain ⟨rfl, rfl, hpk, rfl⟩ := hown
    refine ⟨fun record k hrec hc hd => ?_, fun record k hc hd => ?_⟩
    · obtain ⟨hf, -, hpk', n, -, hm⟩ := SealKind.decrypt_eq_ok.mp hd
      have hm : C.aead.decrypt key' n _ row.ciphertext = _ := hc ▸ hm
      have he := hA _ _ _ _ henc _ _ _ hm
      rw [hf] at he
      let o : SecretOwner := ⟨formatVersion, record.encryptionKeyVersion, record.networkCode,
        record.peerId, C.publicKey k, isI64_formatVersion, hrec.1, hrec.2.1, hrec.2.2⟩
      let o' : SecretOwner := ⟨formatVersion, row.encryptionKeyVersion, row.networkCode,
        row.peerId, publicKey, isI64_formatVersion, hrange.1, hrange.2.1, hrange.2.2⟩
      have ho : o = o' := SecretOwner.associatedData_injective he
      simp only [o, o', SecretOwner.mk.injEq, true_and] at ho
      obtain ⟨hv, hn, hp, hk⟩ := ho
      simp only [EncryptedWireGuardPeerSecret.owner, hv, hn, hp, hpk', hpk, hk]
    · obtain ⟨-, -, -, n, -, hm⟩ := SealKind.decrypt_eq_ok.mp hd
      have hm : C.aead.decrypt key' n _ row.ciphertext = _ := hc ▸ hm
      exact associatedData_ne _ _ _ _ _ _ _ _ (hA _ _ _ _ henc _ _ _ hm).symm

/-- A cipher that labels, and private keys that are their public keys. -/
def labelCrypto : Crypto := ⟨Aead.labelled, id⟩

def zeroKey : Sized 32 := ⟨List.replicate 32 0, rfl⟩

/-- The row of the peer "phone". -/
def phoneRow : EncryptedWireGuardPeerSecret where
  formatVersion := 1
  encryptionKeyVersion := 1
  nonce := List.replicate 24 0
  ciphertext := Aead.label ((secretKind "home" "phone").associatedData 1 1 zeroKey) ++ zeroKey.1
  publicKey := zeroKey.1
  createdAt := 0
  updatedAt := 0
  networkCode := "home"
  peerId := "phone"

/-- The row of the phone under the id of another peer. -/
def tabletRow : EncryptedWireGuardPeerSecret := { phoneRow with peerId := "tablet" }

/-- The ciphertext of the phone in the row of the peer "tablet" is not read. -/
theorem secret_bound_phone :
    encryptSecret labelCrypto zeroKey ⟨List.replicate 24 0, rfl⟩ "home" "phone" zeroKey zeroKey 1 0
        0 = .ok phoneRow ∧
      ∀ k, decryptSecret labelCrypto zeroKey tabletRow ≠ .ok k := by
  have hrange : phoneRow.InRange := ⟨⟨by decide, by decide⟩, by decide, by decide⟩
  have hrange' : tabletRow.InRange := ⟨⟨by decide, by decide⟩, by decide, by decide⟩
  have hrow : encryptSecret labelCrypto zeroKey ⟨List.replicate 24 0, rfl⟩ "home" "phone" zeroKey
      zeroKey 1 0 0 = .ok phoneRow := rfl
  refine ⟨hrow, fun k hk => ?_⟩
  have hA : labelCrypto.aead.Binds zeroKey zeroKey := Aead.labelled_binds _ _
  have h := ((secret_bound labelCrypto zeroKey zeroKey hA).2.2 _ _ _ _ _ _ _ _ _ hrow hrange).1
    _ k hrange' rfl hk
  have h : "tablet" = "phone" := congrArg (fun o => o.2.1) h
  revert h
  decide

end Vntc
