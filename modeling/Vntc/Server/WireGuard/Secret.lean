import Vntc.Lib.Aead
import Vntc.Lib.Checks
import Vntc.Server.Db.Schema

/-!
# Encrypted private keys

The database has the private key of the server (`server/control_server/wireguard_identity.rs`) and
those of the peers that the server generated (`server/control_server/wireguard_profile.rs`), each
encrypted with the master key. The associated data binds the columns of the row, and for a peer its
network and id. The two kinds of rows are checked in the same way, with errors and associated data
of their own (`SealKind`).

The cipher and the derivation of public keys are parameters (`Crypto`).
-/

namespace Vntc

open Lib Bytes

/-- The cipher `XChaCha20Poly1305`, and the public key of a private key of `X25519`. -/
structure Crypto where
  aead : Aead (Sized 32) (Sized 24)
  publicKey : Sized 32 → Sized 32

/-! ## Errors -/

/-- Why a private key is not read or not encrypted. -/
inductive SealError
  | formatVersion (version : Int)
  | keyVersion (version : Int)
  | publicKeyLength
  | nonceLength
  | authentication
  | privateKeyLength
  | mismatch
  | newVersion
  | encryption
  deriving DecidableEq

inductive RotationError
  | database
  | sameKey
  | noIdentity
  | versionOverflow
  | clockBeforeEpoch
  | clockRange
  | identity (e : SealError)
  | secret (e : SealError)
  | identityChanged
  | secretDisappeared
  deriving DecidableEq

/-! ## Rows -/

/-- The columns that both kinds of rows have. -/
structure SealedKey where
  formatVersion : Int
  encryptionKeyVersion : Int
  nonce : Bytes
  ciphertext : Bytes
  publicKey : Bytes
  createdAt : Int
  updatedAt : Int
  deriving DecidableEq

/-- A row of `wireguard_server_identity`. -/
abbrev EncryptedWireGuardIdentity := SealedKey

/-- A row of `wireguard_peer_secrets`. -/
structure EncryptedWireGuardPeerSecret extends SealedKey where
  networkCode : String
  peerId : String
  deriving DecidableEq

def formatVersion : Int := 1

/-- A kind of rows: its associated data for the two versions and the public key, and its errors. -/
structure SealKind where
  associatedData : Int → Int → Sized 32 → Bytes
  error : SealError → RotationError

def textBytes (s : String) : Bytes := s.toUTF8.toList

def i64Bytes (x : Int) : Bytes := ofU64 (BitVec.ofInt 64 x)

/-- The length of a text as a `u32`, and the text. -/
def lengthAndText (s : String) : Bytes := ofU32 (BitVec.ofNat 32 s.utf8ByteSize) ++ textBytes s

def identityKind : SealKind where
  associatedData format version publicKey :=
    textBytes "vnts2/wireguard-server-identity" ++ i64Bytes format ++ i64Bytes version ++
      publicKey.1
  error := .identity

def secretKind (networkCode peerId : String) : SealKind where
  associatedData format version publicKey :=
    textBytes "vnts2/wireguard-peer-secret" ++ i64Bytes format ++ i64Bytes version ++
      lengthAndText networkCode ++ lengthAndText peerId ++ publicKey.1
  error := .secret

namespace SealKind

variable (kind : SealKind) (C : Crypto) (key : Sized 32)

def decrypt (record : SealedKey) : Except RotationError (Sized 32) := do
  ensure (record.formatVersion = Vntc.formatVersion)
    (kind.error (.formatVersion record.formatVersion))
  ensure (0 < record.encryptionKeyVersion) (kind.error (.keyVersion record.encryptionKeyVersion))
  let publicKey ← orStop (tryInto 32 record.publicKey) (kind.error .publicKeyLength)
  let nonce ← orStop (tryInto 24 record.nonce) (kind.error .nonceLength)
  let plaintext ← orStop (C.aead.decrypt key nonce
    (kind.associatedData record.formatVersion record.encryptionKeyVersion publicKey)
    record.ciphertext) (kind.error .authentication)
  let privateKey ← orStop (tryInto 32 plaintext) (kind.error .privateKeyLength)
  ensure (C.publicKey privateKey = publicKey) (kind.error .mismatch)
  pure privateKey

def encrypt (nonce : Sized 24) (publicKey privateKey : Sized 32)
    (version createdAt updatedAt : Int) : Except RotationError SealedKey := do
  ensure (0 < version) (kind.error .newVersion)
  let ciphertext ← orStop (C.aead.encrypt key nonce
    (kind.associatedData Vntc.formatVersion version publicKey) privateKey.1)
    (kind.error .encryption)
  pure {
    formatVersion := Vntc.formatVersion
    encryptionKeyVersion := version
    nonce := nonce.1
    ciphertext := ciphertext
    publicKey := publicKey.1
    createdAt := createdAt
    updatedAt := updatedAt }

end SealKind

def decryptIdentity (C : Crypto) (key : Sized 32) (record : EncryptedWireGuardIdentity) :
    Except RotationError (Sized 32) :=
  identityKind.decrypt C key record

def encryptIdentity (C : Crypto) (key : Sized 32) (nonce : Sized 24) (privateKey : Sized 32)
    (version createdAt updatedAt : Int) : Except RotationError EncryptedWireGuardIdentity :=
  identityKind.encrypt C key nonce (C.publicKey privateKey) privateKey version createdAt updatedAt

def decryptSecret (C : Crypto) (key : Sized 32) (record : EncryptedWireGuardPeerSecret) :
    Except RotationError (Sized 32) :=
  (secretKind record.networkCode record.peerId).decrypt C key record.toSealedKey

def encryptSecret (C : Crypto) (key : Sized 32) (nonce : Sized 24) (networkCode peerId : String)
    (publicKey privateKey : Sized 32) (version createdAt updatedAt : Int) :
    Except RotationError EncryptedWireGuardPeerSecret := do
  let row ← (secretKind networkCode peerId).encrypt C key nonce publicKey privateKey version
    createdAt updatedAt
  pure { row with networkCode := networkCode, peerId := peerId }

/-! ## Round trip -/

namespace SealKind

variable {kind : SealKind} {C : Crypto} {key key' : Sized 32}

theorem decrypt_eq_ok {record : SealedKey} {privateKey : Sized 32} :
    kind.decrypt C key record = .ok privateKey ↔
      record.formatVersion = Vntc.formatVersion ∧ 0 < record.encryptionKeyVersion ∧
      record.publicKey = (C.publicKey privateKey).1 ∧ ∃ nonce : Sized 24, record.nonce = nonce.1 ∧
        C.aead.decrypt key nonce (kind.associatedData record.formatVersion
          record.encryptionKeyVersion (C.publicKey privateKey)) record.ciphertext =
            some privateKey.1 := by
  simp only [decrypt, bind_eq_ok, ensure_ok, orStop_ok, tryInto_eq_some, pure, Except.pure]
  constructor
  · rintro ⟨-, hf, -, hv, pk, hpk, n, hn, m, hm, k, rfl, -, rfl, he⟩
    cases he
    exact ⟨hf, hv, hpk, n, hn, hm⟩
  · rintro ⟨hf, hv, hpk, n, hn, hm⟩
    exact ⟨(), hf, (), hv, _, hpk, n, hn, _, hm, privateKey, rfl, (), rfl, rfl⟩

theorem encrypt_eq_ok {nonce : Sized 24} {publicKey privateKey : Sized 32}
    {version createdAt updatedAt : Int} {row : SealedKey} :
    kind.encrypt C key nonce publicKey privateKey version createdAt updatedAt = .ok row ↔
      0 < version ∧ ∃ ciphertext,
        C.aead.encrypt key nonce (kind.associatedData Vntc.formatVersion version publicKey)
          privateKey.1 = some ciphertext ∧
        row = ⟨Vntc.formatVersion, version, nonce.1, ciphertext, publicKey.1, createdAt,
          updatedAt⟩ := by
  simp only [encrypt, bind_eq_ok, ensure_ok, orStop_ok, pure, Except.pure]
  constructor
  · rintro ⟨-, hv, c, hc, he⟩
    cases he
    exact ⟨hv, c, hc, rfl⟩
  · rintro ⟨hv, c, hc, rfl⟩
    exact ⟨(), hv, c, hc, rfl⟩

variable {nonce : Sized 24} {publicKey privateKey : Sized 32} {version createdAt updatedAt : Int}
  {row : SealedKey}

/-- What was encrypted with a master key is read with it. -/
theorem decrypt_encrypt (hA : C.aead.Correct) (hpk : C.publicKey privateKey = publicKey)
    (h : kind.encrypt C key nonce publicKey privateKey version createdAt updatedAt = .ok row) :
    kind.decrypt C key row = .ok privateKey := by
  obtain ⟨hv, c, hc, rfl⟩ := encrypt_eq_ok.mp h
  subst hpk
  exact decrypt_eq_ok.mpr ⟨rfl, hv, rfl, nonce, rfl, hA _ _ _ _ _ hc⟩

/-- What was encrypted with another key is not read, if the cipher tells the keys apart. -/
theorem decrypt_ne_ok (hA : C.aead.Separates key' key)
    (h : kind.encrypt C key nonce publicKey privateKey version createdAt updatedAt = .ok row)
    (k : Sized 32) : kind.decrypt C key' row ≠ .ok k := by
  obtain ⟨-, c, hc, rfl⟩ := encrypt_eq_ok.mp h
  intro hk
  obtain ⟨-, -, hpk, n, hn, hm⟩ := decrypt_eq_ok.mp hk
  have hpk : publicKey = C.publicKey k := Subtype.ext hpk
  cases Subtype.ext hn
  subst hpk
  rw [hA _ _ _ _ hc] at hm
  cases hm

end SealKind

end Vntc
