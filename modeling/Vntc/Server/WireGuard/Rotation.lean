import Mathlib.Data.List.Sort
import Vntc.Server.WireGuard.Secret

/-!
# Rotation of the master key

`rotate_master_key_with_pool` of `server/control_server/wireguard_identity.rs`, with
`reencrypt_all_peer_secrets_with_pool` and `replace_wireguard_identity_and_peer_secrets_with_pool`.
The rotation reads the identity, reads the secrets, and replaces them all in one transaction. The
transaction compares the identity with the one that was read; of a secret it compares only the
network and the peer. Other writes can come between the reads and the transaction, so the rotation
is a function of the database at these three times.
-/

namespace Vntc

open Lib Bytes

/-! ## Tables -/

def SealedKey.wellFormed (r : SealedKey) : Bool :=
  r.formatVersion == 1 && 0 < r.encryptionKeyVersion && r.nonce.length == 24 &&
    r.ciphertext.length == 48 && r.publicKey.length == 32

/-- At most one row: its id is 1. -/
def wireguardServerIdentity : Schema EncryptedWireGuardIdentity where
  check := SealedKey.wellFormed
  clash _ _ := true
  clash_comm _ _ := rfl

namespace EncryptedWireGuardPeerSecret

def isPeer (networkCode peerId : String) (r : EncryptedWireGuardPeerSecret) : Bool :=
  r.networkCode == networkCode && r.peerId == peerId

theorem isPeer_iff {n p : String} {r : EncryptedWireGuardPeerSecret} :
    r.isPeer n p = true ↔ r.networkCode = n ∧ r.peerId = p := by
  simp [isPeer]

/-- The order of the rows in a query. -/
def le (r x : EncryptedWireGuardPeerSecret) : Prop :=
  r.networkCode < x.networkCode ∨ r.networkCode = x.networkCode ∧ r.peerId ≤ x.peerId

instance : DecidableRel le := fun _ _ => inferInstanceAs (Decidable (_ ∨ _))

/-- The columns of `s`, except the key and the time of creation. -/
def updateFrom (x s : EncryptedWireGuardPeerSecret) : EncryptedWireGuardPeerSecret :=
  { s with networkCode := x.networkCode, peerId := x.peerId, createdAt := x.createdAt }

end EncryptedWireGuardPeerSecret

def wireguardPeerSecrets : Schema EncryptedWireGuardPeerSecret where
  check r := r.toSealedKey.wellFormed
  clash r x := r.isPeer x.networkCode x.peerId
  clash_comm r x := by
    rw [Bool.eq_iff_iff, EncryptedWireGuardPeerSecret.isPeer_iff,
      EncryptedWireGuardPeerSecret.isPeer_iff]
    exact and_congr eq_comm eq_comm

structure KeyStore where
  identity : Table wireguardServerIdentity
  secrets : Table wireguardPeerSecrets

/-! ## Rotation -/

/-- The answers of the database to the statements of a rotation, the clock in seconds, and the
random nonces. -/
structure RotationEnv where
  loadIdentity : Bool
  loadSecrets : Bool
  begins : Bool
  updateIdentity : Bool
  updateSecret : EncryptedWireGuardPeerSecret → Bool
  commits : Bool
  clock : Int
  identityNonce : Sized 24
  secretNonce : EncryptedWireGuardPeerSecret → Sized 24

structure MasterKeyRotation where
  publicKey : Sized 32
  previousVersion : Int
  newVersion : Int
  deriving DecidableEq

def unixTimestamp (clock : Int) : Except RotationError Int := do
  ensure (0 ≤ clock) .clockBeforeEpoch
  ensure (clock ≤ i64Max) .clockRange
  pure clock

/-- `load_all_wireguard_peer_secrets_with_pool` -/
def KeyStore.loadAll (db : KeyStore) : List EncryptedWireGuardPeerSecret :=
  db.secrets.rows.insertionSort EncryptedWireGuardPeerSecret.le

section Rotation

variable (C : Crypto) (env : RotationEnv) (current new : Sized 32)

/-- One turn of the loop of `reencrypt_all_peer_secrets_with_pool`. -/
def reencryptSecret (version updatedAt : Int) (record : EncryptedWireGuardPeerSecret) :
    Except RotationError EncryptedWireGuardPeerSecret := do
  let privateKey ← decryptSecret C current record
  let publicKey ← orStop (tryInto 32 record.publicKey) (.secret .publicKeyLength)
  encryptSecret C new (env.secretNonce record) record.networkCode record.peerId publicKey privateKey
    version record.createdAt updatedAt

def reencryptAllPeerSecrets (version updatedAt : Int) (db : KeyStore) :
    Except RotationError (List EncryptedWireGuardPeerSecret) :=
  db.loadAll.mapM (reencryptSecret C env current new version updatedAt)

/-- What the rotation has read and made before the transaction. -/
structure Replacement where
  current : EncryptedWireGuardIdentity
  replacement : EncryptedWireGuardIdentity
  privateKey : Sized 32
  secrets : List EncryptedWireGuardPeerSecret

def prepareRotation (atIdentity atSecrets : KeyStore) : Except RotationError Replacement := do
  ensure (current ≠ new) .sameKey
  ensure (env.loadIdentity = true) .database
  let record ← orStop (atIdentity.identity.find fun _ => true) .noIdentity
  let privateKey ← decryptIdentity C current record
  ensure (record.encryptionKeyVersion < i64Max) .versionOverflow
  let now ← unixTimestamp env.clock
  let replacement ← encryptIdentity C new env.identityNonce privateKey
    (record.encryptionKeyVersion + 1) record.createdAt now
  ensure (env.loadSecrets = true) .database
  let secrets ← reencryptAllPeerSecrets C env current new (record.encryptionKeyVersion + 1) now
    atSecrets
  pure ⟨record, replacement, privateKey, secrets⟩

/-- The update of one secret. -/
def replaceSecret (db : KeyStore) (s : EncryptedWireGuardPeerSecret) :
    Except RotationError KeyStore := do
  ensure (env.updateSecret s = true) .database
  let secrets ← orStop (db.secrets.update (·.isPeer s.networkCode s.peerId) (·.updateFrom s))
    .database
  ensure (∃ x ∈ db.secrets.rows, x.isPeer s.networkCode s.peerId = true) .secretDisappeared
  pure { db with secrets := secrets }

def replaceIdentityAndPeerSecrets (current replacement : EncryptedWireGuardIdentity)
    (secrets : List EncryptedWireGuardPeerSecret) (db : KeyStore) :
    Except RotationError KeyStore := do
  ensure (env.begins = true) .database
  ensure (env.updateIdentity = true) .database
  let identity ← orStop (db.identity.replace (· == current) replacement) .database
  ensure (current ∈ db.identity.rows) .identityChanged
  let db' ← secrets.foldlM (replaceSecret env) { db with identity := identity }
  ensure (env.commits = true) .database
  pure db'

/-- The database is given at the read of the identity, at the read of the secrets and at the
transaction. -/
def rotateMasterKeyWithPool (atIdentity atSecrets atReplace : KeyStore) :
    Except RotationError MasterKeyRotation × KeyStore :=
  match prepareRotation C env current new atIdentity atSecrets with
  | .error e => (.error e, atReplace)
  | .ok r => transaction (fun db => do
      let db' ← replaceIdentityAndPeerSecrets env r.current r.replacement r.secrets db
      pure (⟨C.publicKey r.privateKey, r.current.encryptionKeyVersion,
        r.current.encryptionKeyVersion + 1⟩, db')) atReplace

end Rotation

/-! ## The property -/

/-- `after` has the private key of `before`, and only with the new master key. -/
structure Carried (C : Crypto) (kind : SealKind) (current new : Sized 32) (version : Int)
    (before after : SealedKey) : Prop where
  privateKey : ∃ k, kind.decrypt C current before = .ok k ∧ kind.decrypt C new after = .ok k
  publicKey : after.publicKey = before.publicKey
  version : after.encryptionKeyVersion = version
  old : ∀ k, kind.decrypt C current after ≠ .ok k

/-- Every row is carried over, and there are no others. -/
structure Rotated (C : Crypto) (current new : Sized 32) (rotation : MasterKeyRotation)
    (before after : KeyStore) : Prop where
  identity : ∃ r r', before.identity.rows = [r] ∧ after.identity.rows = [r'] ∧
    r.encryptionKeyVersion = rotation.previousVersion ∧ r.publicKey = rotation.publicKey.1 ∧
    Carried C identityKind current new rotation.newVersion r r'
  secrets : List.Forall₂ (fun s s' => s'.networkCode = s.networkCode ∧ s'.peerId = s.peerId ∧
    Carried C (secretKind s.networkCode s.peerId) current new rotation.newVersion s.toSealedKey
      s'.toSealedKey) before.secrets.rows after.secrets.rows

def SameSecrets (a b : KeyStore) : Prop := ∀ r, r ∈ a.secrets.rows ↔ r ∈ b.secrets.rows

section Rotation

variable (C : Crypto) (env : RotationEnv) (current new : Sized 32)
  (atIdentity atSecrets atReplace : KeyStore)

/-- A rotation that succeeds has carried over every row, and what it has read is still there; a
rotation that fails has changed nothing. -/
def Sound : Prop :=
  match rotateMasterKeyWithPool C env current new atIdentity atSecrets atReplace with
  | (.ok rotation, after) => atIdentity.identity.rows = atReplace.identity.rows ∧
      SameSecrets atSecrets atReplace ∧ Rotated C current new rotation atReplace after
  | (.error _, after) => after = atReplace

/-- The database answers. -/
structure RotationEnv.Works : Prop where
  loadIdentity : env.loadIdentity = true
  loadSecrets : env.loadSecrets = true
  begins : env.begins = true
  updateIdentity : env.updateIdentity = true
  commits : env.commits = true

/-- The identity is that of the transaction, and it can be encrypted again. -/
structure IdentityAccepted (now : Int) (r : EncryptedWireGuardIdentity) : Prop where
  read : r ∈ atIdentity.identity.rows
  unchanged : r ∈ atReplace.identity.rows
  version : r.encryptionKeyVersion < i64Max
  encrypts : ∃ privateKey r', decryptIdentity C current r = .ok privateKey ∧
    encryptIdentity C new env.identityNonce privateKey (r.encryptionKeyVersion + 1) r.createdAt
      now = .ok r' ∧ r'.wellFormed = true

/-- The secret can be encrypted again, and its peer has some secret at the transaction. -/
structure SecretAccepted (version now : Int) (s : EncryptedWireGuardPeerSecret) : Prop where
  encrypts : ∃ s', reencryptSecret C env current new version now s = .ok s' ∧
    s'.wellFormed = true ∧ env.updateSecret s' = true
  present : ∃ x ∈ atReplace.secrets.rows, x.isPeer s.networkCode s.peerId = true

/-- Every check of the rotation passes. -/
def Accepted : Prop :=
  current ≠ new ∧ env.Works ∧ 0 ≤ env.clock ∧ env.clock ≤ i64Max ∧
  ∃ r, IdentityAccepted C env current new atIdentity atReplace env.clock r ∧
    ∀ s ∈ atSecrets.secrets.rows,
      SecretAccepted C env current new atReplace (r.encryptionKeyVersion + 1) env.clock s

end Rotation

/-! ## The transaction -/

variable {r : EncryptedWireGuardIdentity} {t : Table wireguardServerIdentity}

theorem identity_rows (h : r ∈ t.rows) : t.rows = [r] := by
  have hp := t.valid.2
  generalize t.rows = l at h hp ⊢
  cases l with
  | nil => cases h
  | cons x l =>
    cases l with
    | nil => rw [List.mem_singleton.mp h]
    | cons y l =>
      have := (List.pairwise_cons.mp hp).1 y List.mem_cons_self
      cases this

theorem find_identity : (t.find fun _ => true) = some r ↔ r ∈ t.rows := by
  rw [Table.find_eq_some fun _ _ _ _ => rfl]
  simp

theorem mem_loadAll {db : KeyStore} {s : EncryptedWireGuardPeerSecret} :
    s ∈ db.loadAll ↔ s ∈ db.secrets.rows := List.mem_insertionSort _

namespace EncryptedWireGuardPeerSecret

/-- The row after the update with `s`. -/
def updated (s x : EncryptedWireGuardPeerSecret) : EncryptedWireGuardPeerSecret :=
  if x.isPeer s.networkCode s.peerId then x.updateFrom s else x

/-- The row after all updates. -/
def updatedAll (l : List EncryptedWireGuardPeerSecret) (x : EncryptedWireGuardPeerSecret) :
    EncryptedWireGuardPeerSecret :=
  l.foldl (fun y s => s.updated y) x

theorem isPeer_updated (n p : String) (s x : EncryptedWireGuardPeerSecret) :
    (s.updated x).isPeer n p = x.isPeer n p := by
  unfold updated
  split <;> rfl

/-- A row that has one update among them, maybe more than once. -/
theorem updatedAll_eq {l : List EncryptedWireGuardPeerSecret} {s x : EncryptedWireGuardPeerSecret}
    (hs : s ∈ l) (hx : x.isPeer s.networkCode s.peerId = true)
    (huniq : ∀ s' ∈ l, x.isPeer s'.networkCode s'.peerId = true → s' = s) :
    updatedAll l x = x.updateFrom s := by
  -- The row stays that of the peer, whichever updates came before.
  have hdone : ∀ (l : List EncryptedWireGuardPeerSecret),
      (∀ s' ∈ l, x.isPeer s'.networkCode s'.peerId = true → s' = s) →
      updatedAll l (x.updateFrom s) = x.updateFrom s := by
    intro l hl
    induction l with
    | nil => rfl
    | cons a l ih =>
      have ha : a.updated (x.updateFrom s) = x.updateFrom s := by
        unfold updated
        split
        · rename_i hp
          rw [hl a List.mem_cons_self hp]
          rfl
        · rfl
      unfold updatedAll at ih ⊢
      rw [List.foldl_cons, ha]
      exact ih fun s' hs' => hl s' (List.mem_cons_of_mem a hs')
  induction l with
  | nil => cases hs
  | cons a l ih =>
    have hrest : ∀ s' ∈ l, x.isPeer s'.networkCode s'.peerId = true → s' = s :=
      fun s' hs' => huniq s' (List.mem_cons_of_mem a hs')
    by_cases ha : x.isPeer a.networkCode a.peerId = true
    · have : a.updated x = x.updateFrom s := by
        rw [huniq a List.mem_cons_self ha, updated, if_pos hx]
      unfold updatedAll at hdone ⊢
      rw [List.foldl_cons, this]
      exact hdone l hrest
    · have hstep : a.updated x = x := if_neg ha
      have hmem : s ∈ l := by
        rcases List.mem_cons.mp hs with rfl | hs
        · exact absurd hx ha
        · exact hs
      unfold updatedAll at ih ⊢
      rw [List.foldl_cons, hstep]
      exact ih hmem hrest

end EncryptedWireGuardPeerSecret

open EncryptedWireGuardPeerSecret

section Transaction

variable {env : RotationEnv} {db db' : KeyStore}

/-- What a statement for a secret needs. -/
structure Replaceable (env : RotationEnv) (t : Table wireguardPeerSecrets)
    (s : EncryptedWireGuardPeerSecret) : Prop where
  answers : env.updateSecret s = true
  wellFormed : s.wellFormed = true
  present : ∃ x ∈ t.rows, x.isPeer s.networkCode s.peerId = true

theorem clash_updateFrom (s x y : EncryptedWireGuardPeerSecret) :
    wireguardPeerSecrets.clash (x.updateFrom s) y = wireguardPeerSecrets.clash x y := rfl

variable {s : EncryptedWireGuardPeerSecret} {current replacement : EncryptedWireGuardIdentity}

theorem replaceSecret_ok (h : replaceSecret env db s = .ok db') :
    Replaceable env db.secrets s ∧ db'.identity = db.identity ∧
      db'.secrets.rows = db.secrets.rows.map s.updated := by
  simp only [replaceSecret, bind_eq_ok, ensure_ok, orStop_ok, pure, Except.pure] at h
  obtain ⟨-, ha, t, ht, -, ⟨x, hx, hp⟩, he⟩ := h
  cases he
  have hcheck :=
    (Table.update_isSome (clash_updateFrom s)).mp (Option.isSome_iff_exists.mpr ⟨t, ht⟩)
  exact ⟨⟨ha, hcheck x hx hp, x, hx, hp⟩, rfl, Table.update_eq_some.mp ht⟩

theorem exists_replaceSecret (h : Replaceable env db.secrets s)
    : ∃ db', replaceSecret env db s = .ok db' := by
  have hcheck : (db.secrets.update (·.isPeer s.networkCode s.peerId) (·.updateFrom s)).isSome :=
    (Table.update_isSome (clash_updateFrom s)).mpr fun _ _ _ => h.wellFormed
  obtain ⟨t, ht⟩ := Option.isSome_iff_exists.mp hcheck
  refine ⟨{ db with secrets := t }, ?_⟩
  simp only [replaceSecret, bind_eq_ok, ensure_ok, orStop_ok, pure, Except.pure]
  exact ⟨(), h.answers, t, ht, (), h.present, rfl⟩

theorem replaceable_map {t t' : Table wireguardPeerSecrets} {a : EncryptedWireGuardPeerSecret}
    (hrows : t'.rows = t.rows.map a.updated) : Replaceable env t' s ↔ Replaceable env t s := by
  have hpresent : (∃ x ∈ t'.rows, x.isPeer s.networkCode s.peerId = true) ↔
      ∃ x ∈ t.rows, x.isPeer s.networkCode s.peerId = true := by
    rw [hrows]
    constructor
    · rintro ⟨x, hx, hp⟩
      obtain ⟨y, hy, rfl⟩ := List.mem_map.mp hx
      exact ⟨y, hy, isPeer_updated _ _ a y ▸ hp⟩
    · rintro ⟨y, hy, hp⟩
      exact ⟨_, List.mem_map.mpr ⟨y, hy, rfl⟩, (isPeer_updated _ _ a y).trans hp⟩
  exact ⟨fun h => ⟨h.answers, h.wellFormed, hpresent.mp h.present⟩,
    fun h => ⟨h.answers, h.wellFormed, hpresent.mpr h.present⟩⟩

variable {l secrets : List EncryptedWireGuardPeerSecret}

/-- The statements for the secrets, one after the other. -/
theorem replaceSecrets_ok (h : l.foldlM (replaceSecret env) db = .ok db') :
    (∀ s ∈ l, Replaceable env db.secrets s) ∧ db'.identity = db.identity ∧
      db'.secrets.rows = db.secrets.rows.map (updatedAll l) := by
  induction l generalizing db with
  | nil =>
    cases h
    exact ⟨fun s hs => (by cases hs), rfl, (List.map_id _).symm⟩
  | cons a l ih =>
    rw [List.foldlM_cons, bind_eq_ok] at h
    obtain ⟨db₁, h₁, h⟩ := h
    obtain ⟨ha, hi₁, hr₁⟩ := replaceSecret_ok h₁
    obtain ⟨hl, hi, hr⟩ := ih h
    refine ⟨fun s hs => ?_, hi.trans hi₁, ?_⟩
    · rcases List.mem_cons.mp hs with rfl | hs
      · exact ha
      · exact (replaceable_map hr₁).mp (hl s hs)
    · rw [hr, hr₁, List.map_map]
      rfl

theorem exists_replaceSecrets (h : ∀ s ∈ l, Replaceable env db.secrets s) :
    ∃ db', l.foldlM (replaceSecret env) db = .ok db' := by
  induction l generalizing db with
  | nil => exact ⟨db, rfl⟩
  | cons a l ih =>
    obtain ⟨db₁, h₁⟩ := exists_replaceSecret (h a List.mem_cons_self)
    obtain ⟨-, -, hr₁⟩ := replaceSecret_ok h₁
    obtain ⟨db', h'⟩ := @ih db₁ fun s hs =>
      (replaceable_map hr₁).mpr (h s (List.mem_cons_of_mem a hs))
    exact ⟨db', by rw [List.foldlM_cons, bind_eq_ok]; exact ⟨db₁, h₁, h'⟩⟩

theorem replace_identity {t t' : Table wireguardServerIdentity} (hc : current ∈ t.rows) :
    t.replace (· == current) replacement = some t' ↔ t'.rows = [replacement] := by
  have hrows : (t.rows.map fun x => if (x == current) = true then replacement else x) =
      [replacement] := by
    rw [identity_rows hc]
    simp
  rw [← hrows]
  exact Table.ofRows?_eq_some

theorem replaceIdentityAndPeerSecrets_ok
    (h : replaceIdentityAndPeerSecrets env current replacement secrets db = .ok db') :
    (env.begins = true ∧ env.updateIdentity = true ∧ env.commits = true) ∧
    current ∈ db.identity.rows ∧ replacement.wellFormed = true ∧
    (∀ s ∈ secrets, Replaceable env db.secrets s) ∧ db'.identity.rows = [replacement] ∧
    db'.secrets.rows = db.secrets.rows.map (updatedAll secrets) := by
  simp only [replaceIdentityAndPeerSecrets, bind_eq_ok, ensure_ok, orStop_ok, pure,
    Except.pure] at h
  obtain ⟨-, hb, -, hu, t, ht, -, hc, db₁, hf, -, hcm, he⟩ := h
  cases he
  have hrows := (replace_identity hc).mp ht
  obtain ⟨hl, hi, hr⟩ := replaceSecrets_ok hf
  have hw : replacement.wellFormed = true := t.valid.1 replacement (by rw [hrows]; simp)
  exact ⟨⟨hb, hu, hcm⟩, hc, hw, hl, by rw [hi]; exact hrows, hr⟩

theorem exists_replaceIdentityAndPeerSecrets
    (henv : env.begins = true ∧ env.updateIdentity = true ∧ env.commits = true)
    (hc : current ∈ db.identity.rows) (hw : replacement.wellFormed = true)
    (hl : ∀ s ∈ secrets, Replaceable env db.secrets s) :
    ∃ db', replaceIdentityAndPeerSecrets env current replacement secrets db = .ok db' := by
  have ht : db.identity.replace (· == current) replacement = some (.single replacement hw) :=
    (replace_identity hc).mpr rfl
  obtain ⟨db', hf⟩ := @exists_replaceSecrets env { db with identity := .single replacement hw }
    secrets hl
  refine ⟨db', ?_⟩
  simp only [replaceIdentityAndPeerSecrets, bind_eq_ok, ensure_ok, orStop_ok, pure, Except.pure]
  exact ⟨(), henv.1, (), henv.2.1, _, ht, (), hc, db', hf, (), henv.2.2, rfl⟩

end Transaction

/-! ## Encryption with the new key -/

theorem unixTimestamp_eq_ok {clock now : Int} :
    unixTimestamp clock = .ok now ↔ (0 ≤ clock ∧ clock ≤ i64Max) ∧ now = clock := by
  simp only [unixTimestamp, bind_eq_ok, ensure_ok, pure, Except.pure, Except.ok.injEq]
  constructor
  · rintro ⟨-, h0, -, h1, rfl⟩
    exact ⟨⟨h0, h1⟩, rfl⟩
  · rintro ⟨⟨h0, h1⟩, rfl⟩
    exact ⟨(), h0, (), h1, rfl⟩

section Keys

variable {C : Crypto} {env : RotationEnv} {current new : Sized 32}

variable {version : Int}

/-- A row that is decrypted and encrypted again is carried over. -/
theorem Carried.of_encrypt {kind : SealKind} (hA : C.aead.Correct)
    (hS : C.aead.Separates current new) {before row : SealedKey} {k : Sized 32} {nonce : Sized 24}
    {createdAt updatedAt : Int} (hd : kind.decrypt C current before = .ok k)
    (he : kind.encrypt C new nonce (C.publicKey k) k version createdAt updatedAt = .ok row)
    (t : Int) : Carried C kind current new version before { row with createdAt := t } where
  privateKey := ⟨k, hd, show kind.decrypt C new row = .ok k from
    SealKind.decrypt_encrypt hA rfl he⟩
  publicKey := by
    obtain ⟨-, c, -, rfl⟩ := SealKind.encrypt_eq_ok.mp he
    exact (SealKind.decrypt_eq_ok.mp hd).2.2.1.symm
  version := by
    obtain ⟨-, c, -, rfl⟩ := SealKind.encrypt_eq_ok.mp he
    rfl
  old j := show kind.decrypt C current row ≠ .ok j from SealKind.decrypt_ne_ok hS he j

variable {now : Int} {s s' : EncryptedWireGuardPeerSecret}

theorem reencryptSecret_ok (h : reencryptSecret C env current new version now s = .ok s') :
    s'.networkCode = s.networkCode ∧ s'.peerId = s.peerId ∧ ∃ k, decryptSecret C current s = .ok k ∧
      (secretKind s.networkCode s.peerId).encrypt C new (env.secretNonce s) (C.publicKey k) k
        version s.createdAt now = .ok s'.toSealedKey := by
  simp only [reencryptSecret, encryptSecret, bind_eq_ok, orStop_ok, tryInto_eq_some, pure,
    Except.pure] at h
  obtain ⟨k, hk, pk, hpk, row, hrow, he⟩ := h
  cases he
  have : pk = C.publicKey k := Subtype.ext (hpk.symm.trans (SealKind.decrypt_eq_ok.mp hk).2.2.1)
  subst this
  exact ⟨rfl, rfl, k, hk, hrow⟩

theorem carried_updateFrom (hA : C.aead.Correct) (hS : C.aead.Separates current new)
    (h : reencryptSecret C env current new version now s = .ok s') :
    Carried C (secretKind s.networkCode s.peerId) current new version s.toSealedKey
      (s.updateFrom s').toSealedKey := by
  obtain ⟨-, -, k, hk, he⟩ := reencryptSecret_ok h
  exact Carried.of_encrypt hA hS hk he s.createdAt

end Keys

/-! ## The rotation -/

section Rotation

variable {C : Crypto} {env : RotationEnv} {current new : Sized 32}
  {atIdentity atSecrets atReplace : KeyStore}

theorem prepareRotation_eq_ok {r : Replacement} :
    prepareRotation C env current new atIdentity atSecrets = .ok r ↔
      current ≠ new ∧ env.loadIdentity = true ∧ env.loadSecrets = true ∧
      (0 ≤ env.clock ∧ env.clock ≤ i64Max) ∧
      r.current ∈ atIdentity.identity.rows ∧ r.current.encryptionKeyVersion < i64Max ∧
      decryptIdentity C current r.current = .ok r.privateKey ∧
      encryptIdentity C new env.identityNonce r.privateKey (r.current.encryptionKeyVersion + 1)
        r.current.createdAt env.clock = .ok r.replacement ∧
      reencryptAllPeerSecrets C env current new (r.current.encryptionKeyVersion + 1) env.clock
        atSecrets = .ok r.secrets := by
  simp only [prepareRotation, bind_eq_ok, ensure_ok, orStop_ok, find_identity, unixTimestamp_eq_ok,
    pure, Except.pure]
  constructor
  · rintro ⟨-, hne, -, hli, record, hr, k, hk, -, hv, now, ⟨hclock, rfl⟩, replacement, he, -, hls,
      secrets, hs, hr'⟩
    cases hr'
    exact ⟨hne, hli, hls, hclock, hr, hv, hk, he, hs⟩
  · rintro ⟨hne, hli, hls, hclock, hr, hv, hk, he, hs⟩
    exact ⟨(), hne, (), hli, r.current, hr, r.privateKey, hk, (), hv, env.clock, ⟨hclock, rfl⟩,
      r.replacement, he, (), hls, r.secrets, hs, rfl⟩

variable {after : KeyStore} {rotation : MasterKeyRotation}

theorem rotate_eq_ok :
    rotateMasterKeyWithPool C env current new atIdentity atSecrets atReplace =
        (.ok rotation, after) ↔
      ∃ r, prepareRotation C env current new atIdentity atSecrets = .ok r ∧
        replaceIdentityAndPeerSecrets env r.current r.replacement r.secrets atReplace = .ok after ∧
        rotation = ⟨C.publicKey r.privateKey, r.current.encryptionKeyVersion,
          r.current.encryptionKeyVersion + 1⟩ := by
  unfold rotateMasterKeyWithPool
  split
  · rename_i e hp
    simp [hp]
  · rename_i r hp
    rw [transaction_ok, bind_eq_ok]
    constructor
    · rintro ⟨db', hdb, he⟩
      cases he
      exact ⟨r, hp, hdb, rfl⟩
    · rintro ⟨r', hp', hdb, rfl⟩
      rw [hp] at hp'
      cases hp'
      exact ⟨after, hdb, rfl⟩

theorem rotate_error {e : RotationError}
    (h : rotateMasterKeyWithPool C env current new atIdentity atSecrets atReplace =
      (.error e, after)) : after = atReplace := by
  unfold rotateMasterKeyWithPool at h
  split at h
  · cases h; rfl
  · exact (transaction_error.mp h).2

/-- A rotation succeeds only if it is accepted. -/
theorem accepted_of_ok
    (h : rotateMasterKeyWithPool C env current new atIdentity atSecrets atReplace =
      (.ok rotation, after)) : Accepted C env current new atIdentity atSecrets atReplace := by
  obtain ⟨r, hp, hr, -⟩ := rotate_eq_ok.mp h
  obtain ⟨hne, hli, hls, hclock, hmem, hv, hk, he, hs⟩ := prepareRotation_eq_ok.mp hp
  obtain ⟨⟨hb, hu, hcm⟩, hc, hw, hl, -⟩ := replaceIdentityAndPeerSecrets_ok hr
  refine ⟨hne, ⟨hli, hls, hb, hu, hcm⟩, hclock.1, hclock.2, r.current,
    ⟨hmem, hc, hv, r.privateKey, r.replacement, hk, he, hw⟩, fun s hsm => ?_⟩
  obtain ⟨s', hs', hf⟩ := (mem_of_mapM_ok hs).1 s (mem_loadAll.mpr hsm)
  obtain ⟨hn, hpeer, -⟩ := reencryptSecret_ok hf
  refine ⟨⟨s', hf, (hl s' hs').wellFormed, (hl s' hs').answers⟩, ?_⟩
  rw [← hn, ← hpeer]
  exact (hl s' hs').present

/-- An accepted rotation succeeds. -/
theorem ok_of_accepted (h : Accepted C env current new atIdentity atSecrets atReplace) :
    ∃ rotation after, rotateMasterKeyWithPool C env current new atIdentity atSecrets atReplace =
      (.ok rotation, after) := by
  obtain ⟨hne, henv, h0, h1, r, hr, hs⟩ := h
  obtain ⟨k, r', hk, he, hw⟩ := hr.encrypts
  obtain ⟨secrets, hm⟩ : ∃ l, reencryptAllPeerSecrets C env current new
      (r.encryptionKeyVersion + 1) env.clock atSecrets = .ok l :=
    exists_mapM_ok fun s hsm => by
      obtain ⟨s', hf, -⟩ := (hs s (mem_loadAll.mp hsm)).encrypts
      exact ⟨s', hf⟩
  have hrep : ∀ s' ∈ secrets, Replaceable env atReplace.secrets s' := by
    intro s' hs'
    obtain ⟨s, hsm, hf⟩ := (mem_of_mapM_ok hm).2 s' hs'
    obtain ⟨⟨s'', hf', hw', ha'⟩, hpresent⟩ := hs s (mem_loadAll.mp hsm)
    rw [hf] at hf'
    cases hf'
    obtain ⟨hn, hpeer, -⟩ := reencryptSecret_ok hf
    rw [← hn, ← hpeer] at hpresent
    exact ⟨ha', hw', hpresent⟩
  obtain ⟨after, ha⟩ := exists_replaceIdentityAndPeerSecrets
    ⟨henv.begins, henv.updateIdentity, henv.commits⟩ hr.unchanged hw hrep
  exact ⟨_, after, rotate_eq_ok.mpr ⟨⟨r, r', k, secrets⟩, prepareRotation_eq_ok.mpr
    ⟨hne, henv.loadIdentity, henv.loadSecrets, ⟨h0, h1⟩, hr.read, hr.version, hk, he, hm⟩, ha, rfl⟩⟩

/-- Each row at the transaction was read, so it is replaced by its own new row. -/
theorem updatedAll_of_same {l : List EncryptedWireGuardPeerSecret} {version now : Int}
    (hm : reencryptAllPeerSecrets C env current new version now atSecrets = .ok l)
    (hsame : SameSecrets atSecrets atReplace) {x : EncryptedWireGuardPeerSecret}
    (hx : x ∈ atReplace.secrets.rows) :
    ∃ s', reencryptSecret C env current new version now x = .ok s' ∧
      updatedAll l x = x.updateFrom s' := by
  have hxs : x ∈ atSecrets.secrets.rows := (hsame x).mpr hx
  obtain ⟨s', hs', hf⟩ := (mem_of_mapM_ok hm).1 x (mem_loadAll.mpr hxs)
  obtain ⟨hn, hp, -⟩ := reencryptSecret_ok hf
  refine ⟨s', hf, updatedAll_eq hs' (isPeer_iff.mpr ⟨hn.symm, hp.symm⟩) fun t' ht' hpeer => ?_⟩
  obtain ⟨t, ht, hft⟩ := (mem_of_mapM_ok hm).2 t' ht'
  obtain ⟨hnt, hpt, -⟩ := reencryptSecret_ok hft
  -- The row that `t'` was made from has the key of `x`.
  obtain ⟨hn', hp'⟩ := isPeer_iff.mp hpeer
  have hclash : wireguardPeerSecrets.clash x t = true :=
    isPeer_iff.mpr ⟨hn'.trans hnt, hp'.trans hpt⟩
  have hxt := Table.eq_of_clash hxs (mem_loadAll.mp ht) hclash
  subst hxt
  rw [hf] at hft
  cases hft
  rfl

theorem rotated_of_ok (hA : C.aead.Correct) (hS : current ≠ new → C.aead.Separates current new)
    (h : rotateMasterKeyWithPool C env current new atIdentity atSecrets atReplace =
      (.ok rotation, after)) (hsame : SameSecrets atSecrets atReplace) :
    atIdentity.identity.rows = atReplace.identity.rows ∧
      Rotated C current new rotation atReplace after := by
  obtain ⟨r, hp, hr, rfl⟩ := rotate_eq_ok.mp h
  obtain ⟨hne, -, -, -, hmem, -, hk, he, hs⟩ := prepareRotation_eq_ok.mp hp
  obtain ⟨-, hc, -, -, hai, has⟩ := replaceIdentityAndPeerSecrets_ok hr
  have hS := hS hne
  refine ⟨(identity_rows hmem).trans (identity_rows hc).symm, ⟨r.current, r.replacement,
    identity_rows hc, hai, rfl, (SealKind.decrypt_eq_ok.mp hk).2.2.1,
    Carried.of_encrypt hA hS hk he r.replacement.createdAt⟩, ?_⟩
  rw [has]
  refine List.forall₂_map_right_iff.mpr (List.forall₂_same.mpr fun x hx => ?_)
  obtain ⟨s', hf, hx'⟩ := updatedAll_of_same hs hsame hx
  rw [hx']
  exact ⟨rfl, rfl, carried_updateFrom hA hS hf⟩

/-- **Rotation of the master key.** The rotation does what it should, for every content of the
database at the three times, every pair of keys and every failure, exactly if it is refused or the
secrets at the transaction are those that it has read. -/
theorem sound_iff (C : Crypto) (env : RotationEnv) (current new : Sized 32)
    (atIdentity atSecrets atReplace : KeyStore) (hA : C.aead.Correct)
    (hS : current ≠ new → C.aead.Separates current new) :
    Sound C env current new atIdentity atSecrets atReplace ↔
      (Accepted C env current new atIdentity atSecrets atReplace →
        SameSecrets atSecrets atReplace) := by
  constructor
  · intro hsound hacc
    obtain ⟨rotation, after, h⟩ := ok_of_accepted hacc
    unfold Sound at hsound
    rw [h] at hsound
    exact hsound.2.1
  · intro hcond
    unfold Sound
    split
    · rename_i rotation after h
      have hsame := hcond (accepted_of_ok h)
      obtain ⟨hid, hrot⟩ := rotated_of_ok hA hS h hsame
      exact ⟨hid, hsame, hrot⟩
    · rename_i e after h
      exact rotate_error h

end Rotation

/-! ## A secret that is replaced meanwhile -/

/-- A cipher that marks a text with half of the key; a private key is its own public key. -/
def markCrypto : Crypto where
  aead := .tagged fun k => ⟨k.1.take 16, by rw [List.length_take, k.2]; rfl⟩
  publicKey := id

def repeated (x : UInt8) : Sized 32 := ⟨List.replicate 32 x, List.length_replicate⟩

def zeroNonce : Sized 24 := ⟨List.replicate 24 0, List.length_replicate⟩

/-- The row of the private key `k` under the master key `key`. -/
def markedRow (key k : Sized 32) : SealedKey where
  formatVersion := 1
  encryptionKeyVersion := 1
  nonce := zeroNonce.1
  ciphertext := k.1 ++ key.1.take 16
  publicKey := k.1
  createdAt := 0
  updatedAt := 0

theorem markedRow_wellFormed (key k : Sized 32) : (markedRow key k).wellFormed = true := by
  simp [SealedKey.wellFormed, markedRow, k.2, key.2, zeroNonce]

/-- A server with one peer that has the private key `k`. -/
def phoneStore (k : Sized 32) : KeyStore where
  identity := .single (markedRow (repeated 0x11) (repeated 0x77))
    (markedRow_wellFormed (repeated 0x11) (repeated 0x77))
  secrets := .single { markedRow (repeated 0x11) k with networkCode := "home", peerId := "phone" }
    (markedRow_wellFormed (repeated 0x11) k)

/-- Nothing fails. -/
def calmEnv : RotationEnv where
  loadIdentity := true
  loadSecrets := true
  begins := true
  updateIdentity := true
  updateSecret _ := true
  commits := true
  clock := 0
  identityNonce := zeroNonce
  secretNonce _ := zeroNonce

/-- The rotation from one master key to another, with the peer's private keys at the read and at the
transaction. -/
def phoneRotation (k k' : Sized 32) : Except RotationError MasterKeyRotation × KeyStore :=
  rotateMasterKeyWithPool markCrypto calmEnv (repeated 0x11) (repeated 0x22) (phoneStore k)
    (phoneStore k) (phoneStore k')

theorem sound_iff_undisturbed :
    (phoneRotation (repeated 0x33) (repeated 0x33)).1 = .ok ⟨repeated 0x77, 1, 2⟩ ∧
      Sound markCrypto calmEnv (repeated 0x11) (repeated 0x22) (phoneStore (repeated 0x33))
        (phoneStore (repeated 0x33)) (phoneStore (repeated 0x33)) :=
  ⟨by decide, (sound_iff markCrypto calmEnv _ _ _ _ _ Aead.tagged_correct
    fun _ => Aead.tagged_separates (by decide)).mpr fun _ _ => Iff.rfl⟩

/-- The peer gets a new private key between the read and the transaction. The rotation succeeds, and
the peer has its former private key again. -/
theorem secret_overwritten :
    (phoneRotation (repeated 0x33) (repeated 0x44)).1 = .ok ⟨repeated 0x77, 1, 2⟩ ∧
      (phoneStore (repeated 0x44)).secrets.rows.map (decryptSecret markCrypto (repeated 0x11)) =
        [.ok (repeated 0x44)] ∧
      (phoneRotation (repeated 0x33) (repeated 0x44)).2.secrets.rows.map
        (decryptSecret markCrypto (repeated 0x22)) = [.ok (repeated 0x33)] ∧
      ¬ Sound markCrypto calmEnv (repeated 0x11) (repeated 0x22) (phoneStore (repeated 0x33))
        (phoneStore (repeated 0x33)) (phoneStore (repeated 0x44)) := by
  have hok : (phoneRotation (repeated 0x33) (repeated 0x44)).1 = .ok ⟨repeated 0x77, 1, 2⟩ := by
    decide
  refine ⟨hok, by decide, by decide, fun h => ?_⟩
  unfold phoneRotation at hok
  unfold Sound at h
  split at h
  · have := (h.2.1 _).mp List.mem_cons_self
    exact absurd this (by decide)
  · rename_i hr
    rw [hr] at hok
    cases hok

end Vntc
