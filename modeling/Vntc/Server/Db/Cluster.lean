import Vntc.Lib.Checks
import Vntc.Lib.Sys
import Vntc.Server.Db.Schema

/-!
# The leases of a cluster

One server of a cluster, the authority, leases addresses to the devices and WireGuard peers of all
its servers: `acquire_cluster_lease` and `release_cluster_lease` of `server/control_server/db.rs`.
Each is one transaction on `cluster_leases` and `cluster_state` that also reads the local
`ip_allocations`. Other statements change `ip_allocations` between the transactions, in any way that
keeps its rules.
-/

namespace Vntc

open Lib

/-- A row of `cluster_leases`. -/
structure ClusterLease where
  networkCode : String
  ownerType : OwnerType
  ownerId : String
  ip : String
  authorityId : String
  originServerId : String
  revision : Nat
  expiresAt : Nat
  staticReservation : Bool
  updatedAt : Nat
  deriving DecidableEq

namespace ClusterLease

/-- The primary key. -/
def isOwner (networkCode : String) (ownerType : OwnerType) (ownerId : String) (r : ClusterLease) :
    Bool :=
  r.networkCode == networkCode && r.ownerType == ownerType && r.ownerId == ownerId

/-- The other unique key. -/
def isAt (networkCode ip : String) (r : ClusterLease) : Bool :=
  r.networkCode == networkCode && r.ip == ip

/-- The rows that the next transaction deletes. -/
def expired (now : Nat) (r : ClusterLease) : Bool :=
  !r.staticReservation && 0 < r.expiresAt && r.expiresAt ≤ now

/-- The lease is in force. -/
def Unexpired (now : Nat) (r : ClusterLease) : Prop :=
  r.staticReservation = true ∨ now < r.expiresAt

theorem isOwner_iff {n : String} {t : OwnerType} {d : String} {r : ClusterLease} :
    r.isOwner n t d = true ↔ r.networkCode = n ∧ r.ownerType = t ∧ r.ownerId = d := by
  simp [isOwner, and_assoc]

theorem isAt_iff {n a : String} {r : ClusterLease} :
    r.isAt n a = true ↔ r.networkCode = n ∧ r.ip = a := by
  simp [isAt]

end ClusterLease

def clusterLeases : Schema ClusterLease where
  check r := 0 < sqlLength r.ownerId
  clash r x := r.isOwner x.networkCode x.ownerType x.ownerId || r.isAt x.networkCode x.ip
  clash_comm r x := by
    unfold ClusterLease.isOwner ClusterLease.isAt
    rw [Bool.eq_iff_iff]
    simp only [Bool.or_eq_true, Bool.and_eq_true, beq_iff_eq]
    tauto

/-- The row of `cluster_state`. -/
structure ClusterState where
  authorityId : String
  revision : Nat
  updatedAt : Nat
  deriving DecidableEq

structure ClusterDb where
  leases : Table clusterLeases
  state : ClusterState
  allocations : Table ipAllocations

structure ClusterLeaseRequest where
  networkCode : String
  ownerType : String
  ownerId : String
  requestedIp : Option Ipv4Addr
  network : Ipv4Net
  gateway : Ipv4Addr
  leaseDurationSecs : Nat
  staticReservation : Bool
  authorityId : String
  originServerId : String

structure ClusterLeaseGrant where
  ip : Ipv4Addr
  revision : Nat
  expiresAt : Nat
  deriving DecidableEq

/-- Why a transaction fails. -/
inductive ClusterError
  | ownerType
  | blankOwner
  | gateway
  | leaseAddress
  | localAddress
  | outsideNet
  | reserved
  | occupied (ip : Ipv4Addr)
  | exhausted
  /-- The counter is no `i64` any more, and the server stops before the commit. -/
  | revision
  | persist
  deriving DecidableEq

/-- `validate_cluster_candidate`. -/
def validateClusterCandidate (network : Ipv4Net) (gateway ip : Ipv4Addr) :
    Except ClusterError Unit := do
  ensure (network.contains ip = true) .outsideNet
  ensure (ip ≠ network.network ∧ ip ≠ network.broadcast ∧ ip ≠ gateway) .reserved

/-- Read the address of a row. -/
def readIp (e : ClusterError) : Option String → Except ClusterError (Option Ipv4Addr)
  | none => .ok none
  | some text => do
    let ip ← orStop (Ipv4Addr.parse text) e
    return some ip

namespace ClusterDb

variable (db : ClusterDb)

/-- The address has a lease or a local allocation of another owner. -/
def occupied (networkCode : String) (ownerType : OwnerType) (ownerId : String) (ip : Ipv4Addr) :
    Bool :=
  (db.leases.rows.any fun r =>
    r.isAt networkCode ip.toText && !(r.ownerType == ownerType && r.ownerId == ownerId)) ||
  db.allocations.rows.any fun r =>
    r.isAt networkCode ip.toText && !(r.ownerType == ownerType && r.ownerId == ownerId)

/-- `ensure_cluster_ip_available`. -/
def ensureClusterIpAvailable (request : ClusterLeaseRequest) (ownerType : OwnerType)
    (ip : Ipv4Addr) : Except ClusterError Unit :=
  ensure (db.occupied request.networkCode ownerType request.ownerId ip = false) (.occupied ip)

/-- The first statement of a transaction. -/
def expire (now : Nat) : ClusterDb := { db with leases := db.leases.delete (·.expired now) }

/-- The loop over the hosts. -/
def searchCandidate (request : ClusterLeaseRequest) (ownerType : OwnerType) : Option Ipv4Addr :=
  request.network.hosts.find? fun ip =>
    ip ≠ request.gateway && !db.occupied request.networkCode ownerType request.ownerId ip

def candidate (request : ClusterLeaseRequest) (ownerType : OwnerType)
    (preferred : Option Ipv4Addr) : Except ClusterError Ipv4Addr :=
  match preferred with
  | some ip => do
    validateClusterCandidate request.network request.gateway ip
    db.ensureClusterIpAvailable request ownerType ip
    return ip
  | none => orStop (db.searchCandidate request ownerType) .exhausted

/-- The address that the owner has already: by its lease, or else by a local allocation. -/
def ownerIp (request : ClusterLeaseRequest) (ownerType : OwnerType) :
    Except ClusterError (Option Ipv4Addr) := do
  let existingIp ← readIp .leaseAddress
    ((db.leases.find (ClusterLease.isOwner request.networkCode ownerType request.ownerId)).map
      (·.ip))
  if existingIp.isNone then
    readIp .localAddress
      ((db.allocations.find
        (IpAllocation.isOwner request.networkCode ownerType request.ownerId)).map (·.ip))
  else return existingIp

/-- `SET authority_id = ?, revision = revision + 1, updated_at = ?`. -/
def advance (authorityId : String) (now : Nat) : Except ClusterError ClusterState := do
  ensure (db.state.revision < i64Max) .revision
  return ⟨authorityId, db.state.revision + 1, now⟩

def expiresAt (request : ClusterLeaseRequest) (now : Nat) : Nat :=
  if request.staticReservation then 0
  else min (now + min (max request.leaseDurationSecs 10) i64Max) i64Max

/-- The row of a granted lease. -/
def leaseRow (request : ClusterLeaseRequest) (ownerType : OwnerType) (ip : Ipv4Addr)
    (revision now : Nat) : ClusterLease where
  networkCode := request.networkCode
  ownerType := ownerType
  ownerId := request.ownerId
  ip := ip.toText
  authorityId := request.authorityId
  originServerId := request.originServerId
  revision := revision
  expiresAt := expiresAt request now
  staticReservation := request.staticReservation
  updatedAt := now

/-- The transaction of `acquire_cluster_lease`. -/
def acquire (request : ClusterLeaseRequest) (now : Nat) :
    Except ClusterError (ClusterLeaseGrant × ClusterDb) := do
  let ownerType ← orStop (OwnerType.ofText request.ownerType) .ownerType
  ensure (isBlank request.ownerId = false) .blankOwner
  ensure (request.network.IsHost request.gateway) .gateway
  let db := db.expire now
  let ownerIp ← db.ownerIp request ownerType
  let ip ← db.candidate request ownerType (request.requestedIp.or ownerIp)
  let state ← db.advance request.authorityId now
  let leases ← orStop
    (db.leases.put (ClusterLease.isOwner request.networkCode ownerType request.ownerId)
      (leaseRow request ownerType ip state.revision now)) .persist
  return (⟨ip, state.revision, expiresAt request now⟩, { db with leases, state })

def acquireClusterLease (request : ClusterLeaseRequest) (now : Nat) :
    Except ClusterError ClusterLeaseGrant × ClusterDb :=
  transaction (fun db => db.acquire request now) db

/-- The transaction of `release_cluster_lease`. -/
def release (networkCode ownerType ownerId authorityId : String) (now : Nat) :
    Except ClusterError (Nat × ClusterDb) := do
  let own := fun r : ClusterLease =>
    r.networkCode == networkCode && r.ownerType.text == ownerType && r.ownerId == ownerId
  if db.leases.rows.any own then
    let state ← db.advance authorityId now
    return (state.revision, { db with leases := db.leases.delete own, state })
  else return (db.state.revision, db)

def releaseClusterLease (networkCode ownerType ownerId authorityId : String) (now : Nat) :
    Except ClusterError Nat × ClusterDb :=
  transaction (fun db => db.release networkCode ownerType ownerId authorityId now) db

/-! ## What a transaction does -/

variable {db} {db' : ClusterDb} {request : ClusterLeaseRequest} {now : Nat}
  {grant : ClusterLeaseGrant}

/-- The parts of a granted transaction of the owner type `o`; `own` is the address that the owner
has already. -/
structure Grants (db : ClusterDb) (request : ClusterLeaseRequest) (now : Nat)
    (grant : ClusterLeaseGrant) (db' : ClusterDb) (o : OwnerType) (own : Option Ipv4Addr) :
    Prop where
  ownerType : request.ownerType = o.text
  gateway : request.network.IsHost request.gateway
  ownerIp : (db.expire now).ownerIp request o = .ok own
  candidate : (db.expire now).candidate request o (request.requestedIp.or own) = .ok grant.ip
  revision : grant.revision = db.state.revision + 1
  expiresAt : grant.expiresAt = expiresAt request now
  state : db'.state.revision = db.state.revision + 1
  leases : (db.expire now).leases.put (ClusterLease.isOwner request.networkCode o request.ownerId)
    (leaseRow request o grant.ip grant.revision now) = some db'.leases
  allocations : db'.allocations = db.allocations

theorem acquire_ok (h : db.acquire request now = .ok (grant, db')) :
    ∃ o own, Grants db request now grant db' o own := by
  simp only [acquire, bind_eq_ok, orStop_ok, ensure_ok, OwnerType.ofText_eq_some] at h
  obtain ⟨o, hot, -, -, -, hgw, own, hown, ip, hip, state, hstate, leases, hput, hr⟩ := h
  simp only [advance, bind_eq_ok, ensure_ok] at hstate
  obtain ⟨-, -, hs⟩ := hstate
  cases hs
  cases hr
  exact ⟨o, own, hot, hgw, hown, hip, rfl, rfl, rfl, hput, rfl⟩

variable {d n : String} {ip : Ipv4Addr} {e : ClusterError} {preferred : Option Ipv4Addr}

theorem release_ok {t authorityId : String} {revision : Nat}
    (h : db.release n t d authorityId now = .ok (revision, db')) :
    db' = db ∨ db.state.revision < db'.state.revision ∧
      (∀ r ∈ db'.leases.rows, r ∈ db.leases.rows) := by
  unfold release at h
  dsimp only at h
  split at h
  · obtain ⟨state, hs, hr⟩ := bind_eq_ok.mp h
    obtain ⟨-, -, hs⟩ := bind_eq_ok.mp hs
    cases hs
    cases hr
    exact .inr ⟨Nat.lt_succ_self _, fun r hr => (Table.mem_delete.mp hr).1⟩
  · cases h
    exact .inl rfl

/-! ## Who holds an address -/

/-- The owner has a lease of the address that is in force. -/
def Holds (db : ClusterDb) (now : Nat) (n : String) (o : OwnerType) (d : String) (ip : Ipv4Addr) :
    Prop :=
  ∃ r ∈ db.leases.rows, r.isOwner n o d = true ∧ r.ip = ip.toText ∧ r.Unexpired now

/-- Some owner has the address, by a lease or by a local allocation. -/
def Taken (db : ClusterDb) (now : Nat) (n : String) (ip : Ipv4Addr) : Prop :=
  (∃ o d, db.Holds now n o d ip) ∨ ∃ r ∈ db.allocations.rows, r.isAt n ip.toText = true

/-- What every lease of a run satisfies. -/
structure Inv (db : ClusterDb) : Prop where
  text : ∀ r ∈ db.leases.rows, ∃ ip : Ipv4Addr, r.ip = ip.toText
  timed : ∀ r ∈ db.leases.rows, r.staticReservation = true ∨ 0 < r.expiresAt

theorem mem_expire (hi : db.Inv) {r : ClusterLease} :
    r ∈ (db.expire now).leases.rows ↔ r ∈ db.leases.rows ∧ r.Unexpired now := by
  refine Table.mem_delete.trans (and_congr_right fun hr => ?_)
  have ht := hi.timed r hr
  unfold ClusterLease.expired ClusterLease.Unexpired
  cases hs : r.staticReservation with
  | true => simp
  | false =>
    rw [hs] at ht
    have hpos : 0 < r.expiresAt := ht.resolve_left nofun
    simp [hpos]

theorem isOwner_clash {o : OwnerType} (x y : ClusterLease)
    (hx : x.isOwner n o d = true) (hy : y.isOwner n o d = true) :
    clusterLeases.clash x y = true := by
  obtain ⟨rfl, rfl, rfl⟩ := ClusterLease.isOwner_iff.mp hy
  exact Bool.or_eq_true_iff.mpr (.inl hx)

/-- No two owners hold an address. -/
theorem Holds.unique {t : Nat} {d' : String} {o o' : OwnerType}
    (h : db.Holds t n o d ip) (h' : db.Holds t n o' d' ip) : o = o' ∧ d = d' := by
  obtain ⟨r, hr, ho, hip, -⟩ := h
  obtain ⟨r', hr', ho', hip', -⟩ := h'
  rw [ClusterLease.isOwner_iff] at ho ho'
  have hc : clusterLeases.clash r r' = true :=
    Bool.or_eq_true_iff.mpr (.inr (ClusterLease.isAt_iff.mpr
      ⟨ho.1.trans ho'.1.symm, hip.trans hip'.symm⟩))
  have := db.leases.eq_of_clash hr hr' hc
  subst this
  exact ⟨ho.2.1.symm.trans ho'.2.1, ho.2.2.symm.trans ho'.2.2⟩

theorem occupied_eq_false {o : OwnerType} :
    db.occupied n o d ip = false ↔
      (∀ r ∈ db.leases.rows, r.isAt n ip.toText = true → r.ownerType = o ∧ r.ownerId = d) ∧
      ∀ r ∈ db.allocations.rows, r.isAt n ip.toText = true → r.ownerType = o ∧ r.ownerId = d := by
  simp [occupied]

/-- An address that nobody has is not occupied. -/
theorem occupied_of_not_taken (hi : db.Inv) {o : OwnerType}
    (h : ¬ db.Taken now n ip) : (db.expire now).occupied n o d ip = false := by
  refine occupied_eq_false.mpr ⟨fun r hr ha => ?_, fun r hr ha => ?_⟩
  · obtain ⟨hr, hu⟩ := (mem_expire hi).mp hr
    obtain ⟨hn, hip⟩ := ClusterLease.isAt_iff.mp ha
    exact (h (.inl ⟨r.ownerType, r.ownerId, r, hr,
      ClusterLease.isOwner_iff.mpr ⟨hn, rfl, rfl⟩, hip, hu⟩)).elim
  · exact (h (.inr ⟨r, hr, ha⟩)).elim

/-! ## The address that a transaction chooses -/

theorem readIp_toText : readIp e (some ip.toText) = .ok (some ip) := by
  simp only [readIp, Ipv4Addr.parse_toText]
  rfl

/-- The lease in force is the address that the owner has. -/
theorem ownerIp_of_holds (hi : db.Inv) {o : OwnerType}
    (h : db.Holds now request.networkCode o request.ownerId ip) :
    (db.expire now).ownerIp request o = .ok (some ip) := by
  obtain ⟨r, hr, ho, hip, hu⟩ := h
  have hf : (db.expire now).leases.find
      (ClusterLease.isOwner request.networkCode o request.ownerId) = some r :=
    (Table.find_eq_some isOwner_clash).mpr ⟨(mem_expire hi).mpr ⟨hr, hu⟩, ho⟩
  unfold ownerIp
  rw [hf, Option.map_some, hip, readIp_toText]
  rfl

/-- The owner has no address without a lease in force and a local allocation. -/
theorem ownerIp_eq_none (hi : db.Inv) {o : OwnerType}
    (hno : ∀ ip, ¬ db.Holds now request.networkCode o request.ownerId ip)
    (hl : ∀ r ∈ db.allocations.rows, r.isOwner request.networkCode o request.ownerId = false) :
    (db.expire now).ownerIp request o = .ok none := by
  have hf : (db.expire now).leases.find
      (ClusterLease.isOwner request.networkCode o request.ownerId) = none := by
    refine Table.find_eq_none.mpr fun r hr => Bool.eq_false_iff.mpr fun ho => ?_
    obtain ⟨hr, hu⟩ := (mem_expire hi).mp hr
    obtain ⟨ip, hip⟩ := hi.text r hr
    exact hno ip ⟨r, hr, ho, hip, hu⟩
  unfold ownerIp
  rw [hf, show (db.expire now).allocations.find _ = none from Table.find_eq_none.mpr hl]
  rfl

theorem validateClusterCandidate_ok {net : Ipv4Net} {gateway : Ipv4Addr} {u : Unit} :
    validateClusterCandidate net gateway ip = .ok u ↔ net.IsHost ip ∧ ip ≠ gateway := by
  simp only [validateClusterCandidate, bind_eq_ok, ensure_ok, Ipv4Net.IsHost, and_assoc,
    exists_const]

theorem searchCandidate_some {o : OwnerType} (hg : request.network.IsHost request.gateway)
    (h : db.searchCandidate request o = some ip) :
    request.network.IsHost ip ∧ ip ≠ request.gateway ∧
      db.occupied request.networkCode o request.ownerId ip = false := by
  have hp := List.find?_some h
  simp only [Bool.and_eq_true, decide_eq_true_eq, Bool.not_eq_true'] at hp
  exact ⟨(request.network.mem_hosts_iff (request.network.network_ne_of_isHost hg)).mp
    (List.mem_of_find?_eq_some h), hp⟩

/-- The search finds the least host that is not occupied. -/
theorem searchCandidate_le {o : OwnerType} {ip' : Ipv4Addr}
    (h : db.searchCandidate request o = some ip) (hh : request.network.IsHost ip')
    (hg : ip' ≠ request.gateway)
    (hf : db.occupied request.networkCode o request.ownerId ip' = false) : ip.toNat ≤ ip'.toNat :=
  request.network.find_hosts_le h
    ((request.network.mem_hosts_iff (request.network.network_ne_of_isHost hh)).mpr hh)
    (by simp [hg, hf])

theorem searchCandidate_none {o : OwnerType}
    (h : db.searchCandidate request o = none) (hh : request.network.IsHost ip)
    (hg : ip ≠ request.gateway) : db.occupied request.networkCode o request.ownerId ip = true := by
  have hm := (request.network.mem_hosts_iff (request.network.network_ne_of_isHost hh)).mpr hh
  have := List.find?_eq_none.mp h ip hm
  simpa [hg] using this

/-- A chosen address is a host that is not occupied. -/
theorem candidate_ok {o : OwnerType} (hg : request.network.IsHost request.gateway)
    (h : db.candidate request o preferred = .ok ip) :
    request.network.IsHost ip ∧ ip ≠ request.gateway ∧
      db.occupied request.networkCode o request.ownerId ip = false := by
  cases preferred with
  | none => exact searchCandidate_some hg (orStop_ok.mp h)
  | some a =>
    simp only [candidate, bind_eq_ok, validateClusterCandidate_ok, ensureClusterIpAvailable,
      ensure_ok] at h
    obtain ⟨-, ⟨hh, hne⟩, -, hf, hr⟩ := h
    cases hr
    exact ⟨hh, hne, hf⟩

theorem candidate_some {o : OwnerType} {a : Ipv4Addr}
    (h : db.candidate request o (some a) = .ok ip) : ip = a := by
  simp only [candidate, bind_eq_ok] at h
  obtain ⟨-, -, -, -, hr⟩ := h
  cases hr
  rfl

/-! ## Why a transaction fails -/

theorem readIp_error {e' : ClusterError} {o : Option String} (h : readIp e o = .error e') :
    e' = e := by
  cases o with
  | none => cases h
  | some text =>
    obtain h | ⟨_, _, h⟩ := bind_eq_error.mp h
    · exact (orStop_error.mp h).2.symm
    · cases h

theorem ownerIp_error {o : OwnerType} (h : db.ownerIp request o = .error e) :
    e = .leaseAddress ∨ e = .localAddress := by
  obtain h | ⟨own, _, h⟩ := bind_eq_error.mp h
  · exact .inl (readIp_error h)
  · split at h
    · exact .inr (readIp_error h)
    · cases h

theorem candidate_error {o : OwnerType} (h : db.candidate request o preferred = .error e) :
    e = .outsideNet ∨ e = .reserved ∨ (∃ ip, e = .occupied ip) ∨
      e = .exhausted ∧ db.searchCandidate request o = none := by
  cases preferred with
  | none =>
    obtain ⟨hn, he⟩ := orStop_error.mp h
    exact .inr (.inr (.inr ⟨he.symm, hn⟩))
  | some a =>
    simp only [candidate, validateClusterCandidate, ensureClusterIpAvailable, bind_eq_error,
      ensure_error] at h
    obtain (⟨-, rfl⟩ | ⟨-, -, -, rfl⟩) | ⟨-, -, ⟨-, rfl⟩ | ⟨-, -, h⟩⟩ := h
    · exact .inl rfl
    · exact .inr (.inl rfl)
    · exact .inr (.inr (.inl ⟨a, rfl⟩))
    · cases h

theorem advance_error {authorityId : String}
    (h : db.advance authorityId now = .error e) : e = .revision := by
  obtain h | ⟨_, _, h⟩ := bind_eq_error.mp h
  · exact (ensure_error.mp h).2.symm
  · cases h

/-- The part of the transaction that failed. -/
theorem acquire_error (h : db.acquire request now = .error e) :
    e ∈ [.ownerType, .blankOwner, .gateway, .revision] ∨
    (∃ o, (db.expire now).ownerIp request o = .error e) ∨
    (∃ o preferred, (db.expire now).candidate request o preferred = .error e) ∨
    e = .persist ∧ ∃ o preferred ip revision, request.network.IsHost request.gateway ∧
      (db.expire now).candidate request o preferred = .ok ip ∧
      (db.expire now).leases.put (ClusterLease.isOwner request.networkCode o request.ownerId)
        (leaseRow request o ip revision now) = none := by
  simp only [acquire, bind_eq_error, orStop_error, ensure_error, ensure_ok] at h
  obtain ⟨-, rfl⟩ | ⟨o, -, ⟨-, rfl⟩ | ⟨-, -, ⟨-, rfl⟩ | ⟨-, hg, hown | ⟨own, -, hc | ⟨ip, hip,
    hs | ⟨state, -, ⟨hput, rfl⟩ | ⟨_, -, hr⟩⟩⟩⟩⟩⟩⟩ := h
  · simp
  · simp
  · simp
  · exact .inr (.inl ⟨o, hown⟩)
  · exact .inr (.inr (.inl ⟨o, _, hc⟩))
  · simp [advance_error hs]
  · exact .inr (.inr (.inr ⟨rfl, o, _, ip, _, hg, hip, hput⟩))
  · cases hr

/-- The search fails only if every host is taken. -/
theorem acquire_exhausted (hi : db.Inv) (h : db.acquire request now = .error .exhausted)
    (hh : request.network.IsHost ip) (hg : ip ≠ request.gateway) :
    db.Taken now request.networkCode ip := by
  obtain h | ⟨o, h⟩ | ⟨o, preferred, h⟩ | ⟨h, -⟩ := acquire_error h
  · simp at h
  · simpa using ownerIp_error h
  · obtain h | h | ⟨_, h⟩ | ⟨-, hn⟩ := candidate_error h
    · cases h
    · cases h
    · cases h
    · by_contra hno
      have hocc := searchCandidate_none hn hh hg
      rw [occupied_of_not_taken hi hno] at hocc
      cases hocc
  · cases h

/-- The uniqueness rules of the table reject no lease: what they ask is checked before. -/
theorem put_leaseRow_isSome {o : OwnerType}
    (hg : request.network.IsHost request.gateway) (hl : 0 < sqlLength request.ownerId)
    (hc : db.candidate request o preferred = .ok ip) (revision now : Nat) :
    (db.leases.put (ClusterLease.isOwner request.networkCode o request.ownerId)
      (leaseRow request o ip revision now)).isSome := by
  refine Table.put_isSome isOwner_clash ?_ fun x hx ho => Bool.eq_false_iff.mpr fun hcl => ?_
  · simpa [clusterLeases, leaseRow] using hl
  · rcases Bool.or_eq_true_iff.mp hcl with hcl | hcl
    · exact absurd hcl (Bool.eq_false_iff.mp ho)
    · obtain ⟨ht, hd⟩ := (occupied_eq_false.mp (candidate_ok hg hc).2.2).1 x hx hcl
      have hn := (ClusterLease.isAt_iff.mp hcl).1
      exact absurd (ClusterLease.isOwner_iff.mpr ⟨hn, ht, hd⟩) (Bool.eq_false_iff.mp ho)

/-! ## Runs -/

/-- What happens to the database. -/
inductive ClusterOp
  | acquire (request : ClusterLeaseRequest)
  | release (networkCode ownerType ownerId authorityId : String)
  /-- The other statements leave any local allocations. -/
  | allocations (rows : Table ipAllocations)

def apply (db : ClusterDb) (now : Nat) : ClusterOp → ClusterDb
  | .acquire request => (db.acquireClusterLease request now).2
  | .release networkCode ownerType ownerId authorityId =>
    (db.releaseClusterLease networkCode ownerType ownerId authorityId now).2
  | .allocations rows => { db with allocations := rows }

/-- A migrated database, and the operations at times that do not decrease. -/
def clusterSys : Sys (ClusterDb × Nat) ClusterOp where
  init s := s.1.leases = Table.empty ∧ s.1.state = ⟨"", 0, 0⟩
  step s op s' := s.2 ≤ s'.2 ∧ s'.1 = s.1.apply s'.2 op

theorem expiresAt_pos (hs : request.staticReservation = false) : 0 < expiresAt request now := by
  have : 0 < i64Max := by decide
  simp only [expiresAt, hs, Bool.false_eq_true, if_false]
  omega

theorem Inv.acquire (hi : db.Inv) (h : db.acquire request now = .ok (grant, db')) : db'.Inv := by
  obtain ⟨o, own, hg⟩ := acquire_ok h
  refine ⟨fun r hr => ?_, fun r hr => ?_⟩
  all_goals rcases (Table.mem_put hg.leases r).mp hr with ⟨hr, -⟩ | rfl
  · exact hi.text r ((mem_expire hi).mp hr).1
  · exact ⟨grant.ip, rfl⟩
  · exact hi.timed r ((mem_expire hi).mp hr).1
  · cases hs : request.staticReservation with
    | true => exact .inl hs
    | false => exact .inr (expiresAt_pos hs)

theorem Inv.mono (hi : db.Inv) (h : ∀ r ∈ db'.leases.rows, r ∈ db.leases.rows) : db'.Inv :=
  ⟨fun r hr => hi.text r (h r hr), fun r hr => hi.timed r (h r hr)⟩

theorem Inv.apply (hi : db.Inv) (now : Nat) (op : ClusterOp) : (db.apply now op).Inv := by
  cases op with
  | acquire request =>
    cases h : db.acquire request now with
    | ok r =>
      simp only [ClusterDb.apply, acquireClusterLease, transaction, h]
      exact hi.acquire h
    | error e =>
      simp only [ClusterDb.apply, acquireClusterLease, transaction, h]
      exact hi
  | release n t d authorityId =>
    cases h : db.release n t d authorityId now with
    | ok r =>
      simp only [ClusterDb.apply, releaseClusterLease, transaction, h]
      rcases release_ok h with e | ⟨-, hsub⟩
      · rwa [e]
      · exact hi.mono hsub
    | error e =>
      simp only [ClusterDb.apply, releaseClusterLease, transaction, h]
      exact hi
  | allocations rows => exact ⟨hi.text, hi.timed⟩

theorem inv_of_reach {s : ClusterDb × Nat} (h : clusterSys.Reach s) : s.1.Inv := by
  refine Sys.Reach.invariant (I := fun s => s.1.Inv) ?_ ?_ h
  · rintro s ⟨hl, -⟩
    have hno : s.1.leases.rows = [] := by rw [hl]; rfl
    exact ⟨fun r hr => by simp [hno] at hr, fun r hr => by simp [hno] at hr⟩
  · rintro s op s' hi ⟨-, hs⟩
    rw [hs]
    exact hi.apply _ op

/-- What a granted lease is. -/
structure Acquired (db : ClusterDb) (request : ClusterLeaseRequest) (now : Nat)
    (grant : ClusterLeaseGrant) (db' : ClusterDb) : Prop where
  host : request.network.IsHost grant.ip ∧ grant.ip ≠ request.gateway
  /-- The owner has the lease, and nobody else has the address. -/
  lease : ∃ o, request.ownerType = o.text ∧
    (∃ r ∈ db'.leases.rows, r.isOwner request.networkCode o request.ownerId = true ∧
      r.ip = grant.ip.toText ∧ r.expiresAt = grant.expiresAt) ∧
    (∀ r ∈ db'.leases.rows, r.isAt request.networkCode grant.ip.toText = true →
      r.ownerType = o ∧ r.ownerId = request.ownerId) ∧
    ∀ r ∈ db'.allocations.rows, r.isAt request.networkCode grant.ip.toText = true →
      r.ownerType = o ∧ r.ownerId = request.ownerId
  /-- An owner that asks for no address keeps its own. -/
  keeps : request.requestedIp = none → ∀ o, request.ownerType = o.text → ∀ ip,
    db.Holds now request.networkCode o request.ownerId ip → grant.ip = ip
  /-- An owner without an address that asks for none gets the least free host. -/
  least : request.requestedIp = none → ∀ o, request.ownerType = o.text →
    (∀ ip, ¬ db.Holds now request.networkCode o request.ownerId ip) →
    (∀ r ∈ db.allocations.rows, r.isOwner request.networkCode o request.ownerId = false) →
    ¬ db.Taken now request.networkCode grant.ip ∧
    ∀ ip, request.network.IsHost ip → ip ≠ request.gateway →
      ¬ db.Taken now request.networkCode ip → grant.ip.toNat ≤ ip.toNat
  revision : db.state.revision < db'.state.revision ∧ grant.revision = db'.state.revision

variable {o : OwnerType} {own : Option Ipv4Addr}

theorem Grants.sole (h : Grants db request now grant db' o own) :
    (∀ r ∈ db'.leases.rows, r.isAt request.networkCode grant.ip.toText = true →
      r.ownerType = o ∧ r.ownerId = request.ownerId) ∧
    ∀ r ∈ db'.allocations.rows, r.isAt request.networkCode grant.ip.toText = true →
      r.ownerType = o ∧ r.ownerId = request.ownerId := by
  obtain ⟨hl, ha⟩ := occupied_eq_false.mp (candidate_ok h.gateway h.candidate).2.2
  refine ⟨fun r hr hat => ?_, by rw [h.allocations]; exact ha⟩
  rcases (Table.mem_put h.leases r).mp hr with ⟨hr, -⟩ | rfl
  · exact hl r hr hat
  · exact ⟨rfl, rfl⟩

/-- The search answers an owner that has no address and asks for none. -/
theorem Grants.searched (hi : db.Inv) (h : Grants db request now grant db' o own)
    (hreq : request.requestedIp = none)
    (hno : ∀ ip, ¬ db.Holds now request.networkCode o request.ownerId ip)
    (hl : ∀ r ∈ db.allocations.rows, r.isOwner request.networkCode o request.ownerId = false) :
    (db.expire now).searchCandidate request o = some grant.ip := by
  have hown := h.ownerIp
  have hc := h.candidate
  rw [ownerIp_eq_none hi hno hl, Except.ok.injEq] at hown
  rw [hreq, ← hown] at hc
  exact orStop_ok.mp hc

/-- An address that is not occupied is not taken, if the owner has nothing. -/
theorem not_taken_of_owner_none (hi : db.Inv)
    (hf : (db.expire now).occupied n o d ip = false) (hno : ¬ db.Holds now n o d ip)
    (hl : ∀ r ∈ db.allocations.rows, r.isOwner n o d = false) : ¬ db.Taken now n ip := by
  obtain ⟨hlease, hlocal⟩ := occupied_eq_false.mp hf
  rintro (⟨o', d', r, hr, ho, hip, hu⟩ | ⟨r, hr, hat⟩)
  · have hn := (ClusterLease.isOwner_iff.mp ho).1
    obtain ⟨ho', hd'⟩ := hlease r ((mem_expire hi).mpr ⟨hr, hu⟩)
      (ClusterLease.isAt_iff.mpr ⟨hn, hip⟩)
    exact hno ⟨r, hr, ClusterLease.isOwner_iff.mpr ⟨hn, ho', hd'⟩, hip, hu⟩
  · obtain ⟨ho', hd'⟩ := hlocal r hr hat
    have := IpAllocation.isOwner_iff.mpr ⟨(IpAllocation.isAt_iff.mp hat).1, ho', hd'⟩
    rw [hl r hr] at this
    cases this

theorem Inv.acquired (hi : db.Inv) (h : db.acquire request now = .ok (grant, db')) :
    Acquired db request now grant db' := by
  obtain ⟨o, own, hg⟩ := acquire_ok h
  obtain ⟨hh, hgw, hf⟩ := candidate_ok hg.gateway hg.candidate
  have hot : ∀ o', request.ownerType = o'.text → o' = o := fun o' ho' =>
    OwnerType.text_injective (ho'.symm.trans hg.ownerType)
  refine ⟨⟨hh, hgw⟩, ⟨o, hg.ownerType, ?_, hg.sole⟩, ?_, ?_, ?_⟩
  · exact ⟨_, (Table.mem_put hg.leases _).mpr (.inr rfl),
      ClusterLease.isOwner_iff.mpr ⟨rfl, rfl, rfl⟩, rfl, hg.expiresAt.symm⟩
  · intro hreq o' ho' ip hip
    obtain rfl := hot o' ho'
    have hown := hg.ownerIp
    have hc := hg.candidate
    rw [ownerIp_of_holds hi hip, Except.ok.injEq] at hown
    rw [hreq, ← hown] at hc
    exact candidate_some hc
  · intro hreq o' ho' hno hl
    obtain rfl := hot o' ho'
    refine ⟨not_taken_of_owner_none hi hf (hno _) hl, fun ip hih hig hit => ?_⟩
    exact searchCandidate_le (hg.searched hi hreq hno hl) hih hig (occupied_of_not_taken hi hit)
  · rw [hg.revision, hg.state]
    exact ⟨Nat.lt_succ_self _, rfl⟩

/-- **The leases of a cluster.** In every state of every run no two owners hold an address of a
network, whatever the time; a granted lease is as `Acquired` says; the search fails only if every
host is taken; a transaction that fails changes nothing, and one that changes something advances the
revision. -/
theorem cluster_leases_safe (db : ClusterDb) (clock : Nat) (h : clusterSys.Reach (db, clock)) :
    (∀ t n ip o o' d d', db.Holds t n o d ip → db.Holds t n o' d' ip → o = o' ∧ d = d') ∧
    (∀ request now grant db', db.acquireClusterLease request now = (.ok grant, db') →
      Acquired db request now grant db') ∧
    (∀ request now e db', db.acquireClusterLease request now = (.error e, db') →
      db' = db ∧ (e = .exhausted → ∀ ip, request.network.IsHost ip → ip ≠ request.gateway →
        db.Taken now request.networkCode ip)) ∧
    ∀ n t d authorityId now result db',
      db.releaseClusterLease n t d authorityId now = (result, db') →
      db' = db ∨ db.state.revision < db'.state.revision := by
  have hi : db.Inv := inv_of_reach h
  refine ⟨fun t n ip o o' d d' => Holds.unique, fun request now grant db' hok => ?_,
    fun request now e db' herr => ?_, fun n t d authorityId now result db' hrel => ?_⟩
  · exact hi.acquired (transaction_ok.mp hok)
  · obtain ⟨he, rfl⟩ := transaction_error.mp herr
    refine ⟨rfl, fun hex ip hh hg => ?_⟩
    rw [hex] at he
    exact acquire_exhausted hi he hh hg
  · cases result with
    | ok revision => exact (release_ok (transaction_ok.mp hrel)).imp_right And.left
    | error e => exact .inl (transaction_error.mp hrel).2

/-- A new database in which a WireGuard peer has `10.26.0.2`. -/
def onePeerDb : ClusterDb where
  leases := Table.empty
  state := ⟨"", 0, 0⟩
  allocations := ⟨[⟨"home", "10.26.0.2", .wireguardPeer, "phone"⟩], by decide⟩

/-- A device of another server that asks for any address. -/
def deviceRequest : ClusterLeaseRequest where
  networkCode := "home"
  ownerType := "vnt_device"
  ownerId := "laptop"
  requestedIp := none
  network := defaultNet
  gateway := homeIp 1
  leaseDurationSecs := 60
  staticReservation := false
  authorityId := "server-a"
  originServerId := "server-b"

theorem cluster_leases_safe_first_device :
    ∃ db', onePeerDb.acquireClusterLease deviceRequest 100 =
        (.ok ⟨homeIp 3, 1, 160⟩, db') ∧
      Acquired onePeerDb deviceRequest 100 ⟨homeIp 3, 1, 160⟩ db' := by
  have hr : clusterSys.Reach (onePeerDb, 0) := .init ⟨rfl, rfl⟩
  have hok : (onePeerDb.acquireClusterLease deviceRequest 100).1 =
      .ok ⟨homeIp 3, 1, 160⟩ := by decide
  have h := Prod.ext_iff.mpr ⟨hok, rfl⟩
  exact ⟨_, h, (cluster_leases_safe onePeerDb 0 hr).2.1 _ _ _ _ h⟩

end ClusterDb

end Vntc
