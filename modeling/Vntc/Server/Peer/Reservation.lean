import Vntc.Server.Db.Lends
import Vntc.Server.Db.Occupancy
import Vntc.Server.Lease.Reserve
import Vntc.Server.Control.Config
import Vntc.Server.Network
import Vntc.Server.Peer.Cluster

/-!
# Reservations of WireGuard peers in a cluster

The address of a WireGuard peer is stored twice: as a static lease at the authority, and as a row of
the local `ip_allocations`. `create_wireguard_peer_with_automatic_ip` and `reserve_wireguard_peer_ip`
of `server/control_server/service.rs` ask the authority first and then change the local server;
`release_wireguard_peer_ip` and `delete_wireguard_peer` go the other way. No exit in between is
compensated.
-/

namespace Vntc

open Lib

/-! ## The calls -/

/-- What becomes of a request to the authority. -/
inductive LinkOutcome
  /-- The server is not ready, has no link, or is refused before the transaction. -/
  | unreachable
  /-- The authority does not get it, and the call times out. -/
  | requestLost
  /-- The authority has handled it, and the answer is lost or late. -/
  | answerLost
  | delivered
  deriving DecidableEq

/-- What may go wrong in a call. -/
structure ReservationFaults where
  link : LinkOutcome
  /-- The local database fails to write. -/
  databaseFails : Bool
  revokeFails : Bool
  deriving DecidableEq

inductive ReservationError
  | network (networkCode : String)
  /-- `acquire_lease` or `release_lease` fails. -/
  | lease
  | wireguard (e : WireGuardError)
  | revoke
  deriving DecidableEq

/-- A server of a cluster and the authority, which may be the server itself. -/
structure ReservationState where
  config : ClusterConfig
  clustered : config.clusterEnabled = true
  dbNets : HashMap String NetworkConfig
  /-- The database of the authority. -/
  authority : ClusterDb
  db : Database
  /-- The state of the network of the call. -/
  state : NetworkState

inductive ReservationOp
  | create (networkCode peerId : String) (publicKey : Bytes) (enabled : Bool) (createdAt : Int)
  | reserve (networkCode peerId : String) (ip : Ipv4Addr)
  | release (networkCode peerId : String)
  | delete (networkCode peerId : String)

def ReservationOp.networkCode : ReservationOp → String
  | .create networkCode .. | .reserve networkCode .. | .release networkCode _ | .delete networkCode _ =>
    networkCode

def ReservationOp.peerId : ReservationOp → String
  | .create _ peerId .. | .reserve _ peerId _ | .release _ peerId | .delete _ peerId => peerId

namespace ReservationState

variable (s : ReservationState) (faults : ReservationFaults) (now : Nat)

/-- The authority reads the allocations of its own database. -/
def clusterDb : ClusterDb :=
  if s.config.isLeaseAuthority then { s.authority with allocations := s.db.allocations }
  else s.authority

/-- The transaction of the authority runs. The authority itself waits for it, so there it does not
run if the call fails. -/
def reaches : Bool :=
  match faults.link with
  | .unreachable | .requestLost => false
  | .answerLost => !s.config.isLeaseAuthority
  | .delivered => true

/-- The request for a static lease, as the authority reads it. -/
def leaseRequest (networkCode peerId : String) (requestedIp : Option Ipv4Addr)
    (config : NetworkConfig) : Option ClusterLeaseRequest :=
  ClusterConfig.dbLeaseRequest { s.config with serverId := s.config.leaseAuthority }
    (s.config.leaseAcquireRequest networkCode OwnerType.wireguardPeer.text peerId requestedIp
      config.net s.state.gateway config.leaseDuration true)

/-- `acquire_lease` for a static lease. -/
def acquireLease (networkCode peerId : String) (requestedIp : Option Ipv4Addr)
    (config : NetworkConfig) : Option ClusterLeaseGrant × ReservationState :=
  if s.reaches faults then
    match s.leaseRequest networkCode peerId requestedIp config with
    | none => (none, s)
    | some request =>
      match s.clusterDb.acquireClusterLease request now with
      | (.ok grant, authority) =>
        (if faults.link = .delivered then some grant else none, { s with authority })
      | (.error _, _) => (none, s)
  else (none, s)

/-- `release_lease`. -/
def releaseLease (networkCode peerId : String) : Bool × ReservationState :=
  if s.reaches faults then
    match s.clusterDb.releaseClusterLease networkCode OwnerType.wireguardPeer.text peerId
      s.config.leaseAuthority now with
    | (.ok _, authority) => (faults.link = .delivered, { s with authority })
    | (.error _, _) => (false, s)
  else (false, s)

def withLease (lease : NetworkStateInner) : ReservationState :=
  { s with state := { s.state with leaseState := lease } }

/-- The database write of a reservation and the step after it. -/
def persist {α : Type} (peerId : String) (ip : Ipv4Addr) (previousIp : Option Ipv4Addr)
    (write : Option Database) (value : α) : Except ReservationError α × ReservationState :=
  match if faults.databaseFails then none else write with
  | none =>
    (.error (.wireguard .persist),
      s.withLease (s.state.leaseState.finishReservation peerId ip previousIp false))
  | some db =>
    (.ok value, { s.withLease (s.state.leaseState.finishReservation peerId ip previousIp true) with db })

/-- `create_wireguard_peer_with_ip` of the network state. -/
def createWireguardPeerWithIp (record : WireGuardPeerRecord) (ip : Ipv4Addr) :
    Except ReservationError Ipv4Addr × ReservationState :=
  match s.state.leaseState.prepareFor record.peerId ip with
  | .error e => (.error (.wireguard e), s)
  | .ok (lease, previous) =>
    (s.withLease lease).persist faults record.peerId ip previous
      (s.db.insertWireguardPeerWithIp record ip) ip

/-- `reserve_wireguard_peer_ip_with` of the network state. -/
def reserveWireguardPeerIpWith (networkCode peerId : String) (ip : Ipv4Addr) :
    Except ReservationError Bool × ReservationState :=
  match s.state.leaseState.startReserve s.state.net s.state.gateway peerId ip with
  | .error e => (.error (.wireguard e), s)
  | .ok (lease, previous) =>
    (s.withLease lease).persist faults peerId ip previous
      (s.db.reserveWireguardPeerIp networkCode peerId ip) (previous.isSome && previous != some ip)

/-- The session of a peer that has moved is revoked. -/
def thenRevoke (r : Except ReservationError Bool × ReservationState) :
    Except ReservationError Unit × ReservationState :=
  match r with
  | (.error e, s) => (.error e, s)
  | (.ok changed, s) => (if changed && faults.revokeFails then .error .revoke else .ok (), s)

/-- `create_wireguard_peer_with_automatic_ip`. -/
def createWireguardPeerWithAutomaticIp (networkCode peerId : String) (publicKey : Bytes)
    (enabled : Bool) (createdAt : Int) : Except ReservationError Ipv4Addr × ReservationState :=
  match s.dbNets.lookup networkCode with
  | none => (.error (.network networkCode), s)
  | some config =>
    match s.acquireLease faults now networkCode peerId none config with
    | (none, s) => (.error .lease, s)
    | (some grant, s) =>
      s.createWireguardPeerWithIp faults ⟨networkCode, peerId, publicKey, enabled, createdAt, createdAt⟩
        grant.ip

/-- `reserve_wireguard_peer_ip`. -/
def reserveWireguardPeerIp (networkCode peerId : String) (ip : Ipv4Addr) :
    Except ReservationError Unit × ReservationState :=
  match s.dbNets.lookup networkCode with
  | none => (.error (.network networkCode), s)
  | some config =>
    match s.acquireLease faults now networkCode peerId (some ip) config with
    | (none, s) => (.error .lease, s)
    | (some _, s) => thenRevoke faults (s.reserveWireguardPeerIpWith faults networkCode peerId ip)

/-- The end of a release: the lease is given back if there was an address. -/
def giveBack {α : Type} (networkCode peerId : String) (removed : Bool) (value : α) :
    Except ReservationError α × ReservationState :=
  if removed then
    match s.releaseLease faults now networkCode peerId with
    | (true, s) => (.ok value, s)
    | (false, s) => (.error .lease, s)
  else (.ok value, s)

/-- The local part of a release; the result says whether there was an address. -/
def forget (networkCode peerId : String) (write : Database) : Bool × ReservationState :=
  let removed := s.db.allocations.rows.any (IpAllocation.isOwner networkCode .wireguardPeer peerId)
  let (lease, memoryRemoved) := s.state.leaseState.releaseWireguardPeerIp peerId
  (removed || memoryRemoved, { s.withLease lease with db := write })

/-- A call that takes the allocation away and gives the lease back; `always` says whether it revokes
the peer also if there was no address. -/
def withdraw {α : Type} (networkCode peerId : String) (always : Bool) (write : Database)
    (value : Bool → α) : Except ReservationError α × ReservationState :=
  match s.dbNets.lookup networkCode with
  | none => (.error (.network networkCode), s)
  | some _ =>
    if isBlank peerId then (.error (.wireguard .blankPeer), s)
    else if faults.databaseFails then (.error (.wireguard .persist), s)
    else
      let (removed, s) := s.forget networkCode peerId write
      if (always || removed) && faults.revokeFails then (.error .revoke, s)
      else s.giveBack faults now networkCode peerId removed (value removed)

/-- `release_wireguard_peer_ip`. -/
def releaseWireguardPeerIp (networkCode peerId : String) :
    Except ReservationError Bool × ReservationState :=
  s.withdraw faults now networkCode peerId false (s.db.releaseWireguardPeerIp networkCode peerId) id

/-- `delete_wireguard_peer`; the result says whether there was a peer, and an address. -/
def deleteWireguardPeer (networkCode peerId : String) :
    Except ReservationError (Bool × Bool) × ReservationState :=
  s.withdraw faults now networkCode peerId true (s.db.deleteWireguardPeer networkCode peerId)
    fun removed => (s.db.peers.rows.any (WireGuardPeerRecord.isPeer networkCode peerId), removed)

/-- What a call leaves, whatever it returns. -/
def apply : ReservationOp → ReservationState
  | .create networkCode peerId publicKey enabled createdAt =>
    (s.createWireguardPeerWithAutomaticIp faults now networkCode peerId publicKey enabled createdAt).2
  | .reserve networkCode peerId ip => (s.reserveWireguardPeerIp faults now networkCode peerId ip).2
  | .release networkCode peerId => (s.releaseWireguardPeerIp faults now networkCode peerId).2
  | .delete networkCode peerId => (s.deleteWireguardPeer faults now networkCode peerId).2

/-! ## Agreement -/

/-- The authority has a static lease for the peer. -/
def StaticLease (leases : Table clusterLeases) (n p text : String) : Prop :=
  ∃ r ∈ leases.rows, r.staticReservation = true ∧ r.isOwner n .wireguardPeer p = true ∧ r.ip = text

/-- The authority has a static lease for the peer exactly if there is a local allocation, with the
same address. -/
def Agrees (n p : String) : Prop :=
  ∀ text, StaticLease s.authority.leases n p text ↔
    Allocation s.db.allocations n .wireguardPeer p text

/-- The lease state has the address for nobody else. -/
def Unblocked (peerId : String) (ip : Ipv4Addr) : Prop :=
  s.state.leaseState.deviceIpMap.lookup ip = none ∧
    ∀ q, s.state.leaseState.wireguardPeerIpMap.lookup ip = some q → q = peerId

/-- The local server takes the address for a new peer: neither the peer nor its key is known, and
nobody has the address. -/
structure AcceptsNew (record : WireGuardPeerRecord) (ip : Ipv4Addr) : Prop where
  unblocked : s.Unblocked record.peerId ip
  peerId : isBlank record.peerId = false ∧ 0 < sqlLength record.peerId
  publicKey : record.publicKey.length = 32
  network : record.networkCode ∈ s.db.networks
  peers : ∀ x ∈ s.db.peers.rows,
    x.isPeer record.networkCode record.peerId = false ∧ x.publicKey ≠ record.publicKey
  allocations : ∀ x ∈ s.db.allocations.rows,
    x.isOwner record.networkCode .wireguardPeer record.peerId = false ∧
      x.isAt record.networkCode ip.toText = false

/-- The local server takes the address for a peer that moves. -/
structure AcceptsMove (n p : String) (ip : Ipv4Addr) : Prop where
  peerId : isBlank p = false ∧ 0 < sqlLength p
  usable : s.state.net.contains ip = true ∧ ip ≠ s.state.gateway
  unblocked : s.Unblocked p ip
  allocations : ∀ x ∈ s.db.allocations.rows, x.isOwner n .wireguardPeer p = false →
    x.isAt n ip.toText = false

/-- A request that the authority grants is answered, and the local server takes the address; or the
peer has that address already. -/
def SettlesAcquire (n p : String) (requestedIp : Option Ipv4Addr) (accepts : Ipv4Addr → Prop) : Prop :=
  ∀ config request ip, s.dbNets.lookup n = some config → s.reaches faults = true →
    s.leaseRequest n p requestedIp config = some request →
    s.clusterDb.Lends request now .wireguardPeer ip →
    (faults.link = .delivered ∧ faults.databaseFails = false ∧ accepts ip) ∨
      Allocation s.db.allocations n .wireguardPeer p ip.toText

/-- A peer that loses its allocation is revoked, and the authority gets the request. -/
def SettlesRelease (n p : String) : Prop :=
  ∀ config text, s.dbNets.lookup n = some config → isBlank p = false →
    faults.databaseFails = false → Allocation s.db.allocations n .wireguardPeer p text →
    faults.revokeFails = false ∧ s.reaches faults = true ∧ s.authority.state.revision < i64Max

/-- When a call leaves both sides in agreement. -/
def Settles : ReservationOp → Prop
  | .create n p publicKey enabled createdAt =>
    s.SettlesAcquire faults now n p none
      (s.AcceptsNew ⟨n, p, publicKey, enabled, createdAt, createdAt⟩)
  | .reserve n p ip => s.SettlesAcquire faults now n p (some ip) (s.AcceptsMove n p)
  | .release n p | .delete n p => s.SettlesRelease faults n p

/-! ## The local side -/

variable {s faults now}

variable {ip : Ipv4Addr} {p n : String} {record : WireGuardPeerRecord} {α : Type}
  {config : NetworkConfig} {t : ReservationState}

theorem prepareFor_isOk : (∃ r, s.state.leaseState.prepareFor p ip = .ok r) ↔ s.Unblocked p ip := by
  constructor
  · rintro ⟨⟨lease, previous⟩, h⟩
    obtain ⟨hd, hw, -⟩ := NetworkStateInner.prepare_ok (ReserveState.prepareFor_ok h)
    exact ⟨hd, hw⟩
  · rintro ⟨hd, hw⟩
    unfold NetworkStateInner.prepareFor NetworkStateInner.prepareWireguardPeerIpReservation
    rw [hd]
    cases hl : s.state.leaseState.wireguardPeerIpMap.lookup ip with
    | none => exact ⟨_, rfl⟩
    | some q =>
      obtain rfl := hw q hl
      simp

variable {db write : Database} {text : String} {grant : ClusterLeaseGrant}
  {requestedIp : Option Ipv4Addr} {s1 : ReservationState}

/-- The new allocation is the only one of the peer. -/
theorem allocation_of_insert {db' : Database}
    (h : db.insertWireguardPeerWithIp record ip = some db') :
    Allocation db'.allocations record.networkCode .wireguardPeer record.peerId ip.toText := by
  obtain ⟨-, -, peers, -, allocations, ha, rfl⟩ := Database.insertWireguardPeerWithIp_eq_some.mp h
  have hrows := Table.insert_eq_some.mp ha
  exact ⟨_, hrows ▸ List.mem_append_right _ List.mem_cons_self,
    IpAllocation.isOwner_iff.mpr ⟨rfl, rfl, rfl⟩, rfl⟩

theorem acceptsNew_iff :
    s.AcceptsNew record ip ↔
      s.Unblocked record.peerId ip ∧ (s.db.insertWireguardPeerWithIp record ip).isSome := by
  have hpeers : (s.db.peers.insert record).isSome ↔
      (0 < sqlLength record.peerId ∧ record.publicKey.length = 32) ∧ ∀ x ∈ s.db.peers.rows,
        x.isPeer record.networkCode record.peerId = false ∧ x.publicKey ≠ record.publicKey := by
    rw [Table.insert_isSome]
    simp [wireguardPeers]
  have hallocs : (s.db.allocations.insert
      ⟨record.networkCode, ip.toText, .wireguardPeer, record.peerId⟩).isSome ↔
      0 < sqlLength record.peerId ∧ ∀ x ∈ s.db.allocations.rows,
        x.isOwner record.networkCode .wireguardPeer record.peerId = false ∧
          x.isAt record.networkCode ip.toText = false := by
    rw [Table.insert_isSome]
    simp [ipAllocations]
  constructor
  · intro h
    obtain ⟨peers, hp⟩ := Option.isSome_iff_exists.mp
      (hpeers.mpr ⟨⟨h.peerId.2, h.publicKey⟩, h.peers⟩)
    obtain ⟨allocations, ha⟩ := Option.isSome_iff_exists.mp
      (hallocs.mpr ⟨h.peerId.2, h.allocations⟩)
    refine ⟨h.unblocked, Option.isSome_iff_exists.mpr ⟨_, Database.insertWireguardPeerWithIp_eq_some.mpr
      ⟨h.peerId.1, h.network, peers, hp, allocations, ha, rfl⟩⟩⟩
  · rintro ⟨hu, h⟩
    obtain ⟨db', h⟩ := Option.isSome_iff_exists.mp h
    obtain ⟨hb, hn, peers, hp, allocations, ha, -⟩ := Database.insertWireguardPeerWithIp_eq_some.mp h
    obtain ⟨⟨hl, hk⟩, hfresh⟩ := hpeers.mp (by rw [hp]; rfl)
    exact ⟨hu, ⟨hb, hl⟩, hk, hn, hfresh, (hallocs.mp (by rw [ha]; rfl)).2⟩

theorem reserveWireguardPeerIp_isSome :
    (db.reserveWireguardPeerIp n p ip).isSome ↔
      0 < sqlLength p ∧ ∀ x ∈ db.allocations.rows, x.isOwner n .wireguardPeer p = false →
        x.isAt n ip.toText = false := by
  have hrow : IpAllocation.isOwner n .wireguardPeer p ⟨n, ip.toText, .wireguardPeer, p⟩ = true :=
    IpAllocation.isOwner_iff.mpr ⟨rfl, rfl, rfl⟩
  have hput := Table.put_isSome_iff (t := db.allocations) ipAllocations_isOwner_clash hrow
  unfold Database.reserveWireguardPeerIp
  rw [Option.bind_eq_bind, Option.isSome_bind]
  simp only [Option.pure_def, Option.isSome_some, Option.any_true, hput]
  refine and_congr (by simp [ipAllocations]) (forall₂_congr fun x hx => forall_congr' fun ho => ?_)
  simp [ipAllocations, ho]

theorem startReserve_isOk :
    (∃ r, s.state.leaseState.startReserve s.state.net s.state.gateway p ip = .ok r) ↔
      isBlank p = false ∧ (s.state.net.contains ip = true ∧ ip ≠ s.state.gateway) ∧
        s.Unblocked p ip := by
  unfold NetworkStateInner.startReserve
  split
  · next hb => simp [hb]
  · next hb =>
    split
    · next hn => simp [hn]
    · next hn =>
      split
      · next hg => simp [hg]
      · next hg =>
        rw [prepareFor_isOk]
        simp only [Bool.not_eq_true, Bool.not_eq_false] at hb hn
        simp [hb, hn, hg]

theorem acceptsMove_iff :
    s.AcceptsMove n p ip ↔
      (∃ r, s.state.leaseState.startReserve s.state.net s.state.gateway p ip = .ok r) ∧
        (s.db.reserveWireguardPeerIp n p ip).isSome := by
  rw [startReserve_isOk, reserveWireguardPeerIp_isSome]
  exact ⟨fun h => ⟨⟨h.peerId.1, h.usable, h.unblocked⟩, h.peerId.2, h.allocations⟩,
    fun ⟨⟨hb, hu, hf⟩, hl, ha⟩ => ⟨⟨hb, hl⟩, hu, hf, ha⟩⟩

/-- What a local step makes of a granted address. -/
def Stores (s t : ReservationState) (faults : ReservationFaults) (n p : String) (ip : Ipv4Addr)
    (accepts : Prop) : Prop :=
  t.authority = s.authority ∧
    ((faults.databaseFails = false ∧ accepts ∧
        Allocation t.db.allocations n .wireguardPeer p ip.toText) ∨
      ¬ (faults.databaseFails = false ∧ accepts) ∧ t.db = s.db)

/-- The database write stores the address, or nothing. -/
theorem stores_persist {lease : NetworkStateInner}
    {previous : Option Ipv4Addr} {write : Option Database} {value : α} {accepts : Prop}
    (ha : accepts ↔ write.isSome)
    (hw : ∀ db', write = some db' → Allocation db'.allocations n .wireguardPeer p ip.toText) :
    Stores s ((s.withLease lease).persist faults p ip previous write value).2 faults n p ip accepts := by
  unfold persist
  cases hf : faults.databaseFails with
  | true => exact ⟨rfl, .inr ⟨fun ⟨h, _⟩ => (by cases hf.symm.trans h), rfl⟩⟩
  | false =>
    cases write with
    | none => exact ⟨rfl, .inr ⟨fun ⟨_, h⟩ => (by cases ha.mp h), rfl⟩⟩
    | some db' => exact ⟨rfl, .inl ⟨hf, ha.mpr rfl, hw db' rfl⟩⟩

theorem stores_create (record : WireGuardPeerRecord) (ip : Ipv4Addr) :
    Stores s (s.createWireguardPeerWithIp faults record ip).2 faults record.networkCode record.peerId
      ip (s.AcceptsNew record ip) := by
  unfold createWireguardPeerWithIp
  split
  · next e he =>
    refine ⟨rfl, .inr ⟨fun ⟨_, h⟩ => ?_, rfl⟩⟩
    obtain ⟨r, hr⟩ := prepareFor_isOk.mpr h.unblocked
    cases he.symm.trans hr
  · next lease previous hok =>
    have hu := prepareFor_isOk.mp ⟨_, hok⟩
    exact stores_persist (acceptsNew_iff.trans (and_iff_right hu)) fun db' => allocation_of_insert

theorem stores_reserve (n p : String) (ip : Ipv4Addr) :
    Stores s (s.reserveWireguardPeerIpWith faults n p ip).2 faults n p ip (s.AcceptsMove n p ip) := by
  unfold reserveWireguardPeerIpWith
  split
  · next e he =>
    refine ⟨rfl, .inr ⟨fun ⟨_, h⟩ => ?_, rfl⟩⟩
    obtain ⟨r, hr⟩ := (acceptsMove_iff.mp h).1
    cases he.symm.trans hr
  · next lease previous hok =>
    refine stores_persist (acceptsMove_iff.trans (and_iff_right ⟨_, hok⟩)) fun db' hw => ?_
    obtain ⟨allocations, hput, he⟩ := Option.bind_eq_some_iff.mp hw
    cases he
    exact ⟨_, (Table.mem_put hput _).mpr (.inr rfl), IpAllocation.isOwner_iff.mpr ⟨rfl, rfl, rfl⟩, rfl⟩

theorem acceptsNew_authority (authority : ClusterDb) :
    { s with authority }.AcceptsNew record ip ↔ s.AcceptsNew record ip :=
  ⟨fun h => ⟨h.unblocked, h.peerId, h.publicKey, h.network, h.peers, h.allocations⟩,
    fun h => ⟨h.unblocked, h.peerId, h.publicKey, h.network, h.peers, h.allocations⟩⟩

theorem acceptsMove_authority (authority : ClusterDb) :
    { s with authority }.AcceptsMove n p ip ↔ s.AcceptsMove n p ip :=
  ⟨fun h => ⟨h.peerId, h.usable, h.unblocked, h.allocations⟩,
    fun h => ⟨h.peerId, h.usable, h.unblocked, h.allocations⟩⟩

/-! ## Calls that ask first -/

/-- With one lease at the authority, agreement is that the address is stored here. -/
theorem agrees_iff_allocation (h : ∀ text', StaticLease s.authority.leases n p text' ↔ text' = text)
    : s.Agrees n p ↔ Allocation s.db.allocations n .wireguardPeer p text := by
  constructor
  · intro ha
    exact (ha text).mp ((h text).mpr rfl)
  · intro ha text'
    rw [h text']
    exact ⟨fun he => he ▸ ha, fun ha' => ha'.unique ha⟩

/-- The lease that a granted request leaves. -/
theorem staticLease_acquire {db db' : ClusterDb} {request : ClusterLeaseRequest}
    (hok : db.acquire request now = .ok (grant, db'))
    (ht : request.ownerType = OwnerType.wireguardPeer.text) (hs : request.staticReservation = true)
    (text : String) :
    StaticLease db'.leases request.networkCode request.ownerId text ↔ text = grant.ip.toText := by
  obtain ⟨o, own, hg⟩ := ClusterDb.acquire_ok hok
  obtain rfl := OwnerType.text_injective (hg.ownerType.symm.trans ht)
  have hrow : ClusterDb.leaseRow request .wireguardPeer grant.ip grant.revision now ∈ db'.leases.rows :=
    (Table.mem_put hg.leases _).mpr (.inr rfl)
  constructor
  · rintro ⟨r, hr, -, ho, rfl⟩
    rcases (Table.mem_put hg.leases r).mp hr with ⟨-, hne⟩ | rfl
    · rw [ho] at hne
      cases hne
    · rfl
  · rintro rfl
    exact ⟨_, hrow, hs, ClusterLease.isOwner_iff.mpr ⟨rfl, rfl, rfl⟩, rfl⟩

/-- Either the authority lends nothing and nothing changes, or it has the lease and the caller may
know of it. -/
theorem acquireLease_cases (n p : String) (requestedIp : Option Ipv4Addr) (config : NetworkConfig) :
    (s.acquireLease faults now n p requestedIp config = (none, s) ∧
      ∀ request ip, s.reaches faults = true → s.leaseRequest n p requestedIp config = some request →
        ¬ s.clusterDb.Lends request now .wireguardPeer ip) ∨
    ∃ request ip grant authority, s.reaches faults = true ∧
      s.leaseRequest n p requestedIp config = some request ∧
      (∀ ip', s.clusterDb.Lends request now .wireguardPeer ip' ↔ ip' = ip) ∧ grant.ip = ip ∧
      (∀ text, StaticLease authority.leases n p text ↔ text = ip.toText) ∧
      s.acquireLease faults now n p requestedIp config =
        (if faults.link = .delivered then some grant else none, { s with authority }) := by
  unfold acquireLease
  split
  · next hreach =>
    split
    · next hnone => exact .inl ⟨rfl, fun request ip _ hr => (by cases hnone.symm.trans hr)⟩
    · next request hr =>
      obtain ⟨hn, ht, hd, -, -, hst⟩ := ClusterConfig.dbLeaseRequest_eq hr
      replace ht : request.ownerType = OwnerType.wireguardPeer.text := ht
      split
      · next grant authority hok =>
        have hok := transaction_ok.mp hok
        refine .inr ⟨request, grant.ip, grant, authority, hreach, hr, fun ip' => ?_, rfl, ?_, rfl⟩
        · constructor
          · intro h
            obtain ⟨g, db', hok', rfl⟩ := h.acquire
            cases hok.symm.trans hok'
            rfl
          · rintro rfl
            obtain ⟨o, hl⟩ := ClusterDb.lends_of_acquire hok
            obtain rfl := OwnerType.text_injective (hl.ownerType.symm.trans ht)
            exact hl
        · have := staticLease_acquire hok ht hst
          rwa [hn, hd] at this
      · next e authority he =>
        refine .inl ⟨rfl, fun request' ip _ hr' hl => ?_⟩
        cases hr.symm.trans hr'
        obtain ⟨g, db', hok, -⟩ := hl.acquire
        cases (transaction_error.mp he).1.symm.trans hok
  · next hreach => exact .inl ⟨rfl, fun _ _ h => absurd h hreach⟩

/-- A call that asks the authority and then stores the address. -/
theorem agrees_iff_settlesAcquire (h : s.Agrees n p)
    (hc : s.dbNets.lookup n = some config) {accepts : Ipv4Addr → Prop}
    (hnone : ∀ s1, s.acquireLease faults now n p requestedIp config = (none, s1) → t = s1)
    (hsome : ∀ grant s1, s.acquireLease faults now n p requestedIp config = (some grant, s1) →
      Stores s1 t faults n p grant.ip (accepts grant.ip)) :
    t.Agrees n p ↔ s.SettlesAcquire faults now n p requestedIp accepts := by
  have hsettles : ∀ request, s.leaseRequest n p requestedIp config = some request →
      s.reaches faults = true → ∀ ip,
      (∀ ip', s.clusterDb.Lends request now .wireguardPeer ip' ↔ ip' = ip) →
      (s.SettlesAcquire faults now n p requestedIp accepts ↔
        (faults.link = .delivered ∧ faults.databaseFails = false ∧ accepts ip) ∨
          Allocation s.db.allocations n .wireguardPeer p ip.toText) := by
    intro request hr hreach ip hip
    refine ⟨fun hs => hs config request ip hc hreach hr ((hip ip).mpr rfl),
      fun hs config' request' ip' hc' _ hr' hl => ?_⟩
    cases hc.symm.trans hc'
    cases hr.symm.trans hr'
    exact (hip ip').mp hl ▸ hs
  rcases s.acquireLease_cases n p requestedIp config with
    ⟨ha, hno⟩ | ⟨request, ip, grant, authority, hreach, hr, hip, rfl, hlease, ha⟩
  · rw [hnone _ ha]
    refine iff_of_true h fun config' request ip hc' hreach hr hl => ?_
    cases hc.symm.trans hc'
    exact absurd hl (hno request ip hreach hr)
  · rw [hsettles request hr hreach grant.ip hip]
    by_cases hd : faults.link = .delivered
    · rw [if_pos hd] at ha
      obtain ⟨hauth, hst⟩ := hsome grant _ ha
      rw [agrees_iff_allocation (s := t) (by rw [hauth]; exact hlease)]
      rcases hst with ⟨hf, hacc, hal⟩ | ⟨hnot, hdb⟩
      · exact iff_of_true hal (.inl ⟨hd, hf, hacc⟩)
      · rw [hdb]
        exact ⟨.inr, fun h => h.resolve_left fun ⟨_, hf⟩ => hnot hf⟩
    · rw [if_neg hd] at ha
      rw [hnone _ ha, agrees_iff_allocation hlease]
      exact ⟨.inr, fun h => h.resolve_left fun ⟨hd', _⟩ => hd hd'⟩

theorem acquireLease_state {r : Option ClusterLeaseGrant}
    (h : s.acquireLease faults now n p requestedIp config = (r, s1)) :
    ∃ authority, s1 = { s with authority } := by
  rcases s.acquireLease_cases n p requestedIp config with
    ⟨ha, -⟩ | ⟨_, _, _, authority, -, -, -, -, -, ha⟩
  · cases ha.symm.trans h
    exact ⟨s.authority, rfl⟩
  · cases ha.symm.trans h
    exact ⟨authority, rfl⟩

/-- A requested address is the granted one. -/
theorem acquireLease_ip
    (h : s.acquireLease faults now n p (some ip) config = (some grant, s1)) : grant.ip = ip := by
  rcases s.acquireLease_cases n p (some ip) config with
    ⟨ha, -⟩ | ⟨request, _, grant', authority, -, hr, hip, rfl, -, ha⟩
  · cases ha.symm.trans h
  · obtain ⟨own, -, hpick⟩ := ((hip grant'.ip).mpr rfl).picks
    obtain ⟨-, -, -, hreq, -⟩ := ClusterConfig.dbLeaseRequest_eq hr
    rw [hreq] at hpick
    have he := ha.symm.trans h
    split at he
    · cases he
      exact hpick.1
    · cases he

/-- A failed revocation comes after the address is stored. -/
theorem thenRevoke_state (r : Except ReservationError Bool × ReservationState) :
    (thenRevoke faults r).2 = r.2 := by
  obtain ⟨e | changed, s⟩ := r <;> rfl

theorem agrees_create (h : s.Agrees n p) (publicKey : Bytes) (enabled : Bool) (createdAt : Int) :
    (s.apply faults now (.create n p publicKey enabled createdAt)).Agrees n p ↔
      s.Settles faults now (.create n p publicKey enabled createdAt) := by
  unfold apply createWireguardPeerWithAutomaticIp
  dsimp only
  split
  · next hc => exact iff_of_true h fun config _ _ hc' => (by cases hc.symm.trans hc')
  · next config hc =>
    refine agrees_iff_settlesAcquire h hc (fun s1 ha => ?_) fun grant s1 ha => ?_
    · rw [ha]
    · rw [ha]
      obtain ⟨authority, rfl⟩ := acquireLease_state ha
      rw [← acceptsNew_authority authority]
      exact stores_create _ _

theorem agrees_reserve (h : s.Agrees n p) (ip : Ipv4Addr) :
    (s.apply faults now (.reserve n p ip)).Agrees n p ↔ s.Settles faults now (.reserve n p ip) := by
  unfold apply reserveWireguardPeerIp
  dsimp only
  split
  · next hc => exact iff_of_true h fun config _ _ hc' => (by cases hc.symm.trans hc')
  · next config hc =>
    refine agrees_iff_settlesAcquire h hc (fun s1 ha => ?_) fun grant s1 ha => ?_
    · rw [ha]
    · obtain ⟨authority, rfl⟩ := acquireLease_state ha
      rw [← acceptsMove_authority authority, ha, acquireLease_ip ha]
      rw [thenRevoke_state]
      exact stores_reserve n p ip

/-! ## Calls that store first -/

/-- The lease goes, unless the authority cannot count on. -/
theorem staticLease_release (db : ClusterDb) (now : Nat) (n p authorityId text : String) :
    StaticLease (db.releaseClusterLease n OwnerType.wireguardPeer.text p authorityId now).2.leases
        n p text ↔ StaticLease db.leases n p text ∧ ¬ db.state.revision < i64Max := by
  have hown : ∀ r : ClusterLease, (r.networkCode == n && r.ownerType.text ==
      OwnerType.wireguardPeer.text && r.ownerId == p) = r.isOwner n .wireguardPeer p := by
    intro r
    rw [Bool.eq_iff_iff, ClusterLease.isOwner_iff]
    simp [OwnerType.text_injective.eq_iff, and_assoc]
  unfold ClusterDb.releaseClusterLease transaction ClusterDb.release
  simp only [hown]
  by_cases hany : (db.leases.rows.any fun r => r.isOwner n .wireguardPeer p) = true
  · rw [if_pos hany]
    by_cases hrev : db.state.revision < i64Max
    · have hno : ¬ StaticLease (db.leases.delete fun r => r.isOwner n .wireguardPeer p) n p text := by
        rintro ⟨r, hr, -, ho, -⟩
        rw [(Table.mem_delete.mp hr).2] at ho
        cases ho
      simpa [ClusterDb.advance, ensure, hrev] using hno
    · simp [ClusterDb.advance, ensure, hrev]
  · rw [if_neg hany]
    have hno : ¬ StaticLease db.leases n p text := by
      rintro ⟨r, hr, -, ho, -⟩
      exact hany (List.any_eq_true.mpr ⟨r, hr, ho⟩)
    exact iff_of_false hno fun h => hno h.1

theorem clusterDb_leases : s.clusterDb.leases = s.authority.leases := by
  unfold clusterDb
  split <;> rfl

theorem clusterDb_state : s.clusterDb.state = s.authority.state := by
  unfold clusterDb
  split <;> rfl

/-- The lease goes if the authority gets the request and can count on. -/
theorem releaseLease_authority (s : ReservationState) (faults : ReservationFaults) (now : Nat)
    (n p : String) :
    (s.releaseLease faults now n p).2.db = s.db ∧
    ∀ text, StaticLease (s.releaseLease faults now n p).2.authority.leases n p text ↔
      StaticLease s.authority.leases n p text ∧
        ¬ (s.reaches faults = true ∧ s.authority.state.revision < i64Max) := by
  unfold releaseLease
  by_cases hreach : s.reaches faults = true
  · rw [if_pos hreach]
    have hl := staticLease_release s.clusterDb now n p s.config.leaseAuthority
    simp only [clusterDb_leases, clusterDb_state] at hl
    split
    · next _ authority hok =>
      rw [hok] at hl
      exact ⟨rfl, fun text => by simpa [hreach] using hl text⟩
    · next e db he =>
      rw [he, (transaction_error.mp he).2, clusterDb_leases] at hl
      exact ⟨rfl, fun text => by simpa [hreach] using hl text⟩
  · rw [if_neg hreach]
    exact ⟨rfl, fun text => by simp [hreach]⟩

/-- After the local part, agreement is that no lease is left. -/
theorem agrees_iff_no_lease (h : ∀ text, ¬ Allocation s.db.allocations n .wireguardPeer p text) :
    s.Agrees n p ↔ ∀ text, ¬ StaticLease s.authority.leases n p text :=
  forall_congr' fun text => by rw [iff_false_right (h text)]

theorem giveBack_state (n p : String) (removed : Bool) (value : α) :
    (s.giveBack faults now n p removed value).2 =
      if removed then (s.releaseLease faults now n p).2 else s := by
  unfold giveBack
  split
  · split <;> next h => rw [h]
  · rfl

/-- A call that has taken the local allocation away, for any revocation and any release. -/
theorem agrees_after_forget (now : Nat) (h : s.Agrees n p) {u : ReservationState}
    (ht : ∀ text, ¬ Allocation t.db.allocations n .wireguardPeer p text)
    (ha : t.authority = s.authority) (hc : t.config = s.config)
    (hnone : (∀ text, ¬ Allocation s.db.allocations n .wireguardPeer p text) →
      u = t ∨ u = (t.releaseLease faults now n p).2)
    (hsome : ∀ text, Allocation s.db.allocations n .wireguardPeer p text →
      u = if faults.revokeFails then t else (t.releaseLease faults now n p).2) :
    u.Agrees n p ↔ ∀ text, Allocation s.db.allocations n .wireguardPeer p text →
      faults.revokeFails = false ∧ s.reaches faults = true ∧ s.authority.state.revision < i64Max := by
  have hreach : t.reaches faults = s.reaches faults := by simp only [reaches, hc]
  obtain ⟨hdb, hl⟩ := t.releaseLease_authority faults now n p
  have hkept : t.Agrees n p ↔ ∀ text, ¬ StaticLease s.authority.leases n p text := by
    rw [agrees_iff_no_lease ht, ha]
  have hgone : (t.releaseLease faults now n p).2.Agrees n p ↔
      ∀ text, StaticLease s.authority.leases n p text →
        s.reaches faults = true ∧ s.authority.state.revision < i64Max := by
    rw [agrees_iff_no_lease (by rwa [hdb])]
    simp only [hl, ha, hreach]
    exact forall_congr' fun text => not_and_not_right
  by_cases hex : ∃ text, Allocation s.db.allocations n .wireguardPeer p text
  · obtain ⟨text, hal⟩ := hex
    have hlease := (h text).mpr hal
    rw [hsome text hal]
    cases hrev : faults.revokeFails with
    | true => exact iff_of_false (fun hk => hkept.mp hk text hlease) fun hs => (by cases (hs text hal).1)
    | false =>
      refine hgone.trans ⟨fun hs text' _ => ⟨rfl, hs text hlease⟩, fun hs text' _ => (hs text hal).2⟩
  · have hno : ∀ text, ¬ Allocation s.db.allocations n .wireguardPeer p text := not_exists.mp hex
    have hfree : ∀ text, ¬ StaticLease s.authority.leases n p text := fun text hl =>
      hno text ((h text).mp hl)
    refine iff_of_true ?_ fun text hal => absurd hal (hno text)
    rcases hnone hno with rfl | rfl
    · exact hkept.mpr hfree
    · exact hgone.mpr fun text hl => absurd hl (hfree text)

/-- The local part of a release. -/
theorem forget_eq {removed : Bool} (h : s.forget n p write = (removed, t)) :
    t.authority = s.authority ∧ t.config = s.config ∧ t.db = write ∧
      ∀ text, Allocation s.db.allocations n .wireguardPeer p text → removed = true := by
  cases h
  refine ⟨rfl, rfl, rfl, fun text ⟨r, hr, ho, _⟩ => ?_⟩
  rw [List.any_eq_true.mpr ⟨r, hr, ho⟩]
  rfl

theorem not_allocation_delete {t : Table ipAllocations} :
    ¬ Allocation (t.delete (IpAllocation.isOwner n .wireguardPeer p)) n .wireguardPeer p text := by
  rintro ⟨r, hr, ho, -⟩
  rw [(Table.mem_delete.mp hr).2] at ho
  cases ho

/-- The condition of a release past its checks. -/
theorem settlesRelease_iff (hc : s.dbNets.lookup n = some config) (hb : isBlank p = false)
    (hf : faults.databaseFails = false) :
    s.SettlesRelease faults n p ↔ ∀ text, Allocation s.db.allocations n .wireguardPeer p text →
      faults.revokeFails = false ∧ s.reaches faults = true ∧ s.authority.state.revision < i64Max :=
  ⟨fun h text => h config text hc hb hf, fun h _ text _ _ _ => h text⟩

theorem agrees_withdraw (h : s.Agrees n p) (always : Bool) (value : Bool → α)
    (hw : ∀ text, ¬ Allocation write.allocations n .wireguardPeer p text) :
    (s.withdraw faults now n p always write value).2.Agrees n p ↔ s.SettlesRelease faults n p := by
  unfold withdraw
  split
  · next hc => exact iff_of_true h fun _ _ hc' => (by cases hc.symm.trans hc')
  · next config hc =>
    split
    · next hb => exact iff_of_true h fun _ _ _ hb' => (by cases hb.symm.trans hb')
    · next hb =>
      split
      · next hf => exact iff_of_true h fun _ _ _ _ hf' => (by cases hf.symm.trans hf')
      · next hf =>
        rw [settlesRelease_iff hc (by simpa using hb) (by simpa using hf)]
        cases hfo : s.forget n p write with
        | mk removed t =>
          obtain ⟨ha, hcfg, hdb, hrem⟩ := forget_eq hfo
          refine agrees_after_forget now h (t := t) (by rwa [hdb]) ha hcfg (fun _ => ?_)
            fun text hal => ?_
          · dsimp only
            split
            · exact .inl rfl
            · rw [giveBack_state]
              split
              · exact .inr rfl
              · exact .inl rfl
          · dsimp only
            rw [hrem text hal, Bool.or_true]
            cases faults.revokeFails
            · exact giveBack_state n p true _
            · rfl

/-- **Two records of one reservation.** If the authority and the local server agree on a peer before
a call, they agree after it exactly if a granted request is answered and the address taken here, or
the address was the peer's already; and, for a call that takes an allocation away, the peer is
revoked and the authority gets the release. -/
theorem agrees_iff (s : ReservationState) (faults : ReservationFaults) (now : Nat)
    (op : ReservationOp) (h : s.Agrees op.networkCode op.peerId) :
    (s.apply faults now op).Agrees op.networkCode op.peerId ↔ s.Settles faults now op := by
  cases op with
  | create n p publicKey enabled createdAt => exact agrees_create h publicKey enabled createdAt
  | reserve n p ip => exact agrees_reserve h ip
  | release n p => exact agrees_withdraw h false id fun text => not_allocation_delete
  | delete n p => exact agrees_withdraw h true _ fun text => not_allocation_delete

/-! ## A new peer -/

/-- A server without peers and devices, whose authority is another one. -/
def start : ReservationState where
  config := ⟨"b", "a", "digest"⟩
  clustered := rfl
  dbNets := AList.insert "home" ⟨defaultNet, oneDay, .config⟩ ∅
  authority := ⟨Table.empty, ⟨"", 0, 0⟩, Table.empty⟩
  db := ⟨["home"], Table.empty, Table.empty, Table.empty⟩
  state := NetworkState.newFromDb "home" defaultNet oneDay none none 0

def createPhone : ReservationOp := .create "home" "phone" (List.replicate 32 0) true 0

theorem start_agrees (n p : String) : start.Agrees n p := fun text =>
  ⟨fun ⟨r, hr, _⟩ => (by cases hr), fun ⟨r, hr, _⟩ => (by cases hr)⟩

/-- Nothing is lost: the phone gets `10.26.0.2` on both sides. -/
theorem agrees_iff_created :
    start.Agrees "home" "phone" ∧ (start.apply ⟨.delivered, false, false⟩ 100 createPhone).Agrees
      "home" "phone" ∧
      Allocation (start.apply ⟨.delivered, false, false⟩ 100 createPhone).db.allocations "home"
        .wireguardPeer "phone" "10.26.0.2" := by
  refine ⟨start_agrees _ _, (agrees_iff start _ 100 createPhone (start_agrees _ _)).mpr ?_,
    ⟨⟨"home", "10.26.0.2", .wireguardPeer, "phone"⟩, by decide, rfl, rfl⟩⟩
  intro config request ip hc _ hr hl
  cases hc
  cases hr
  obtain ⟨grant, db', hok, rfl⟩ := hl.acquire
  refine .inl ⟨rfl, rfl, ?_⟩
  have hip : grant.ip = homeIp 2 := by
    have h := congrArg (fun r => r.toOption.map fun r => r.1.ip) hok
    exact Option.some.inj (h.symm.trans (by decide))
  rw [hip]
  exact ⟨⟨by decide, fun q hq => by cases hq⟩, by decide, by decide, by decide,
    fun x hx => (by cases hx), fun x hx => (by cases hx)⟩

/-- The answer of the authority comes too late. -/
def answerLate : ReservationState := start.apply ⟨.answerLost, false, false⟩ 100 createPhone

/-- The authority has a static lease for the phone, and the server knows nothing of it. -/
theorem lease_without_allocation :
    start.Agrees "home" "phone" ∧
      StaticLease answerLate.authority.leases "home" "phone" "10.26.0.2" ∧
      (∀ text, ¬ Allocation answerLate.db.allocations "home" .wireguardPeer "phone" text) ∧
      ¬ answerLate.Agrees "home" "phone" := by
  have hlease : StaticLease answerLate.authority.leases "home" "phone" "10.26.0.2" := by
    have h : answerLate.authority.leases.rows =
        [⟨"home", .wireguardPeer, "phone", "10.26.0.2", "a", "b", 1, 0, true, 100⟩] := by decide
    exact ⟨_, h ▸ List.mem_cons_self, rfl, by decide, rfl⟩
  have hno : ∀ text, ¬ Allocation answerLate.db.allocations "home" .wireguardPeer "phone" text := by
    rintro text ⟨r, hr, -⟩
    cases hr
  exact ⟨start_agrees _ _, hlease, hno, fun h => hno _ ((h _).mp hlease)⟩

end ReservationState

end Vntc
