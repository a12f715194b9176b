import Vntc.Lib.HashMap
import Vntc.Lib.Sys
import Vntc.Server.Network
import Vntc.Server.Peer.Cluster

/-!
# Leases of the sessions of a cluster

A registration asks the authority for a lease, and a task of the session renews it: `register` of
`server/control_server/service.rs`, with `acquire_lease_request` and `handle_lease_acquire_request`
of `server/peer_server.rs`. The session reports `cluster_lease_valid` until a renewal fails after the
lease has run out; the authority gives the address away as soon as it has run out. Requests and
answers may be lost or late, the authority may handle a request whose caller has given up, and all
servers read one clock.
-/

namespace Vntc

open Lib OwnerType HashMap ClusterLease

/-- A device that relies on a lease. -/
structure Claim where
  networkCode : String
  deviceId : String
  ip : Ipv4Addr
  expiresAt : Nat
  deriving DecidableEq

/-! ## The database behind the claims -/

namespace ClusterDb

variable {db db' : ClusterDb} {now : Nat} {request : ClusterLeaseRequest} {grant : ClusterLeaseGrant}
  {x : Claim}

/-- While the claim is in force, its device has a lease of the address that lasts as long. -/
def Covers (db : ClusterDb) (now : Nat) (x : Claim) : Prop :=
  now < x.expiresAt → ∃ r ∈ db.leases.rows,
    r.isOwner x.networkCode .vntDevice x.deviceId = true ∧ r.ip = x.ip.toText ∧
      (r.staticReservation = true ∨ x.expiresAt ≤ r.expiresAt)

/-- A request of the device of the claim. -/
def FromOwner (request : ClusterLeaseRequest) (x : Claim) : Prop :=
  request.networkCode = x.networkCode ∧ request.ownerType = OwnerType.vntDevice.text ∧
    request.ownerId = x.deviceId

/-- The request asks for no other address, and for a lease that does not end earlier. -/
def Confirms (request : ClusterLeaseRequest) (now : Nat) (x : Claim) : Prop :=
  (request.requestedIp = none ∨ request.requestedIp = some x.ip) ∧
    (request.staticReservation = true ∨ x.expiresAt ≤ now + max request.leaseDurationSecs 10)

theorem Covers.holds (h : db.Covers now x) (hx : now < x.expiresAt) :
    db.Holds now x.networkCode .vntDevice x.deviceId x.ip := by
  obtain ⟨r, hr, ho, hip, he⟩ := h hx
  exact ⟨r, hr, ho, hip, he.imp_right fun he => Nat.lt_of_lt_of_le hx he⟩

/-- An owner that confirms its address keeps it. -/
theorem Grants.ip_eq (hi : db.Inv) {o : OwnerType} {own : Option Ipv4Addr} {ip : Ipv4Addr}
    (h : Grants db request now grant db' o own)
    (hh : db.Holds now request.networkCode o request.ownerId ip)
    (hr : request.requestedIp = none ∨ request.requestedIp = some ip) : grant.ip = ip := by
  have hown := h.ownerIp
  have hc := h.candidate
  rw [ownerIp_of_holds hi hh, Except.ok.injEq] at hown
  rcases hr with hr | hr <;> rw [hr] at hc
  · rw [← hown] at hc
    exact candidate_some hc
  · exact candidate_some hc

/-- The lease of another owner stays, and so does that of an owner that confirms it. -/
theorem Covers.acquire (h : db.Covers now x) (hi : db.Inv) (hb : x.expiresAt ≤ i64Max)
    (hok : db.acquire request now = .ok (grant, db'))
    (hs : FromOwner request x → now < x.expiresAt → Confirms request now x) : db'.Covers now x := by
  intro hx
  obtain ⟨o, own, hg⟩ := acquire_ok hok
  obtain ⟨r, hr, ho, hip, he⟩ := h hx
  by_cases hown : r.isOwner request.networkCode o request.ownerId = true
  · obtain ⟨hn, ht, hd⟩ := isOwner_iff.mp ho
    obtain ⟨hn', ht', hd'⟩ := isOwner_iff.mp hown
    have hn := hn'.symm.trans hn
    have ht := ht'.symm.trans ht
    have hd := hd'.symm.trans hd
    subst ht
    obtain ⟨hip', hexp⟩ := hs ⟨hn, hg.ownerType, hd⟩ hx
    have hgip : grant.ip = x.ip := hg.ip_eq hi (hn ▸ hd ▸ h.holds hx) hip'
    refine ⟨_, (Table.mem_put hg.leases _).mpr (.inr rfl),
      isOwner_iff.mpr ⟨hn, rfl, hd⟩, congrArg Ipv4Addr.toText hgip, ?_⟩
    cases hstat : request.staticReservation with
    | true => exact .inl hstat
    | false =>
      refine .inr ?_
      have := hexp.resolve_left (by simp [hstat])
      simp only [leaseRow, expiresAt, hstat, Bool.false_eq_true, if_false]
      omega
  · have hu : r.Unexpired now := he.imp_right fun he => Nat.lt_of_lt_of_le hx he
    exact ⟨r, (Table.mem_put hg.leases r).mpr
      (.inl ⟨(mem_expire hi).mpr ⟨hr, hu⟩, Bool.eq_false_iff.mpr hown⟩), ho, hip, he⟩

/-- What a device gets is covered. -/
theorem covers_grant (hok : db.acquire request now = .ok (grant, db'))
    (ht : request.ownerType = vntDevice.text) :
    db'.Covers now ⟨request.networkCode, request.ownerId, grant.ip, grant.expiresAt⟩ := by
  intro _
  obtain ⟨o, own, hg⟩ := acquire_ok hok
  obtain rfl := text_injective (hg.ownerType.symm.trans ht)
  exact ⟨_, (Table.mem_put hg.leases _).mpr (.inr rfl),
    isOwner_iff.mpr ⟨rfl, rfl, rfl⟩, rfl, .inr hg.expiresAt.le⟩

/-- A claim in force keeps its address from other devices. -/
theorem Covers.ip_ne (h : db.Covers now x) (hi : db.Inv) (hx : now < x.expiresAt)
    (hok : db.acquire request now = .ok (grant, db')) (hn : request.networkCode = x.networkCode)
    (hd : request.ownerId ≠ x.deviceId) : grant.ip ≠ x.ip := by
  intro hip
  obtain ⟨o, own, hg⟩ := acquire_ok hok
  obtain ⟨r, hr, ho, hrip, hu⟩ := h.holds hx
  have hocc := (occupied_eq_false.mp (candidate_ok hg.gateway hg.candidate).2.2).1 r
    ((mem_expire hi).mpr ⟨hr, hu⟩)
  obtain ⟨hrn, -, hrd⟩ := isOwner_iff.mp ho
  have := (hocc (isAt_iff.mpr ⟨hrn.trans hn.symm, by rw [hrip, hip]⟩)).2
  exact hd (this.symm.trans hrd)

theorem grant_ip_eq (hok : db.acquire request now = .ok (grant, db')) {ip : Ipv4Addr}
    (hr : request.requestedIp = some ip) : grant.ip = ip := by
  obtain ⟨o, own, hg⟩ := acquire_ok hok
  have hc := hg.candidate
  rw [hr] at hc
  exact candidate_some hc

theorem grant_expiresAt_le (hok : db.acquire request now = .ok (grant, db')) :
    grant.expiresAt ≤ i64Max := by
  obtain ⟨o, own, hg⟩ := acquire_ok hok
  rw [hg.expiresAt, expiresAt]
  split
  · exact Nat.zero_le _
  · exact Nat.min_le_right _ _

/-- The lease of a device outlives the release of one of a WireGuard peer. -/
theorem Covers.release (h : db.Covers now x) {n d authorityId : String} {revision : Nat}
    (hok : db.release n wireguardPeer.text d authorityId now = .ok (revision, db')) :
    db'.Covers now x := by
  unfold ClusterDb.release at hok
  dsimp only at hok
  split at hok
  · obtain ⟨state, -, hr⟩ := bind_eq_ok.mp hok
    cases hr
    intro hx
    obtain ⟨r, hr, ho, hip⟩ := h hx
    refine ⟨r, Table.mem_delete.mpr ⟨hr, ?_⟩, ho, hip⟩
    obtain ⟨-, ht, -⟩ := isOwner_iff.mp ho
    simp [ht, text]
  · cases hok
    exact h

end ClusterDb

/-- Every claim in force is covered, and no two devices claim one address. -/
structure Guarded (db : ClusterDb) (now : Nat) (claims : List Claim) : Prop where
  inv : db.Inv
  covered : ∀ x ∈ claims, db.Covers now x
  bounded : ∀ x ∈ claims, x.expiresAt ≤ i64Max
  apart : ∀ x ∈ claims, ∀ y ∈ claims, x.networkCode = y.networkCode → x.ip = y.ip →
    x.deviceId = y.deviceId

namespace Guarded

variable {db db' : ClusterDb} {now : Nat} {claims : List Claim} {request : ClusterLeaseRequest}
  {grant : ClusterLeaseGrant}

section

variable (h : Guarded db now claims)

include h

/-- Claims go, and time passes. -/
theorem mono {now' : Nat} (hn : now ≤ now') {claims' : List Claim}
    (hsub : ∀ x ∈ claims', x ∈ claims) : Guarded db now' claims' where
  inv := h.inv
  covered x hx hlt := h.covered x (hsub x hx) (Nat.lt_of_le_of_lt hn hlt)
  bounded x hx := h.bounded x (hsub x hx)
  apart x hx y hy := h.apart x (hsub x hx) y (hsub y hy)

theorem acquire (hok : db.acquire request now = .ok (grant, db'))
    (hs : ∀ x ∈ claims, ClusterDb.FromOwner request x → now < x.expiresAt →
      ClusterDb.Confirms request now x) : Guarded db' now claims where
  inv := h.inv.acquire hok
  covered x hx := (h.covered x hx).acquire h.inv (h.bounded x hx) hok (hs x hx)
  bounded := h.bounded
  apart := h.apart

/-- The grant of a device is a new claim, if no claim that it could meet has run out. -/
theorem cons_grant (hok : db.acquire request now = .ok (grant, db'))
    (ht : request.ownerType = vntDevice.text)
    (hs : ∀ x ∈ claims, ClusterDb.FromOwner request x → now < x.expiresAt →
      ClusterDb.Confirms request now x)
    (ho : ∀ x ∈ claims, request.networkCode = x.networkCode → request.ownerId ≠ x.deviceId →
      (request.requestedIp = none ∨ request.requestedIp = some x.ip) → now < x.expiresAt) :
    Guarded db' now (⟨request.networkCode, request.ownerId, grant.ip, grant.expiresAt⟩ :: claims) := by
  have hg := h.acquire hok hs
  have hnew : ∀ x ∈ claims, request.networkCode = x.networkCode → grant.ip = x.ip →
      request.ownerId = x.deviceId := by
    intro x hx hn hip
    by_contra hd
    refine (h.covered x hx).ip_ne h.inv (ho x hx hn hd ?_) hok hn hd hip
    cases hr : request.requestedIp with
    | none => exact .inl rfl
    | some a => exact .inr (congrArg some ((ClusterDb.grant_ip_eq hok hr).symm.trans hip))
  refine ⟨hg.inv, fun x hx => ?_, fun x hx => ?_, fun x hx y hy hn hip => ?_⟩
  · rcases List.mem_cons.mp hx with rfl | hx
    · exact ClusterDb.covers_grant hok ht
    · exact hg.covered x hx
  · rcases List.mem_cons.mp hx with rfl | hx
    · exact ClusterDb.grant_expiresAt_le hok
    · exact hg.bounded x hx
  · rcases List.mem_cons.mp hx with rfl | hx <;> rcases List.mem_cons.mp hy with rfl | hy
    · rfl
    · exact hnew y hy hn hip
    · exact (hnew x hx hn.symm hip.symm).symm
    · exact hg.apart x hx y hy hn hip

theorem release {n d authorityId : String} {revision : Nat}
    (hok : db.release n wireguardPeer.text d authorityId now = .ok (revision, db')) :
    Guarded db' now claims where
  inv := by
    rcases ClusterDb.release_ok hok with e | ⟨-, hsub⟩
    · exact e ▸ h.inv
    · exact h.inv.mono hsub
  covered x hx := (h.covered x hx).release hok
  bounded := h.bounded
  apart := h.apart

theorem allocations (rows : Table ipAllocations) :
    Guarded { db with allocations := rows } now claims :=
  ⟨⟨h.inv.text, h.inv.timed⟩, h.covered, h.bounded, h.apart⟩

end

end Guarded

/-! ## Calls and sessions -/

/-- What a call of `acquire_lease` is for. -/
inductive LeasePurpose
  | register (req : RegRequestMsg)
  | renew (session : Nat) (deviceId : String) (ip : Ipv4Addr)

structure LeaseCall where
  server : ClusterConfig
  networkCode : String
  network : Ipv4Net
  gateway : Ipv4Addr
  /-- In nanoseconds. -/
  leaseDuration : Nat
  purpose : LeasePurpose
  /-- The answer of the authority, once it has handled the request; none inside for a refusal. -/
  answer : Option (Option ClusterLeaseGrant)
  /-- The caller has not given up. -/
  waiting : Bool

namespace LeaseCall

variable (call : LeaseCall)

def deviceId : String :=
  match call.purpose with
  | .register req => req.deviceId
  | .renew _ deviceId _ => deviceId

def requestedIp : Option Ipv4Addr :=
  match call.purpose with
  | .register req => if req.ipVariable then none else req.ip
  | .renew _ _ ip => some ip

def request : ServerLeaseAcquireRequest :=
  call.server.leaseAcquireRequest call.networkCode "vnt_device" call.deviceId call.requestedIp
    call.network call.gateway call.leaseDuration false

/-- A grant on its way to the caller. -/
def claim? : Option Claim :=
  match call.waiting, call.answer with
  | true, some (some grant) => some ⟨call.networkCode, call.deviceId, grant.ip, grant.expiresAt⟩
  | _, _ => none

end LeaseCall

/-- What the task that renews a lease does. -/
inductive RenewalTask
  | idle
  | calling
  | ended
  deriving DecidableEq

/-- A session with its lease and with what its task has been started with. -/
structure LeasedSession where
  session : Session
  server : ClusterConfig
  network : Ipv4Net
  gateway : Ipv4Addr
  leaseDuration : Nat
  expiresAt : Nat
  clusterLeaseValid : Bool
  renewal : RenewalTask

def LeasedSession.claim? (x : LeasedSession) : Option Claim :=
  if x.clusterLeaseValid then
    some ⟨x.session.networkCode, x.session.deviceId, x.session.ip, x.expiresAt⟩
  else none

/-- A cluster. -/
structure LeaseCluster where
  authority : ClusterConfig
  /-- The common clock, in seconds. -/
  now : Nat
  /-- The database of the authority. -/
  db : ClusterDb
  calls : HashMap Nat LeaseCall
  sessions : HashMap Nat LeasedSession
  /-- The number of the next call or session. -/
  next : Nat

inductive LeaseClusterOp
  | tick (now : Nat)
  | register (server : ClusterConfig) (networkCode : String) (req : RegRequestMsg)
      (network : Ipv4Net) (gateway : Ipv4Addr) (leaseDuration : Nat)
  | renew (session : Nat)
  | handle (call : Nat)
  | take (call : Nat) (state : NetworkState) (randomId : BitVec 64) (sender : Channel)
      (now : SystemTime)
  | fail (call : Nat)
  | drop (session : Nat)
  /-- A request of a reconciliation, or of a reservation of a WireGuard peer. -/
  | acquire (server : ClusterConfig) (request : ServerLeaseAcquireRequest)
  | release (networkCode peerId : String)
  /-- The other statements leave any local allocations. -/
  | allocations (rows : Table ipAllocations)

namespace LeaseCluster

variable (s : LeaseCluster)

/-- `handle_lease_acquire_request`, and the branch of the authority in `acquire_lease_request`. -/
def handleLeaseAcquireRequest (server : ClusterConfig) (request : ServerLeaseAcquireRequest) :
    Option ClusterLeaseGrant × ClusterDb :=
  if server = s.authority ∨ s.authority.peerClusterCompatible server.auth = true then
    match s.authority.dbLeaseRequest request with
    | none => (none, s.db)
    | some dbRequest =>
      match s.db.acquireClusterLease dbRequest s.now with
      | (.ok grant, db) => (some grant, db)
      | (.error _, db) => (none, db)
  else (none, s.db)

/-- `register` up to the call of `acquire_lease`. -/
def register (server : ClusterConfig) (networkCode : String) (req : RegRequestMsg)
    (network : Ipv4Net) (gateway : Ipv4Addr) (leaseDuration : Nat) : LeaseCluster :=
  { s with
    calls := s.calls.insert s.next
      ⟨server, networkCode, network, gateway, leaseDuration, .register req, none, true⟩
    next := s.next + 1 }

/-- A tick of the interval of a session. -/
def renew (session : Nat) : LeaseCluster :=
  match s.sessions.lookup session with
  | some x =>
    if x.renewal = .idle then
      { s with
        calls := s.calls.insert s.next
          ⟨x.server, x.session.networkCode, x.network, x.gateway, x.leaseDuration,
            .renew session x.session.deviceId x.session.ip, none, true⟩
        sessions := s.sessions.insert session { x with renewal := .calling }
        next := s.next + 1 }
    else s
  | none => s

/-- The request of a call reaches the authority. -/
def handle (c : Nat) : LeaseCluster :=
  match s.calls.lookup c with
  | some call =>
    if call.answer = none then
      let (answer, db) := s.handleLeaseAcquireRequest call.server call.request
      { s with db, calls := s.calls.insert c { call with answer := some answer } }
    else s
  | none => s

/-- The branch of the renewal task for an error. -/
def renewalFailed (session : Nat) : LeaseCluster :=
  match s.sessions.lookup session with
  | some x =>
    { s with
      sessions := s.sessions.insert session <|
        if x.expiresAt ≤ s.now then { x with clusterLeaseValid := false, renewal := .ended }
        else { x with renewal := .idle } }
  | none => s

def returned (c : Nat) (call : LeaseCall) : LeaseCluster :=
  { s with calls := s.calls.insert c { call with waiting := false } }

/-- The call returns with an error: no link, a refusal or a timeout. -/
def giveUp (c : Nat) (call : LeaseCall) : LeaseCluster :=
  match call.purpose with
  | .register _ => s.returned c call
  | .renew session _ _ => (s.returned c call).renewalFailed session

def fail (c : Nat) : LeaseCluster :=
  match s.calls.lookup c with
  | some call => if call.waiting then s.giveUp c call else s
  | none => s

/-- `register` after the grant. -/
def opened (call : LeaseCall) (req : RegRequestMsg) (grant : ClusterLeaseGrant) (state : NetworkState)
    (randomId : BitVec 64) (sender : Channel) (now : SystemTime) : LeaseCluster :=
  let req := { req with ip := some grant.ip, ipVariable := false }
  match state.allocateIpAndGetEntry req randomId sender now with
  | .error _ => s
  | .ok (_, ip, _, _) =>
    { s with
      sessions := s.sessions.insert s.next
        { session := NetworkState.registerSession call.networkCode req ip randomId
          server := call.server
          network := call.network
          gateway := call.gateway
          leaseDuration := call.leaseDuration
          expiresAt := grant.expiresAt
          clusterLeaseValid := true
          renewal := .idle }
      next := s.next + 1 }

/-- The branch of the renewal task for a grant. -/
def renewed (session : Nat) (grant : ClusterLeaseGrant) : LeaseCluster :=
  match s.sessions.lookup session with
  | some x =>
    { s with
      sessions := s.sessions.insert session
        { x with expiresAt := grant.expiresAt, clusterLeaseValid := true, renewal := .idle } }
  | none => s

/-- The answer reaches the caller. A registration goes on with the state of the network on its
server, whatever that is. -/
def take (c : Nat) (state : NetworkState) (randomId : BitVec 64) (sender : Channel)
    (now : SystemTime) : LeaseCluster :=
  match s.calls.lookup c with
  | some call =>
    if call.waiting then
      match call.answer with
      | none => s
      | some none => s.giveUp c call
      | some (some grant) =>
        match call.purpose with
        | .register req => (s.opened call req grant state randomId sender now).returned c call
        | .renew session _ _ => (s.renewed session grant).returned c call
    else s
  | none => s

def apply : LeaseClusterOp → LeaseCluster
  | .tick now => { s with now := max s.now now }
  | .register server networkCode req network gateway leaseDuration =>
    s.register server networkCode req network gateway leaseDuration
  | .renew session => s.renew session
  | .handle c => s.handle c
  | .take c state randomId sender now => s.take c state randomId sender now
  | .fail c => s.fail c
  | .drop session => { s with sessions := s.sessions.erase session }
  | .acquire server request => { s with db := (s.handleLeaseAcquireRequest server request).2 }
  | .release networkCode peerId =>
    { s with db := (s.db.releaseClusterLease networkCode OwnerType.wireguardPeer.text peerId
        s.authority.serverId s.now).2 }
  | .allocations rows => { s with db := { s.db with allocations := rows } }

/-- A cluster that starts, with a migrated database of the authority. -/
structure Fresh : Prop where
  authority : s.authority.isLeaseAuthority = true
  leases : s.db.leases = Table.empty
  calls : s.calls = ∅
  sessions : s.sessions = ∅

def sys : Sys LeaseCluster LeaseClusterOp := .ofFun Fresh apply

/-- No two devices have sessions with a valid lease at one address. -/
def Exclusive : Prop :=
  ∀ i x j y, s.sessions.lookup i = some x → s.sessions.lookup j = some y →
    x.clusterLeaseValid = true → y.clusterLeaseValid = true →
    x.session.networkCode = y.session.networkCode → x.session.ip = y.session.ip →
    x.session.deviceId = y.session.deviceId

/-- The sessions that report a valid lease, and the grants on their way. -/
def claims : List Claim :=
  (HashMap.values s.sessions).filterMap (·.claim?) ++ (HashMap.values s.calls).filterMap (·.claim?)

/-! ## The condition -/

/-- A request of the device of a claim in force asks for no other address, and for a lease that does
not end earlier. -/
def Confirms (request : ServerLeaseAcquireRequest) : Prop :=
  ∀ x ∈ s.claims, request.networkCode = x.networkCode → request.ownerType = "vnt_device" →
    request.ownerId = x.deviceId → s.now < x.expiresAt →
    (request.hasRequestedIp = true → request.requestedIp = x.ip) ∧
      (request.staticReservation = true ∨ x.expiresAt ≤ s.now + max request.leaseDurationSecs 10)

instance (request : ServerLeaseAcquireRequest) : Decidable (s.Confirms request) :=
  inferInstanceAs (Decidable (∀ x ∈ s.claims, _))

/-- A claim of another device has not run out, if the request could get its address. -/
def Spares (request : ServerLeaseAcquireRequest) : Prop :=
  ∀ x ∈ s.claims, request.networkCode = x.networkCode → request.ownerId ≠ x.deviceId →
    (request.hasRequestedIp = true → request.requestedIp = x.ip) → s.now < x.expiresAt

instance (request : ServerLeaseAcquireRequest) : Decidable (s.Spares request) :=
  inferInstanceAs (Decidable (∀ x ∈ s.claims, _))

/-- The authority handles no request that could take the address of a claim whose lease has run out,
and none of the owner of a claim in force that moves it or shortens it. -/
def Attended : LeaseClusterOp → Prop
  | .handle c => ∀ call ∈ s.calls.lookup c, call.answer = none →
      s.Confirms call.request ∧ (call.waiting = true → s.Spares call.request)
  | .acquire _ request => s.Confirms request
  | _ => True

instance : ∀ op, Decidable (s.Attended op)
  | .handle c => inferInstanceAs (Decidable (∀ call ∈ s.calls.lookup c, call.answer = none →
      s.Confirms call.request ∧ (call.waiting = true → s.Spares call.request)))
  | .acquire _ request => inferInstanceAs (Decidable (s.Confirms request))
  | .tick .. | .register .. | .renew .. | .take .. | .fail .. | .drop .. | .release ..
  | .allocations .. => inferInstanceAs (Decidable True)

/-! ## The invariant -/

variable {s}

variable {x : Claim} {c i : Nat} {call : LeaseCall} {y : LeasedSession} {grant : ClusterLeaseGrant}
  {r : ClusterLeaseRequest} {request : ServerLeaseAcquireRequest}

theorem mem_claims : x ∈ s.claims ↔ (∃ i y, s.sessions.lookup i = some y ∧ y.claim? = some x) ∨
      ∃ c call, s.calls.lookup c = some call ∧ call.claim? = some x := by
  simp only [claims, List.mem_append, List.mem_filterMap, mem_values]
  exact or_congr ⟨fun ⟨y, ⟨i, hi⟩, hy⟩ => ⟨i, y, hi, hy⟩, fun ⟨i, y, hi, hy⟩ => ⟨y, ⟨i, hi⟩, hy⟩⟩
    ⟨fun ⟨y, ⟨i, hi⟩, hy⟩ => ⟨i, y, hi, hy⟩, fun ⟨i, y, hi, hy⟩ => ⟨y, ⟨i, hi⟩, hy⟩⟩

theorem claims_insertCall (h : x ∈ { s with calls := s.calls.insert c call }.claims) :
    x ∈ s.claims ∨ call.claim? = some x := by
  rcases mem_claims.mp h with hs | ⟨k, y, hk, hy⟩
  · exact .inl (mem_claims.mpr (.inl hs))
  · rcases lookup_insert_cases hk with ⟨-, rfl⟩ | ⟨-, hk⟩
    · exact .inr hy
    · exact .inl (mem_claims.mpr (.inr ⟨k, y, hk, hy⟩))

theorem claims_insertSession (h : x ∈ { s with sessions := s.sessions.insert i y }.claims) :
    x ∈ s.claims ∨ y.claim? = some x := by
  rcases mem_claims.mp h with ⟨k, z, hk, hz⟩ | hc
  · rcases lookup_insert_cases hk with ⟨-, rfl⟩ | ⟨-, hk⟩
    · exact .inr hz
    · exact .inl (mem_claims.mpr (.inl ⟨k, z, hk, hz⟩))
  · exact .inl (mem_claims.mpr (.inr hc))

variable (s) in
/-- A call belongs to its session, if it renews one, and a granted address is the requested one. -/
structure Linked (call : LeaseCall) : Prop where
  granted : ∀ g ip, call.answer = some (some g) → call.requestedIp = some ip → g.ip = ip
  renews : ∀ i d ip, call.purpose = .renew i d ip → i < s.next ∧
    ∀ x, s.sessions.lookup i = some x →
      x.session.networkCode = call.networkCode ∧ x.session.deviceId = d ∧ x.session.ip = ip

variable (s) in
structure Inv : Prop where
  guarded : Guarded s.db s.now s.claims
  numbered : ∀ i x, s.sessions.lookup i = some x → i < s.next
  linked : ∀ c call, s.calls.lookup c = some call → s.Linked call

theorem Inv.fresh (h : s.Fresh) : Inv s := by
  have hno : s.claims = [] := by
    rw [claims, h.calls, h.sessions]
    rfl
  have hrows : s.db.leases.rows = [] := by rw [h.leases]; rfl
  refine ⟨⟨⟨?_, ?_⟩, ?_, ?_, ?_⟩, fun i x hx => ?_, fun c call hc => ?_⟩
  · simp [hrows]
  · simp [hrows]
  · simp [hno]
  · simp [hno]
  · simp [hno]
  · rw [h.sessions] at hx
    cases hx
  · rw [h.calls] at hc
    cases hc

section

variable (h : Inv s)

include h

theorem Inv.linked_insert (hl : s.Linked call) (c : Nat) :
    ∀ k other, (s.calls.insert c call).lookup k = some other → s.Linked other := by
  intro k other hk
  rcases lookup_insert_cases hk with ⟨-, rfl⟩ | ⟨-, hk⟩
  · exact hl
  · exact h.linked k other hk

theorem Inv.insertCall (hl : s.Linked call)
    (hc : ∀ x, call.claim? = some x → x ∈ s.claims) (c : Nat) :
    Inv { s with calls := s.calls.insert c call } where
  guarded := h.guarded.mono (Nat.le_refl _) fun x hx => (claims_insertCall hx).elim id (hc x)
  numbered := h.numbered
  linked k other hk :=
    have := h.linked_insert hl c k other hk
    ⟨this.granted, this.renews⟩

/-- A session changes but for its identity. -/
theorem Inv.updateSession {x : LeasedSession}
    (hi : s.sessions.lookup i = some x) (he : y.session = x.session)
    (hc : ∀ z, y.claim? = some z → z ∈ s.claims) :
    Inv { s with sessions := s.sessions.insert i y } where
  guarded := h.guarded.mono (Nat.le_refl _) fun z hz => (claims_insertSession hz).elim id (hc z)
  numbered k z hz := by
    rw [lookup_insert_if] at hz
    split at hz
    · next hk => exact hk ▸ h.numbered i x hi
    · exact h.numbered k z hz
  linked c call hcall := by
    have hl := h.linked c call hcall
    refine ⟨hl.granted, fun k d ip hp => ⟨(hl.renews k d ip hp).1, fun z hz => ?_⟩⟩
    rcases lookup_insert_cases hz with ⟨hk, rfl⟩ | ⟨-, hz⟩
    · rw [he]
      exact (hl.renews k d ip hp).2 x (hk ▸ hi)
    · exact (hl.renews k d ip hp).2 z hz

/-- A new session has a number that no call knows. -/
theorem Inv.newSession (hc : ∀ z, y.claim? = some z → z ∈ s.claims) :
    Inv { s with sessions := s.sessions.insert s.next y, next := s.next + 1 } where
  guarded := h.guarded.mono (Nat.le_refl _) fun z hz =>
    (claims_insertSession (s := s) hz).elim id (hc z)
  numbered k z hz := by
    rw [lookup_insert_if] at hz
    split at hz
    · next hk => exact hk ▸ Nat.lt_succ_self _
    · exact Nat.lt_succ_of_lt (h.numbered k z hz)
  linked c call hcall := by
    have hl := h.linked c call hcall
    refine ⟨hl.granted, fun k d ip hp => ?_⟩
    have hr := hl.renews k d ip hp
    refine ⟨Nat.lt_succ_of_lt hr.1, fun z hz => ?_⟩
    rw [lookup_insert_if, if_neg (Nat.ne_of_lt hr.1)] at hz
    exact hr.2 z hz

theorem Inv.tick (now : Nat) : Inv { s with now := max s.now now } :=
  ⟨h.guarded.mono (Nat.le_max_left _ _) fun _ => id, h.numbered,
    fun c call hc => ⟨(h.linked c call hc).granted, (h.linked c call hc).renews⟩⟩

theorem Inv.next : Inv { s with next := s.next + 1 } where
  guarded := h.guarded
  numbered i x hx := Nat.lt_succ_of_lt (h.numbered i x hx)
  linked c call hc :=
    have hl := h.linked c call hc
    ⟨hl.granted, fun i d ip hp => ⟨Nat.lt_succ_of_lt (hl.renews i d ip hp).1, (hl.renews i d ip hp).2⟩⟩

theorem Inv.drop (i : Nat) : Inv { s with sessions := s.sessions.erase i } where
  guarded := by
    refine h.guarded.mono (Nat.le_refl _) fun x hx => ?_
    rcases mem_claims.mp hx with ⟨k, y, hk, hy⟩ | hc
    · obtain ⟨-, hk⟩ := lookup_erase_some.mp hk
      exact mem_claims.mpr (.inl ⟨k, y, hk, hy⟩)
    · exact mem_claims.mpr (.inr hc)
  numbered k z hz := by
    obtain ⟨-, hz⟩ := lookup_erase_some.mp hz
    exact h.numbered k z hz
  linked c call hc := by
    have hl := h.linked c call hc
    refine ⟨hl.granted, fun k d ip hp => ⟨(hl.renews k d ip hp).1, fun z hz => ?_⟩⟩
    obtain ⟨-, hz⟩ := lookup_erase_some.mp hz
    exact (hl.renews k d ip hp).2 z hz

theorem Inv.register (server : ClusterConfig) (networkCode : String)
    (req : RegRequestMsg) (network : Ipv4Net) (gateway : Ipv4Addr) (leaseDuration : Nat) :
    Inv (s.register server networkCode req network gateway leaseDuration) :=
  (h.insertCall ⟨fun _ _ hg => (by cases hg), fun _ _ _ hp => (by cases hp)⟩
    (fun _ hx => (by cases hx)) s.next).next

end

/-- What a valid session claims. -/
theorem mem_claims_of_session {x : LeasedSession} (hi : s.sessions.lookup i = some x)
    {z : Claim} (hz : x.claim? = some z) : z ∈ s.claims :=
  mem_claims.mpr (.inl ⟨i, x, hi, hz⟩)

theorem Inv.renew (h : Inv s) (i : Nat) : Inv (s.renew i) := by
  unfold LeaseCluster.renew
  split
  · next x hx =>
    split
    · have hs : Inv { s with sessions := s.sessions.insert i { x with renewal := .calling } } :=
        h.updateSession hx rfl fun z hz => mem_claims_of_session hx hz
      refine hs.next.insertCall ⟨fun _ _ hg => (by cases hg), fun k d ip hp => ?_⟩
        (fun _ hz => (by cases hz)) s.next
      cases hp
      refine ⟨Nat.lt_succ_of_lt (h.numbered i x hx), fun z hz => ?_⟩
      rw [lookup_insert_if, if_pos rfl] at hz
      cases hz
      exact ⟨rfl, rfl, rfl⟩
    · exact h
  · exact h

theorem Inv.renewalFailed (h : Inv s) (i : Nat) : Inv (s.renewalFailed i) := by
  unfold LeaseCluster.renewalFailed
  split
  · next x hx =>
    refine h.updateSession hx (by split <;> rfl) fun z hz => ?_
    split at hz
    · cases hz
    · exact mem_claims_of_session hx hz
  · exact h

/-- The caller of a call no longer waits. -/
theorem Inv.returned (h : Inv s) (hc : s.calls.lookup c = some call) : Inv (s.returned c call) := by
  have hl : s.Linked { call with waiting := false } :=
    ⟨(h.linked c call hc).granted, (h.linked c call hc).renews⟩
  exact h.insertCall hl (fun _ hz => (by cases hz)) c

theorem Inv.giveUp (h : Inv s) (hc : s.calls.lookup c = some call) : Inv (s.giveUp c call) := by
  unfold LeaseCluster.giveUp
  split
  · exact h.returned hc
  · exact (h.returned hc).renewalFailed _

theorem Inv.fail (h : Inv s) (c : Nat) : Inv (s.fail c) := by
  unfold LeaseCluster.fail
  split
  · next call hc =>
    split
    · exact h.giveUp hc
    · exact h
  · exact h

/-- A session that a registration opens claims what was granted. -/
theorem Inv.opened (h : Inv s) {req : RegRequestMsg}
    (hg : ⟨call.networkCode, req.deviceId, grant.ip, grant.expiresAt⟩ ∈ s.claims)
    (state : NetworkState) (randomId : BitVec 64) (sender : Channel) (now : SystemTime) :
    Inv (s.opened call req grant state randomId sender now) := by
  unfold LeaseCluster.opened
  dsimp only
  split
  · exact h
  · next hok =>
    refine h.newSession fun z hz => ?_
    cases hz
    obtain ⟨ha, -⟩ := NetworkState.allocateIpAndGetEntry_ok hok
    rw [← ha.ip_eq rfl rfl] at hg
    exact hg

theorem renewed_calls : (s.renewed i grant).calls = s.calls := by
  unfold LeaseCluster.renewed
  split <;> rfl

theorem Inv.renewed (h : Inv s) (hc : s.calls.lookup c = some call)
    {d : String} {ip : Ipv4Addr} (hp : call.purpose = .renew i d ip)
    (ha : call.answer = some (some grant))
    (hg : ⟨call.networkCode, call.deviceId, grant.ip, grant.expiresAt⟩ ∈ s.claims) :
    Inv (s.renewed i grant) := by
  unfold LeaseCluster.renewed
  split
  · next x hx =>
    refine h.updateSession hx rfl fun z hz => ?_
    have hl := h.linked c call hc
    obtain ⟨hn, hd, hip⟩ := (hl.renews i d ip hp).2 x hx
    have hgip : grant.ip = ip := hl.granted grant ip ha (by simp only [LeaseCall.requestedIp, hp])
    have hdev : call.deviceId = d := by simp only [LeaseCall.deviceId, hp]
    cases hz
    rw [hdev, hgip] at hg
    rw [hn, hd, hip]
    exact hg
  · exact h

theorem Inv.take (h : Inv s) (c : Nat) (state : NetworkState) (randomId : BitVec 64)
    (sender : Channel) (now : SystemTime) : Inv (s.take c state randomId sender now) := by
  unfold LeaseCluster.take
  split
  · next call hc =>
    split
    · next hw =>
      split
      · exact h
      · exact h.giveUp hc
      · next grant ha =>
        have hg : ⟨call.networkCode, call.deviceId, grant.ip, grant.expiresAt⟩ ∈ s.claims :=
          mem_claims.mpr (.inr ⟨c, call, hc, by simp only [LeaseCall.claim?, hw, ha]⟩)
        split
        · next req hp =>
          have hd : call.deviceId = req.deviceId := by simp only [LeaseCall.deviceId, hp]
          exact (h.opened (hd ▸ hg) state randomId sender now).returned
            (by simp only [LeaseCluster.opened]; split <;> exact hc)
        · next i d ip hp =>
          exact (h.renewed hc hp ha hg).returned (by rw [renewed_calls]; exact hc)
    · exact h
  · exact h

/-! ## The authority -/

/-- A request is refused, or it is granted by the transaction. -/
theorem handleLeaseAcquireRequest_cases (server : ClusterConfig)
    (request : ServerLeaseAcquireRequest) :
    s.handleLeaseAcquireRequest server request = (none, s.db) ∨
    ∃ r grant db', s.authority.dbLeaseRequest request = some r ∧
      s.db.acquire r s.now = .ok (grant, db') ∧
      s.handleLeaseAcquireRequest server request = (some grant, db') := by
  unfold handleLeaseAcquireRequest
  split
  · split
    · exact .inl rfl
    · next r hr =>
      split
      · next grant db' hok => exact .inr ⟨r, grant, db', hr, transaction_ok.mp hok, rfl⟩
      · next e db' he => exact .inl (by rw [(transaction_error.mp he).2])
  · exact .inl rfl

theorem Confirms.db (h : s.Confirms request) (hr : s.authority.dbLeaseRequest request = some r) :
    ∀ x ∈ s.claims, ClusterDb.FromOwner r x → s.now < x.expiresAt →
      ClusterDb.Confirms r s.now x := by
  intro x hx ⟨hn, ht, hd⟩ hlt
  obtain ⟨hrn, hrt, hrd, hri, hrl, hrs⟩ := ClusterConfig.dbLeaseRequest_eq hr
  obtain ⟨hip, hexp⟩ := h x hx (hrn ▸ hn) (hrt ▸ ht) (hrd ▸ hd) hlt
  refine ⟨?_, by rwa [hrl, hrs]⟩
  rw [hri]
  split
  · next hreq => exact .inr (congrArg some (hip hreq))
  · exact .inl rfl

theorem Spares.db (h : s.Spares request) (hr : s.authority.dbLeaseRequest request = some r) :
    ∀ x ∈ s.claims, r.networkCode = x.networkCode → r.ownerId ≠ x.deviceId →
      (r.requestedIp = none ∨ r.requestedIp = some x.ip) → s.now < x.expiresAt := by
  intro x hx hn hd hip
  obtain ⟨hrn, hrt, hrd, hri, -⟩ := ClusterConfig.dbLeaseRequest_eq hr
  refine h x hx (hrn ▸ hn) (hrd ▸ hd) fun hreq => ?_
  rw [hri, if_pos hreq] at hip
  exact Option.some.inj (hip.resolve_left nofun)

theorem Inv.acquire (h : Inv s) (server : ClusterConfig) (hs : s.Confirms request) :
    Inv { s with db := (s.handleLeaseAcquireRequest server request).2 } := by
  refine ⟨?_, h.numbered, fun c call hc => ⟨(h.linked c call hc).granted, (h.linked c call hc).renews⟩⟩
  rcases s.handleLeaseAcquireRequest_cases server request with he | ⟨r, grant, db', hr, hok, he⟩
  · rw [he]
    exact h.guarded
  · rw [he]
    exact h.guarded.acquire hok (hs.db hr)

/-- The grant of a call, if it still has a caller, is a new claim. -/
theorem Inv.granted (h : Inv s) (hc : s.calls.lookup c = some call)
    (hconf : s.Confirms call.request) (hspare : call.waiting = true → s.Spares call.request)
    (hr : s.authority.dbLeaseRequest call.request = some r)
    {db' : ClusterDb} (hok : s.db.acquire r s.now = .ok (grant, db')) :
    Inv { s with db := db', calls := s.calls.insert c { call with answer := some (some grant) } } := by
  obtain ⟨hrn, hrt, hrd, hri, -⟩ := ClusterConfig.dbLeaseRequest_eq hr
  have hl : s.Linked { call with answer := some (some grant) } := by
    refine ⟨fun g ip hg hip => ?_, (h.linked c call hc).renews⟩
    cases hg
    have hreq : call.requestedIp = some ip := hip
    refine ClusterDb.grant_ip_eq hok ?_
    rw [hri]
    simp [LeaseCall.request, ClusterConfig.leaseAcquireRequest, hreq]
  refine ⟨?_, h.numbered, fun k other hk =>
    have := h.linked_insert hl c k other hk
    ⟨this.granted, this.renews⟩⟩
  cases hw : call.waiting with
  | true =>
    refine (h.guarded.cons_grant hok hrt (hconf.db hr) ((hspare hw).db hr)).mono (Nat.le_refl _)
      fun x hx => ?_
    rcases claims_insertCall (s := s) hx with hx | hx
    · exact List.mem_cons_of_mem _ hx
    · cases hx
      rw [hrn, hrd]
      exact List.mem_cons_self
  | false =>
    refine (h.guarded.acquire hok (hconf.db hr)).mono (Nat.le_refl _) fun x hx => ?_
    rcases claims_insertCall (s := s) hx with hx | hx
    · exact hx
    · simp [LeaseCall.claim?] at hx

theorem Inv.handle (h : Inv s) (hs : s.Attended (.handle c)) : Inv (s.handle c) := by
  unfold LeaseCluster.handle
  split
  · next call hc =>
    split
    · next hun =>
      obtain ⟨hconf, hspare⟩ := hs call hc hun
      rcases s.handleLeaseAcquireRequest_cases call.server call.request with
        he | ⟨r, grant, db', hr, hok, he⟩
      · rw [he]
        have hl : s.Linked { call with answer := some none } :=
          ⟨fun _ _ hg => (by cases hg), (h.linked c call hc).renews⟩
        refine h.insertCall hl (fun z hz => ?_) c
        cases hw : call.waiting <;> simp [LeaseCall.claim?, hw] at hz
      · rw [he]
        exact h.granted hc hconf hspare hr hok
    · exact h
  · exact h

theorem Inv.release (h : Inv s) (networkCode peerId : String) :
    Inv { s with db := (s.db.releaseClusterLease networkCode wireguardPeer.text peerId
      s.authority.serverId s.now).2 } := by
  refine ⟨?_, h.numbered, fun c call hc => ⟨(h.linked c call hc).granted, (h.linked c call hc).renews⟩⟩
  cases hr : s.db.release networkCode wireguardPeer.text peerId s.authority.serverId
      s.now with
  | ok r =>
    rw [show s.db.releaseClusterLease networkCode wireguardPeer.text peerId
      s.authority.serverId s.now = (.ok r.1, r.2) from transaction_ok.mpr hr]
    exact h.guarded.release hr
  | error e =>
    rw [show s.db.releaseClusterLease networkCode wireguardPeer.text peerId
      s.authority.serverId s.now = (.error e, s.db) from transaction_error.mpr ⟨hr, rfl⟩]
    exact h.guarded

theorem Inv.apply (h : Inv s) {op : LeaseClusterOp} (hs : s.Attended op) : Inv (s.apply op) := by
  cases op with
  | tick now => exact h.tick now
  | register server networkCode req network gateway leaseDuration =>
    exact h.register server networkCode req network gateway leaseDuration
  | renew i => exact h.renew i
  | handle c => exact h.handle hs
  | take c state randomId sender now => exact h.take c state randomId sender now
  | fail c => exact h.fail c
  | drop i => exact h.drop i
  | acquire server request => exact h.acquire server hs
  | release networkCode peerId => exact h.release networkCode peerId
  | allocations rows =>
    exact ⟨h.guarded.allocations rows, h.numbered,
      fun c call hc => ⟨(h.linked c call hc).granted, (h.linked c call hc).renews⟩⟩

theorem inv_of_attended (h : sys.ReachWith Attended s) : Inv s := by
  exact h.invariant_of (fun _ hf => Inv.fresh hf) fun _ _ hinv hs => hinv.apply hs

/-- **Exclusive leases.** In every run in which the authority handles no request that could get the
address of a claim of another device that has run out, and none of the device of a claim in force
that asks for another address or a shorter lease, no two devices have sessions with a valid lease
at one address. -/
theorem exclusive_of_attended (h : sys.ReachWith Attended s) : s.Exclusive := by
  intro i x j y hx hy hvx hvy hn hip
  have hcx := mem_claims_of_session hx (if_pos hvx)
  have hcy := mem_claims_of_session hy (if_pos hvy)
  exact (inv_of_attended h).guarded.apart _ hcx _ hcy hn hip

/-! ## Three servers -/

/-- The authority at start, at second 100. -/
def start : LeaseCluster where
  authority := ⟨"a", "a", "digest"⟩
  now := 100
  db := ⟨Table.empty, ⟨"", 0, 0⟩, Table.empty⟩
  calls := ∅
  sessions := ∅
  next := 0

/-- A device registers for any address of the default network, with a lease of ten seconds. -/
def registers (server deviceId : String) : LeaseClusterOp :=
  .register ⟨server, "a", "digest"⟩ "home" (anyIpReq deviceId none)
    defaultNet (homeIp 1) 10000000000

/-- A server without devices in the network. -/
def emptyState : NetworkState :=
  NetworkState.newFromDb "home" defaultNet oneDay none none 0

/-- The laptop registers at server `b`. -/
def laptopRegisters : List LeaseClusterOp :=
  [registers "b" "laptop", .handle 0, .take 0 emptyState 7 0 0]

/-- The laptop's lease is renewed in time, and the tablet registers at server `c`. -/
def renewedInTime : List LeaseClusterOp :=
  laptopRegisters ++ [.tick 105, .renew 1, .handle 2, .take 2 emptyState 7 0 0, .tick 112,
    registers "c" "tablet", .handle 3, .take 3 emptyState 9 1 0]

theorem exclusive_renewed_in_time :
    (renewedInTime.foldl apply start).claims =
        [⟨"home", "tablet", homeIp 3, 122⟩,
          ⟨"home", "laptop", homeIp 2, 115⟩] ∧
      (renewedInTime.foldl apply start).Exclusive :=
  ⟨by decide, exclusive_of_attended (Sys.ReachWith.foldl (Sys.ReachWith.init (S := sys)
    (C := Attended) ⟨by decide, rfl, rfl, rfl⟩) (by decide))⟩

/-- The link of server `b` is lost. A renewal of the laptop times out before the lease has run out;
the next one is under way when the tablet registers at server `c`. -/
def linkLost : List LeaseClusterOp :=
  laptopRegisters ++ [.tick 103, .renew 1, .tick 108, .fail 2, .tick 110, .renew 1,
    registers "c" "tablet", .handle 4, .take 4 emptyState 9 1 0]

/-- Both devices have sessions with a valid lease at `10.26.0.2`. -/
theorem lapsed_session_overtaken :
    sys.Reach (linkLost.foldl apply start) ∧
      (linkLost.foldl apply start).claims =
        [⟨"home", "tablet", homeIp 2, 120⟩,
          ⟨"home", "laptop", homeIp 2, 110⟩] ∧
      ¬ (linkLost.foldl apply start).Exclusive := by
  refine ⟨Sys.Reach.foldl (Sys.Reach.init (S := sys) ⟨by decide, rfl, rfl, rfl⟩) _, by decide,
    fun h => ?_⟩
  have := h 5 _ 1 _ rfl rfl (by decide) (by decide) (by decide) (by decide)
  exact absurd this (by decide)

end LeaseCluster

end Vntc
