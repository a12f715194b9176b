import Vntc.Server.Lease.Index

/-!
# WireGuard reservations

A WireGuard peer gets an address in three steps: the lease state blocks the address (`prepare`),
the database stores it, and the lease state gives up the previous address (`commit`) or the new
one (`rollback`). The lock of the lease state is free during the database write, so registrations
of devices run in between; `wireguard_ip_update_lock` is held from the first step to the last, so
at most one WireGuard operation of a network is in flight (`ReserveState.pending`).

* `Settled home`: the invariant. `home` is what the peer map is for, one address for each peer; the
  peer map is `home` and the reservation in flight.
* The creation of a peer commits without a previous address. It can do so because the database
  refuses a second row for a peer, and every address in memory has its row (`Settled.rows`).
* Every address of a peer is usable, except in `255.255.255.255/32`, where the search wraps and leaves
  the network (`Settled.usable`, `reservations_not_blocked`).
-/

namespace Vntc

open Lib NetworkStateInner HashMap

/-- Why a WireGuard operation fails. -/
inductive WireGuardError
  | blankPeer
  | outsideNet (net : Ipv4Net)
  | gateway
  | reserve (e : ReserveError)
  | exhausted
  | persist
  deriving DecidableEq

namespace NetworkStateInner

variable (net : Ipv4Net) (gateway : Ipv4Addr) (s : NetworkStateInner)

/-- `prepare_wireguard_peer_ip_reservation`, with its error as one of the caller. -/
def prepareFor (peerId : String) (ip : Ipv4Addr) :
    Except WireGuardError (NetworkStateInner × Option Ipv4Addr) :=
  match s.prepareWireguardPeerIpReservation peerId ip with
  | .ok r => .ok r
  | .error e => .error (.reserve e)

/-- `reserve_wireguard_peer_ip_with` up to the database write. -/
def startReserve (peerId : String) (ip : Ipv4Addr) :
    Except WireGuardError (NetworkStateInner × Option Ipv4Addr) :=
  if isBlank peerId then .error .blankPeer
  else if net.contains ip = false then .error (.outsideNet net)
  else if ip = gateway then .error .gateway
  else s.prepareFor peerId ip

/-- `create_wireguard_peer_with_automatic_ip` up to the database write: the search and the block
are one step. -/
def startCreateAutomatic (peerId : String) :
    Except WireGuardError (NetworkStateInner × Ipv4Addr × Option Ipv4Addr) :=
  match s.findAvailableIp net gateway with
  | none => .error .exhausted
  | some ip =>
    match s.prepareFor peerId ip with
    | .ok (s', previous) => .ok (s', ip, previous)
    | .error e => .error e

/-- The step after the database write. -/
def finishReservation (peerId : String) (ip : Ipv4Addr) (previousIp : Option Ipv4Addr)
    (persisted : Bool) : NetworkStateInner :=
  if persisted then s.commitWireguardPeerIpReservation peerId ip previousIp
  else s.rollbackWireguardPeerIpReservation peerId ip previousIp

/-- `reserve_wireguard_peer_ip_with`, if nothing runs during the database write; the result says
whether the peer had another address. -/
def reserveWireguardPeerIpWith (peerId : String) (ip : Ipv4Addr) (persist : Bool) :
    NetworkStateInner × Except WireGuardError Bool :=
  match s.startReserve net gateway peerId ip with
  | .error e => (s, .error e)
  | .ok (s1, previous) =>
    (s1.finishReservation peerId ip previous persist,
      if persist then .ok (previous.isSome && previous != some ip) else .error .persist)

/-- `create_wireguard_peer_with_automatic_ip`, if nothing runs during the database write. -/
def createWireguardPeerWithAutomaticIp (peerId : String) (persist : Bool) :
    NetworkStateInner × Except WireGuardError Ipv4Addr :=
  match s.startCreateAutomatic net gateway peerId with
  | .error e => (s, .error e)
  | .ok (s1, ip, _) =>
    (s1.finishReservation peerId ip none persist, if persist then .ok ip else .error .persist)

end NetworkStateInner

/-! ## Interleavings -/

/-- The operations that give a peer an address. -/
inductive ReserveKind
  | reserve
  | createAutomatic
  | createWithIp
  deriving DecidableEq

/-- The previous address that the operation passes to `commit` and `rollback`. -/
def ReserveKind.previousArg : ReserveKind → Option Ipv4Addr → Option Ipv4Addr
  | .createAutomatic, _ => none
  | _, previous => previous

/-- The operations that take a peer's address. -/
inductive ReleaseKind
  | release
  | deletePeer
  deriving DecidableEq

/-- A WireGuard operation in flight; `persisted` is the outcome of its database write. -/
inductive Pending
  | reserving (kind : ReserveKind) (peerId : String) (ip : Ipv4Addr)
      (previousIp : Option Ipv4Addr) (persisted : Option Bool)
  | releasing (kind : ReleaseKind) (peerId : String) (persisted : Option Bool)
  deriving DecidableEq

/-- The leases, and a call in flight. -/
structure ReserveState where
  lease : NetworkStateInner
  /-- The WireGuard rows of `ip_allocations`, by peer. -/
  rows : HashMap String Ipv4Addr
  /-- The holder of `wireguard_ip_update_lock`. -/
  pending : Option Pending

/-- A method for devices, or a part of a call. -/
inductive ReserveOp
  /-- A method for devices; it does not take the lock. -/
  | vnt (op : LeaseOp)
  | reserve (peerId : String) (ip : Ipv4Addr)
  | createAutomatic (peerId : String)
  /-- The address is a cluster grant. -/
  | createWithIp (peerId : String) (ip : Ipv4Addr)
  | release (kind : ReleaseKind) (peerId : String)
  /-- The database answers. -/
  | persist (ok : Bool)
  | finish

namespace ReserveState

variable (net : Ipv4Net) (gateway : Ipv4Addr)

-- `pool`: there is a database; without one a reservation is kept in memory only.
variable (pool : Bool)

/-- The database may store the address: a peer is created only if it has no row. -/
def canPersist (st : ReserveState) (kind : ReserveKind) (peerId : String) : Bool :=
  match kind with
  | .reserve => true
  | _ => !isBlank peerId && pool && (st.rows.lookup peerId).isNone

/-- Start a reservation, if the lock is free and the address could be blocked. -/
def start (st : ReserveState) (kind : ReserveKind) (peerId : String)
    (r : Except WireGuardError (NetworkStateInner × Ipv4Addr × Option Ipv4Addr)) : ReserveState :=
  match st.pending, r with
  | none, .ok (lease, ip, previous) =>
    { st with lease := lease, pending := some (.reserving kind peerId ip previous none) }
  | _, _ => st

def step (st : ReserveState) : ReserveOp → ReserveState
  | .vnt op => if op.isVnt then { st with lease := st.lease.applyOp net gateway op } else st
  | .reserve peerId ip =>
    st.start .reserve peerId ((st.lease.startReserve net gateway peerId ip).map fun r => (r.1, ip, r.2))
  | .createAutomatic peerId =>
    st.start .createAutomatic peerId (st.lease.startCreateAutomatic net gateway peerId)
  | .createWithIp peerId ip =>
    -- The cluster grants hosts of the network only.
    if net.IsHost ip ∧ ip ≠ gateway then
      st.start .createWithIp peerId ((st.lease.prepareFor peerId ip).map fun r => (r.1, ip, r.2))
    else st
  | .release kind peerId =>
    match st.pending with
    | none =>
      if isBlank peerId then st else { st with pending := some (.releasing kind peerId none) }
    | some _ => st
  | .persist ok =>
    match st.pending with
    | some (.reserving kind peerId ip previous none) =>
      let ok' := ok && st.canPersist pool kind peerId
      { st with
        rows := if ok' && pool then st.rows.insert peerId ip else st.rows
        pending := some (.reserving kind peerId ip previous (some ok')) }
    | some (.releasing kind peerId none) =>
      let ok' := ok && (pool || kind == .release)
      { st with
        rows := if ok' && pool then st.rows.erase peerId else st.rows
        pending := some (.releasing kind peerId (some ok')) }
    | _ => st
  | .finish =>
    match st.pending with
    | some (.reserving kind peerId ip previous (some ok)) =>
      { st with
        lease := st.lease.finishReservation peerId ip (kind.previousArg previous) ok
        pending := none }
    | some (.releasing _ peerId (some ok)) =>
      { st with
        lease := if ok then (st.lease.releaseWireguardPeerIp peerId).1 else st.lease
        pending := none }
    | _ => st

/-- A load with distinct devices and one row for each peer, in which no address is a device's and
a peer's. -/
def Loaded (st : ReserveState) : Prop :=
  ∃ devices allocations now,
    DistinctDevices (devices.getD []) ∧
    ((allocations.getD []).map WireGuardPeerIpAllocation.peerId).Nodup ∧
    (∀ a ∈ allocations.getD [], (st.rows.lookup a.peerId).isSome) ∧
    st.lease =
      NetworkStateInner.buildInitialInnerState net gateway devices allocations now ∧
    (∀ ip, st.lease.deviceIpMap.lookup ip = none ∨ st.lease.wireguardPeerIpMap.lookup ip = none) ∧
    st.pending = none

/-- The interleavings of WireGuard operations with the methods for devices. -/
def reserveSys : Sys ReserveState ReserveOp :=
  Sys.ofFun (Loaded net gateway) (step net gateway pool)

/-! ## The invariant -/

/-- A reservation of `a` for `p` is in flight. -/
def InFlight (st : ReserveState) (p : String) (a : Ipv4Addr) : Prop :=
  ∃ kind previous persisted, st.pending = some (.reserving kind p a previous persisted)

/-- What is known about the operation in flight. -/
def PendingOk (home : String → Option Ipv4Addr) (st : ReserveState) : Option Pending → Prop
  | some (.reserving kind p ip previous persisted) =>
    previous = home p ∧ (kind = .createAutomatic → previous ≠ some ip) ∧
    (persisted = some true →
      (pool = true → st.rows.lookup p ≠ none) ∧ (kind ≠ .reserve → previous = none))
  | _ => True

/-- The peer map is `home` and the reservation in flight. -/
structure Settled (home : String → Option Ipv4Addr) (st : ReserveState) : Prop where
  covers : st.lease.table.Covers (Usable net gateway)
  disjoint : ∀ ip, st.lease.deviceIpMap.lookup ip = none ∨ st.lease.wireguardPeerIpMap.lookup ip = none
  /-- A searched address could be outside the network only if the search wraps. -/
  usable : net.network ≠ Ipv4Addr.broadcast →
    ∀ ip p, st.lease.wireguardPeerIpMap.lookup ip = some p → Usable net gateway ip
  peers : ∀ a p, st.lease.wireguardPeerIpMap.lookup a = some p ↔ home p = some a ∨ st.InFlight p a
  pending : PendingOk pool home st st.pending
  /-- An address in memory has a row, until the row is deleted to release the address. -/
  rows : pool = true → ∀ p, home p ≠ none → st.rows.lookup p ≠ none ∨
    ∃ kind, st.pending = some (.releasing kind p (some true))

variable {net gateway pool} {home : String → Option Ipv4Addr} {st : ReserveState}

theorem not_inFlight_of_none (h : st.pending = none) (p : String) (a : Ipv4Addr) :
    ¬ st.InFlight p a := by
  rintro ⟨_, _, _, hp⟩; rw [h] at hp; cases hp

variable {o : Option Bool} {q : String} {op : LeaseOp}

theorem not_inFlight_of_releasing {kind : ReleaseKind}
    (h : st.pending = some (.releasing kind q o)) (p : String) (a : Ipv4Addr) :
    ¬ st.InFlight p a := by
  rintro ⟨_, _, _, hp⟩; rw [h] at hp; cases hp

variable {ip a : Ipv4Addr} {kind : ReserveKind} {previous : Option Ipv4Addr}
  {s s' : NetworkStateInner} {p : String} {ok : Bool}

theorem inFlight_iff (h : st.pending = some (.reserving kind q ip previous o)) (p : String)
    (a : Ipv4Addr) : st.InFlight p a ↔ p = q ∧ a = ip := by
  constructor
  · rintro ⟨_, _, _, hp⟩; rw [h] at hp; cases hp; exact ⟨rfl, rfl⟩
  · rintro ⟨rfl, rfl⟩; exact ⟨_, _, _, h⟩

/-! ### Methods for devices -/

/-- A method for devices indexes only addresses that were indexed or free. -/
theorem owner_of_applyOp {d : String}
    (h : (s.applyOp net gateway op).deviceIpMap.lookup a = some d) :
    s.deviceIpMap.lookup a = some d ∨ s.Free a := by
  generalize ht : (s.applyOp net gateway op).table = t
  have ho : t.owner a = some d := by rw [← ht]; exact h
  have hst : NetworkStateInner.TableStep net gateway s op _ := applyOp_table op
  rw [ht] at hst
  cases hst with
  | same => exact .inl ho
  | revoke ids => exact .inl (Ownership.owner_of_revokeAll_owner ho)
  | @move req _ _ ip hg =>
    by_cases ha : a = ip
    · subst ha; exact .inr hg.usable.2
    · rw [Ownership.move, Ownership.assign_owner_ne ha] at ho
      exact .inl (Ownership.owner_of_revoke_owner ho)
  | @assign req _ _ ip hs hf =>
    by_cases ha : a = ip
    · subst ha; exact .inr (findAvailableIp_some hf).2.2
    · rw [Ownership.assign_owner_ne ha] at ho
      exact .inl ho

/-! ### WireGuard operations -/

theorem prepareFor_ok (h : s.prepareFor p ip = .ok (s', previous)) :
    s.prepareWireguardPeerIpReservation p ip = .ok (s', previous) := by
  unfold prepareFor at h
  split at h
  · cases h; assumption
  · cases h

/-- The address of a peer that has at most one. -/
theorem wireguardPeerIp_iff
    (hu : ∀ a b, s.wireguardPeerIpMap.lookup a = some p → s.wireguardPeerIpMap.lookup b = some p →
      a = b) (a : Ipv4Addr) :
    s.wireguardPeerIp p = some a ↔ s.wireguardPeerIpMap.lookup a = some p := by
  have of_some : ∀ b, s.wireguardPeerIp p = some b → s.wireguardPeerIpMap.lookup b = some p := by
    intro b hb
    obtain ⟨c, q, hc, hq⟩ := findMap_some hb
    split at hq
    · rename_i hqp; cases hq; exact hqp ▸ hc
    · cases hq
  refine ⟨of_some a, fun ha => ?_⟩
  cases hf : s.wireguardPeerIp p with
  | some b => rw [hu a b ha (of_some b hf)]
  | none => simpa using findMap_none.mp hf a p ha

theorem commit_lookup (s : NetworkStateInner) (p : String) (ip a : Ipv4Addr)
    (previous : Option Ipv4Addr) :
    (s.commitWireguardPeerIpReservation p ip previous).wireguardPeerIpMap.lookup a =
      if previous = some a ∧ a ≠ ip ∧ s.wireguardPeerIpMap.lookup a = some p then none
      else s.wireguardPeerIpMap.lookup a := by
  unfold commitWireguardPeerIpReservation
  cases previous with
  | none => simp
  | some b =>
    by_cases hb : b ≠ ip ∧ s.wireguardPeerIpMap.lookup b = some p
    · simp only [hb, ne_eq, not_false_eq_true, and_self, if_true, lookup_erase_if]
      by_cases ha : a = b
      · subst ha; simp [hb]
      · simp [ha, Ne.symm ha]
    · simp only [hb, if_false]
      rw [if_neg]
      rintro ⟨hab, hn, hl⟩
      cases hab
      exact hb ⟨hn, hl⟩

theorem rollback_lookup (s : NetworkStateInner) (p : String) (ip a : Ipv4Addr)
    (previous : Option Ipv4Addr) :
    (s.rollbackWireguardPeerIpReservation p ip previous).wireguardPeerIpMap.lookup a =
      if a = ip ∧ previous ≠ some ip ∧ s.wireguardPeerIpMap.lookup ip = some p then none
      else s.wireguardPeerIpMap.lookup a := by
  unfold rollbackWireguardPeerIpReservation
  by_cases hb : previous ≠ some ip ∧ s.wireguardPeerIpMap.lookup ip = some p
  · simp only [hb, ne_eq, not_false_eq_true, and_self, if_true, lookup_erase_if, and_true]
  · simp [hb]

theorem release_lookup (s : NetworkStateInner) (p q : String) (a : Ipv4Addr) :
    (s.releaseWireguardPeerIp p).1.wireguardPeerIpMap.lookup a = some q ↔
      s.wireguardPeerIpMap.lookup a = some q ∧ q ≠ p := by
  simp only [releaseWireguardPeerIp, lookup_retain,
    Option.filter_eq_some_iff, decide_eq_true_eq]

section

variable (h : Settled net gateway pool home st)

include h

theorem Settled.vnt (hop : op.isVnt = true) :
    Settled net gateway pool home { st with lease := st.lease.applyOp net gateway op } where
  covers := covers_step op h.covers
  disjoint ip := by
    simp only [(applyOp_step op).1.peers hop]
    cases hd : (st.lease.applyOp net gateway op).deviceIpMap.lookup ip with
    | none => exact .inl rfl
    | some d =>
      rcases owner_of_applyOp hd with hd | hf
      · exact .inr ((h.disjoint ip).resolve_left (by rw [hd]; simp))
      · exact .inr hf.2
  usable hn ip p hp := h.usable hn ip p
    (by simpa only [(applyOp_step op).1.peers hop] using hp)
  peers a p := by simp only [(applyOp_step op).1.peers hop]; exact h.peers a p
  pending := h.pending
  rows := h.rows

/-- Unless a release of the peer is stored, a peer with a home has a row. -/
theorem Settled.row (hp : ∀ kind, st.pending ≠ some (.releasing kind q (some true)))
    (hpool : pool = true) (hq : home q ≠ none) : st.rows.lookup q ≠ none :=
  (h.rows hpool q hq).resolve_right fun ⟨kind, hk⟩ => hp kind hk

/-- While nothing is in flight, a peer's address in the map is its home. -/
theorem Settled.wireguardPeerIp_eq (hp : st.pending = none) (p : String) :
    st.lease.wireguardPeerIp p = home p := by
  have peers : ∀ a, st.lease.wireguardPeerIpMap.lookup a = some p ↔ home p = some a := fun a => by
    rw [h.peers a p]; exact or_iff_left (not_inFlight_of_none hp p a)
  refine Option.ext fun a => ?_
  rw [wireguardPeerIp_iff, peers]
  intro b c hb hc
  rw [peers] at hb hc
  exact Option.some.inj (hb.symm.trans hc)

/-- Blocking a usable address keeps the homes. -/
theorem Settled.start (hp : st.pending = none)
    (hu : net.network ≠ Ipv4Addr.broadcast → Usable net gateway ip)
    (hauto : kind = .createAutomatic → st.lease.Free ip)
    (hok : st.lease.prepareFor p ip = .ok (s', previous)) :
    Settled net gateway pool home
      { st with lease := s', pending := some (.reserving kind p ip previous none) } := by
  obtain ⟨hfree, hown, rfl, rfl⟩ := prepare_ok (prepareFor_ok hok)
  have hhome := h.wireguardPeerIp_eq hp p
  have hpeers : ∀ a q, st.lease.wireguardPeerIpMap.lookup a = some q ↔ home q = some a :=
    fun a q => by rw [h.peers a q]; exact or_iff_left (not_inFlight_of_none hp q a)
  refine ⟨h.covers, fun a => ?_, fun hn a q ha => ?_, fun a q => ?_, ?_, fun hpool q hq => ?_⟩
  · simp only [lookup_insert_if]
    by_cases ha : a = ip
    · exact .inl (ha ▸ hfree)
    · rw [if_neg ha]; exact h.disjoint a
  · simp only [lookup_insert_if] at ha
    split at ha
    · rename_i e; exact e ▸ hu hn
    · exact h.usable hn a q ha
  · rw [inFlight_iff rfl, lookup_insert_if]
    by_cases ha : a = ip
    · rw [ha]
      rw [if_pos rfl, Option.some.injEq]
      constructor
      · rintro rfl; exact .inr ⟨rfl, rfl⟩
      · rintro (hq | ⟨hq, -⟩)
        · exact (hown q ((hpeers ip q).mpr hq)).symm
        · exact hq.symm
    · rw [if_neg ha, hpeers]
      exact ⟨.inl, fun hq => hq.resolve_right fun e => ha e.2⟩
  · refine ⟨hhome, fun hk e => ?_, by simp⟩
    have := (hpeers ip p).mpr (hhome ▸ e)
    rw [(hauto hk).2] at this
    cases this
  · exact (h.rows hpool q hq).imp id fun ⟨k, hk⟩ => by rw [hp] at hk; cases hk

/-- The database answers a reservation: a created peer had no address. -/
theorem Settled.persistReserve
    (hp : st.pending = some (.reserving kind p ip previous none))
    (hok : ok = true → st.canPersist pool kind p = true) :
    Settled net gateway pool home { st with
      rows := if ok && pool then st.rows.insert p ip else st.rows
      pending := some (.reserving kind p ip previous (some ok)) } := by
  have hrows : ∀ q, st.rows.lookup q ≠ none →
      (if ok && pool then st.rows.insert p ip else st.rows).lookup q ≠ none := by
    intro q hq
    split
    · rw [lookup_insert_if]; split
      · simp
      · exact hq
    · exact hq
  have hpend := h.pending
  rw [hp] at hpend
  refine ⟨h.covers, h.disjoint, h.usable, fun a q => ?_, ⟨hpend.1, hpend.2.1, fun ht => ⟨?_, ?_⟩⟩,
    fun hpool q hq => ?_⟩
  · rw [h.peers a q, inFlight_iff hp, inFlight_iff rfl]
  · rintro rfl
    cases ht
    simp
  · intro hk
    cases ht
    have hcan : (pool = true) ∧ st.rows.lookup p = none := by
      have := hok rfl
      unfold canPersist at this
      cases kind with
      | reserve => exact (hk rfl).elim
      | createAutomatic | createWithIp => simp at this; exact ⟨this.1.2, this.2⟩
    cases hprev : previous with
    | none => rfl
    | some a =>
      exact (h.row (by simp [hp]) hcan.1 (by rw [← hpend.1, hprev]; simp) hcan.2).elim
  · exact .inl (hrows q (h.row (by simp [hp]) hpool hq))

/-- A WireGuard step that leaves the devices alone and gives the peers the homes `home'`, when
nothing is in flight after it. -/
theorem Settled.settle
    {home' : String → Option Ipv4Addr} (ht : s'.table = st.lease.table)
    (hsub : ∀ a p, s'.wireguardPeerIpMap.lookup a = some p →
      st.lease.wireguardPeerIpMap.lookup a = some p)
    (hpeers : ∀ a p, s'.wireguardPeerIpMap.lookup a = some p ↔ home' p = some a)
    (hrows : pool = true → ∀ p, home' p ≠ none → st.rows.lookup p ≠ none) :
    Settled net gateway pool home' { st with lease := s', pending := none } where
  covers := by rw [ht]; exact h.covers
  disjoint ip := by
    have ho : s'.deviceIpMap.lookup ip = st.lease.deviceIpMap.lookup ip :=
      congrFun (congrArg Ownership.owner ht) ip
    rw [ho]
    refine (h.disjoint ip).imp id fun hn => ?_
    cases hl : s'.wireguardPeerIpMap.lookup ip with
    | none => rfl
    | some p => rw [hsub ip p hl] at hn; cases hn
  usable hn ip p hp := h.usable hn ip p (hsub ip p hp)
  peers a p := by rw [hpeers]; exact (or_iff_left (not_inFlight_of_none rfl p a)).symm
  pending := trivial
  rows hpool p hp := .inl (hrows hpool p hp)

/-- The homes, and the address that is being reserved. -/
theorem Settled.peers_reserving (hp : st.pending = some (.reserving kind p ip previous o)) (a : Ipv4Addr) (q : String) :
    st.lease.wireguardPeerIpMap.lookup a = some q ↔ home q = some a ∨ q = p ∧ a = ip := by
  rw [h.peers a q, inFlight_iff hp]

/-- A stored reservation is the peer's new home. -/
theorem Settled.commit (hp : st.pending = some (.reserving kind p ip previous (some true))) :
    Settled net gateway pool (Function.update home p (some ip)) { st with
      lease := st.lease.commitWireguardPeerIpReservation p ip (kind.previousArg previous)
      pending := none } := by
  have hpend := h.pending
  rw [hp] at hpend
  obtain ⟨hprev, -, hok⟩ := hpend
  obtain ⟨hrow, hnew⟩ := hok rfl
  have harg : kind.previousArg previous = home p := by
    cases kind with
    | createAutomatic => rw [← hprev, hnew (by simp)]; rfl
    | _ => exact hprev
  have hpeers := h.peers_reserving hp
  refine h.settle (table_commit _ p ip _) (fun a q => ?_) (fun a q => ?_) ?_
  · rw [commit_lookup]; split
    · intro e; cases e
    · exact id
  · rw [commit_lookup, harg, Function.update_apply]
    by_cases hq : q = p
    · subst hq
      rw [if_pos rfl, Option.some.injEq]
      by_cases ha : a = ip
      · subst ha; simp [(hpeers a q).mpr (.inr ⟨rfl, rfl⟩)]
      · split
        · simp [Ne.symm ha]
        · rename_i hc
          rw [hpeers]
          refine iff_of_false ?_ (Ne.symm ha)
          rintro (hh | ⟨-, e⟩)
          · exact hc ⟨hh, ha, (hpeers a q).mpr (.inl hh)⟩
          · exact ha e
    · rw [if_neg hq]
      split
      · rename_i hc
        refine iff_of_false (by simp) fun hh => hq ?_
        exact Option.some.inj (((hpeers a q).mpr (.inl hh)).symm.trans hc.2.2)
      · rw [hpeers]; exact or_iff_left fun e => hq e.1
  · intro hpool q hq
    by_cases hqp : q = p
    · exact hqp ▸ hrow hpool
    · rw [Function.update_of_ne hqp] at hq
      exact h.row (by simp [hp]) hpool hq

/-- A reservation that could not be stored leaves the homes. -/
theorem Settled.rollback (hp : st.pending = some (.reserving kind p ip previous (some false))) :
    Settled net gateway pool home { st with
      lease := st.lease.rollbackWireguardPeerIpReservation p ip (kind.previousArg previous)
      pending := none } := by
  have hpend := h.pending
  rw [hp] at hpend
  obtain ⟨hprev, hauto, -⟩ := hpend
  have harg : kind.previousArg previous ≠ some ip ↔ home p ≠ some ip := by
    cases kind with
    | createAutomatic => rw [← hprev]; exact iff_of_true (by simp [ReserveKind.previousArg]) (hauto rfl)
    | _ => rw [← hprev]; rfl
  have hpeers := h.peers_reserving hp
  have hip := (hpeers ip p).mpr (.inr ⟨rfl, rfl⟩)
  refine h.settle (table_rollback _ p ip _) (fun a q => ?_) (fun a q => ?_) ?_
  · rw [rollback_lookup]; split
    · intro e; cases e
    · exact id
  · rw [rollback_lookup]
    split
    · rename_i hc
      obtain ⟨rfl, hn, -⟩ := hc
      refine iff_of_false (by simp) fun hh => ?_
      have hqp : q = p := Option.some.inj (((hpeers a q).mpr (.inl hh)).symm.trans hip)
      exact harg.mp hn (hqp ▸ hh)
    · rename_i hc
      rw [hpeers]
      refine ⟨fun hh => ?_, .inl⟩
      rcases hh with hh | ⟨rfl, rfl⟩
      · exact hh
      · by_contra hn
        exact hc ⟨rfl, harg.mpr hn, hip⟩
  · intro hpool q hq
    exact h.row (by simp [hp]) hpool hq

/-- The database answers a release. -/
theorem Settled.persistRelease {kind : ReleaseKind}
    (hp : st.pending = some (.releasing kind p none)) :
    Settled net gateway pool home { st with
      rows := if ok && pool then st.rows.erase p else st.rows
      pending := some (.releasing kind p (some ok)) } := by
  refine ⟨h.covers, h.disjoint, h.usable, fun a q => ?_, trivial, fun hpool q hq => ?_⟩
  · rw [h.peers a q, or_iff_left (not_inFlight_of_releasing hp q a),
      or_iff_left (not_inFlight_of_releasing rfl q a)]
  · have hr := h.row (by simp [hp]) hpool hq
    cases ok with
    | false => exact .inl hr
    | true =>
      simp only [hpool, Bool.and_self, if_true]
      by_cases hqp : q = p
      · exact .inr ⟨kind, by rw [hqp]⟩
      · exact .inl (by rw [lookup_erase_if, if_neg hqp]; exact hr)

/-- The end of a release. -/
theorem Settled.finishRelease {kind : ReleaseKind}
    (hp : st.pending = some (.releasing kind p (some ok))) :
    ∃ home', Settled net gateway pool home' { st with
      lease := if ok then (st.lease.releaseWireguardPeerIp p).1 else st.lease
      pending := none } := by
  have hpeers : ∀ a q, st.lease.wireguardPeerIpMap.lookup a = some q ↔ home q = some a :=
    fun a q => by rw [h.peers a q]; exact or_iff_left (not_inFlight_of_releasing hp q a)
  have hrows : pool = true → ∀ q, home q ≠ none → ¬ (q = p ∧ ok = true) →
      st.rows.lookup q ≠ none := fun hpool q hq hn =>
    h.row (fun k hk => by rw [hp] at hk; cases hk; exact hn ⟨rfl, rfl⟩) hpool hq
  cases ok with
  | false =>
    exact ⟨home, h.settle rfl (fun _ _ => id) hpeers fun hpool q hq => hrows hpool q hq (by simp)⟩
  | true =>
    refine ⟨Function.update home p none, h.settle rfl (fun a q hl => ?_) (fun a q => ?_) ?_⟩
    · exact ((release_lookup st.lease p q a).mp hl).1
    · refine (release_lookup st.lease p q a).trans ?_
      rw [hpeers, Function.update_apply]
      by_cases hq : q = p <;> simp [hq]
    · intro hpool q hq
      by_cases hqp : q = p
      · rw [hqp, Function.update_self] at hq; exact (hq rfl).elim
      · rw [Function.update_of_ne hqp] at hq
        exact hrows hpool q hq fun e => hqp e.1

end

/-! ### Loading -/

theorem wireguardPeerIpMap_loadDevices (now : SystemTime) (l : List DeviceRecord)
    (s : NetworkStateInner) :
    (l.foldl (loadDevice net gateway now) s).wireguardPeerIpMap = s.wireguardPeerIpMap := by
  induction l generalizing s with
  | nil => rfl
  | cons r l ih => rw [List.foldl_cons, ih]; rfl

/-- A loaded peer address is a usable one of a row. -/
theorem mem_of_loadPeers (l : List WireGuardPeerIpAllocation) (s : NetworkStateInner)
    (h : (l.foldl (loadPeer net gateway) s).wireguardPeerIpMap.lookup a = some p) :
    s.wireguardPeerIpMap.lookup a = some p ∨ (⟨p, a⟩ ∈ l ∧ Usable net gateway a) := by
  induction l generalizing s with
  | nil => exact .inl h
  | cons r l ih =>
    rcases ih _ h with h | ⟨hm, hu⟩
    · unfold loadPeer at h
      split at h
      · rename_i hu
        rcases lookup_insert_cases h with ⟨ha, rfl⟩ | ⟨-, h⟩
        · exact .inr ⟨by simp [ha], ha ▸ hu⟩
        · exact .inl h
      · exact .inl h
    · exact .inr ⟨by simp [hm], hu⟩

theorem Loaded.settled (h : Loaded net gateway st) :
    Settled net gateway pool st.lease.wireguardPeerIp st := by
  obtain ⟨devices, allocations, now, hd, hpw, hrows, hl, hdis, hp⟩ := h
  have hx : st.lease.table.Exact (Usable net gateway) :=
    NetworkStateInner.Loaded.exact ⟨devices, allocations, now, hd, hl⟩
  have hmem : ∀ a p, st.lease.wireguardPeerIpMap.lookup a = some p →
      ⟨p, a⟩ ∈ allocations.getD [] ∧ Usable net gateway a := by
    intro a p hap
    rw [hl] at hap
    refine (mem_of_loadPeers _ _ hap).resolve_left fun he => ?_
    rw [wireguardPeerIpMap_loadDevices] at he
    cases he
  have huniq : ∀ p a b, st.lease.wireguardPeerIpMap.lookup a = some p →
      st.lease.wireguardPeerIpMap.lookup b = some p → a = b := by
    intro p a b ha hb
    have := List.inj_on_of_nodup_map hpw (hmem a p ha).1 (hmem b p hb).1 rfl
    exact congrArg WireGuardPeerIpAllocation.ip this
  have hpeers : ∀ a p, st.lease.wireguardPeerIpMap.lookup a = some p ↔
      st.lease.wireguardPeerIp p = some a := fun a p => (wireguardPeerIp_iff (huniq p) a).symm
  refine ⟨(Ownership.exact_iff.mp hx).1, hdis, fun _ a p ha => (hmem a p ha).2, fun a p => ?_, ?_,
    fun _ p hh => .inl ?_⟩
  · rw [hpeers]; exact (or_iff_left (not_inFlight_of_none hp p a)).symm
  · rw [hp]; trivial
  · obtain ⟨a, ha⟩ := Option.ne_none_iff_exists'.mp hh
    have := hrows _ (hmem a p ((hpeers a p).mpr ha)).1
    exact Option.isSome_iff_ne_none.mp this

/-! ## Runs -/

theorem startReserve_ok (h : s.startReserve net gateway p ip = .ok (s', previous)) :
    Usable net gateway ip ∧ s.prepareFor p ip = .ok (s', previous) := by
  unfold startReserve at h
  split at h
  · cases h
  split at h
  · cases h
  split at h
  · cases h
  rename_i _ hc hg
  exact ⟨⟨by simpa using hc, fun e => hg e.symm⟩, h⟩

theorem startCreateAutomatic_ok
    (h : s.startCreateAutomatic net gateway p = .ok (s', ip, previous)) :
    s.findAvailableIp net gateway = some ip ∧ s.prepareFor p ip = .ok (s', previous) := by
  unfold startCreateAutomatic at h
  split at h
  · cases h
  · rename_i a hf
    split at h
    · rename_i hok; cases h; exact ⟨hf, hok⟩
    · cases h

/-- Every step keeps the invariant. -/
theorem Settled.step (h : Settled net gateway pool home st) (op : ReserveOp) :
    ∃ home', Settled net gateway pool home' (st.step net gateway pool op) := by
  cases op with
  | vnt op =>
    simp only [ReserveState.step]
    split
    · rename_i hop; exact ⟨home, h.vnt hop⟩
    · exact ⟨home, h⟩
  | reserve p ip =>
    simp only [ReserveState.step, ReserveState.start]
    cases hp : st.pending with
    | some _ => exact ⟨home, h⟩
    | none =>
      cases hr : st.lease.startReserve net gateway p ip with
      | error _ => exact ⟨home, h⟩
      | ok r =>
        obtain ⟨hu, hok⟩ := startReserve_ok hr
        exact ⟨home, h.start hp (fun _ => hu) (by simp) hok⟩
  | createAutomatic p =>
    simp only [ReserveState.step, ReserveState.start]
    cases hp : st.pending with
    | some _ => exact ⟨home, h⟩
    | none =>
      cases hr : st.lease.startCreateAutomatic net gateway p with
      | error _ => exact ⟨home, h⟩
      | ok r =>
        obtain ⟨hf, hok⟩ := startCreateAutomatic_ok hr
        exact ⟨home, h.start hp (usable_findAvailableIp hf).mpr
          (fun _ => (findAvailableIp_some hf).2.2) hok⟩
  | createWithIp p ip =>
    simp only [ReserveState.step, ReserveState.start]
    split
    · rename_i hg
      cases hp : st.pending with
      | some _ => exact ⟨home, h⟩
      | none =>
        cases hr : st.lease.prepareFor p ip with
        | error _ => exact ⟨home, h⟩
        | ok r => exact ⟨home, h.start hp (fun _ => ⟨hg.1.1, hg.2.symm⟩) (by simp) hr⟩
    · exact ⟨home, h⟩
  | release kind p =>
    simp only [ReserveState.step]
    cases hp : st.pending with
    | some _ => exact ⟨home, h⟩
    | none =>
      simp only
      split
      · exact ⟨home, h⟩
      · refine ⟨home, h.covers, h.disjoint, h.usable, fun a q => ?_, trivial, fun hpool q hq => ?_⟩
        · rw [h.peers a q, or_iff_left (not_inFlight_of_none hp q a),
            or_iff_left (not_inFlight_of_releasing rfl q a)]
        · exact .inl (h.row (by simp [hp]) hpool hq)
  | persist ok =>
    simp only [ReserveState.step]
    split
    · rename_i hp
      exact ⟨home, h.persistReserve hp fun e => (Bool.and_eq_true _ _ ▸ e).2⟩
    · rename_i hp
      exact ⟨home, h.persistRelease hp⟩
    · exact ⟨home, h⟩
  | finish =>
    simp only [ReserveState.step]
    split
    · rename_i kind p ip previous ok hp
      cases ok with
      | true => exact ⟨_, h.commit hp⟩
      | false => exact ⟨home, h.rollback hp⟩
    · rename_i hp
      exact h.finishRelease hp
    · exact ⟨home, h⟩

theorem settled_of_reach (h : (reserveSys net gateway pool).Reach st) :
    ∃ home, Settled net gateway pool home st :=
  h.invariant (I := fun st => ∃ home, Settled net gateway pool home st)
    (fun _ hl => ⟨_, Loaded.settled hl⟩)
    fun _ op _ ⟨_, hi⟩ hst => by rw [hst]; exact hi.step op

/-- The address `a` is the peer `p`'s and refused to everyone else: the search does not find it, no
registration gets it, and no other peer can reserve it. -/
def Blocked (net : Ipv4Net) (gateway : Ipv4Addr) (s : NetworkStateInner) (a : Ipv4Addr)
    (p : String) : Prop :=
  s.wireguardPeerIpMap.lookup a = some p ∧
  s.findAvailableIp net gateway ≠ some a ∧
  (∀ req randomId now s' ip old,
    s.allocateIp net gateway req randomId now = .ok (s', ip, old) → ip ≠ a) ∧
  ∀ q, q ≠ p → ∃ e, s.prepareWireguardPeerIpReservation q a = .error e

/-- A usable address of a peer is blocked: a device that kept it would be in the index. -/
theorem Settled.blocked (h : Settled net gateway pool home st)
    (hu : Usable net gateway a) (ha : st.lease.wireguardPeerIpMap.lookup a = some p) :
    Blocked net gateway st.lease a p := by
  have hdev : st.lease.deviceIpMap.lookup a = none :=
    (h.disjoint a).resolve_right (by rw [ha]; simp)
  have hfree : ¬ st.lease.Free a := fun hf => by rw [hf.2] at ha; cases ha
  refine ⟨ha, fun hf => hfree (findAvailableIp_some hf).2.2, ?_, ?_⟩
  · rintro req randomId now s' ip old hok rfl
    obtain ⟨hk, -⟩ | ⟨hg, -⟩ | ⟨-, hf, -⟩ := (allocateIp_ok hok).table_cases
    · have := h.covers ip req.deviceId hk.1 hu
      rw [show st.lease.table.owner ip = none from hdev] at this
      cases this
    · exact hfree hg.usable.2
    · exact hfree (findAvailableIp_some hf).2.2
  · intro q hq
    cases hr : st.lease.prepareWireguardPeerIpReservation q a with
    | error e => exact ⟨e, rfl⟩
    | ok r => exact (hq ((prepare_ok hr).2.1 p ha).symm).elim

/-- **Devices and WireGuard peers never share an address.** In every state of every interleaving:
no address is a device's and a peer's, an address has one peer, a peer has one address unless a
reservation is in flight, and, but for `255.255.255.255/32`, while one is in flight its old and its
new address are refused to everyone else. -/
theorem reservations_disjoint (net : Ipv4Net) (gateway : Ipv4Addr) (pool : Bool)
    (st : ReserveState) (h : (reserveSys net gateway pool).Reach st) :
    (∀ ip, ip ∈ st.lease.deviceIpMap → ip ∉ st.lease.wireguardPeerIpMap) ∧
    (∀ ip p q, st.lease.wireguardPeerIpMap.lookup ip = some p →
      st.lease.wireguardPeerIpMap.lookup ip = some q → p = q) ∧
    ((∀ p a, ¬ st.InFlight p a) → ∀ p a b, st.lease.wireguardPeerIpMap.lookup a = some p →
      st.lease.wireguardPeerIpMap.lookup b = some p → a = b) ∧
    (net.network ≠ Ipv4Addr.broadcast → ∀ kind p new previous persisted,
      st.pending = some (.reserving kind p new previous persisted) →
      Blocked net gateway st.lease new p ∧
      ∀ old, previous = some old → Blocked net gateway st.lease old p) := by
  obtain ⟨home, hs⟩ := settled_of_reach h
  refine ⟨fun ip hd hw => ?_, fun ip p q hp hq => ?_, fun hn p a b ha hb => ?_, ?_⟩
  · rcases hs.disjoint ip with hl | hl
    · exact AList.lookup_eq_none.mp hl hd
    · exact AList.lookup_eq_none.mp hl hw
  · exact Option.some.inj (hp.symm.trans hq)
  · rw [hs.peers, or_iff_left (hn p _)] at ha hb
    exact Option.some.inj (ha.symm.trans hb)
  · intro hnet kind p new previous persisted hp
    have hprev : previous = home p := by
      have := hs.pending
      rw [hp] at this
      exact this.1
    have block : ∀ a, st.lease.wireguardPeerIpMap.lookup a = some p →
        Blocked net gateway st.lease a p := fun a ha => hs.blocked (hs.usable hnet a p ha) ha
    refine ⟨block new ((hs.peers new p).mpr (.inr ⟨_, _, _, hp⟩)), fun old ho => ?_⟩
    exact block old ((hs.peers old p).mpr (.inl (hprev.symm.trans ho)))

/-- A phone at `10.26.0.5` moves to `10.26.0.6`: during the database write both are blocked. -/
theorem reservations_disjoint_moving :
    ∃ st, (reserveSys defaultNet (gatewayOf defaultNet)
        true).Reach st ∧
      Blocked defaultNet (gatewayOf defaultNet) st.lease
        (homeIp 6) "phone" ∧
      Blocked defaultNet (gatewayOf defaultNet) st.lease
        (homeIp 5) "phone" := by
  let net := defaultNet
  let allocations : List WireGuardPeerIpAllocation := [⟨"phone", homeIp 5⟩]
  let st : ReserveState :=
    { lease := NetworkStateInner.buildInitialInnerState net (gatewayOf net) none
        (some allocations) 0
      rows := (∅ : HashMap String Ipv4Addr).insert "phone" (homeIp 5)
      pending := none }
  have hl : Loaded net (gatewayOf net) st :=
    ⟨none, some allocations, 0, List.Pairwise.nil, by decide, by decide, rfl,
      fun ip => .inl (congrFun (congrArg Ownership.owner
        (NetworkStateInner.table_loadPeers allocations .empty)) ip), rfl⟩
  have hr := (Sys.Reach.init (S := reserveSys net (gatewayOf net) true) hl).next
    (.reserve "phone" (homeIp 6)) rfl
  obtain ⟨-, -, -, hb⟩ := reservations_disjoint net (gatewayOf net) true _ hr
  have hp := hb (by decide) .reserve "phone" (homeIp 6)
    (some (homeIp 5)) none (by decide)
  exact ⟨_, hr, hp.1, hp.2 _ rfl⟩

/-- The network of the gateway `0.0.0.0` with a mask of 32 bits: `gateway - 1` wraps, and so does the
start of the search. -/
def wrappedNet : Ipv4Net := ⟨Ipv4Addr.broadcast, 32, by decide⟩

def nasRecord : DeviceRecord := ⟨"nas", "home", some "0.0.0.1", "nas", "2.0.0", 0⟩

/-- A load with one device, at an address outside the network: no index has it. -/
def wrappedLoad : ReserveState where
  lease := NetworkStateInner.buildInitialInnerState wrappedNet (gatewayOf wrappedNet)
    (some [nasRecord]) none 0
  rows := ∅
  pending := none

theorem wrappedLoad_loaded : Loaded wrappedNet (gatewayOf wrappedNet) wrappedLoad :=
  ⟨some [nasRecord], none, 0, List.pairwise_singleton _ _, by decide, by decide, rfl,
    fun _ => .inr rfl, rfl⟩

/-- The search gives a phone the device's `0.0.0.1`, and the phone starts a move to the address of
the network. -/
def wrappedMove : List ReserveOp :=
  [.createAutomatic "phone", .persist true, .finish, .reserve "phone" Ipv4Addr.broadcast]

/-- In `255.255.255.255/32` the search leaves the network, where the index does not see the devices:
while a phone moves away from `0.0.0.1`, a device registers and keeps `0.0.0.1`. -/
theorem reservations_not_blocked :
    ∃ st, (reserveSys wrappedNet (gatewayOf wrappedNet) true).Reach st ∧
      st.pending = some (.reserving .reserve "phone" Ipv4Addr.broadcast
        (some (Ipv4Addr.new 0 0 0 1)) none) ∧
      (∃ s' old, st.lease.allocateIp wrappedNet (gatewayOf wrappedNet)
        (anyIpReq "nas" none) 7 0 = .ok (s', Ipv4Addr.new 0 0 0 1, old)) ∧
      ¬ Blocked wrappedNet (gatewayOf wrappedNet) st.lease (Ipv4Addr.new 0 0 0 1) "phone" := by
  have hr : (reserveSys wrappedNet (gatewayOf wrappedNet) true).Reach
      (wrappedMove.foldl (step wrappedNet (gatewayOf wrappedNet) true) wrappedLoad) :=
    Sys.Reach.foldl (Sys.Reach.init (S := reserveSys _ _ true) wrappedLoad_loaded) _
  refine ⟨_, hr, by decide, ⟨_, _, rfl⟩, fun hb => ?_⟩
  exact hb.2.2.1 (anyIpReq "nas" none) 7 0 _ _ _ rfl rfl

end ReserveState

end Vntc
