import Vntc.Server.Lease.Invariant
import Vntc.Server.Network

/-!
# Runs of a network

The methods of a network in any order, with any arguments (`networkSys`): registrations and the
end of sessions, the expiry and removal of devices, WireGuard reservations, peers that come and go,
and the WireGuard addresses that other servers report.
-/

namespace Vntc

open Lib NetworkStateInner

def NetworkSender.isWireGuard : NetworkSender → Bool
  | .vnt _ => false
  | .wireGuard .. => true

/-- The methods of a network. -/
inductive NetworkOp
  | register (req : RegRequestMsg) (randomId : BitVec 64) (sender : Channel) (now : SystemTime)
  | confirm (ip : Ipv4Addr) (randomId : BitVec 64)
  | offline (deviceId : String) (ip : Ipv4Addr) (randomId : BitVec 64) (now : SystemTime)
  | releasePreRegistered (deviceId : String) (ip : Ipv4Addr) (randomId : BitVec 64)
  | expire (now : SystemTime)
  | removeDevices (deviceIds : List String)
  | removeDeviceFromMemory (deviceId : String)
  | reserve (peerId : String) (ip : Ipv4Addr)
  | createAutomatic (peerId : String)
  /-- The address is a cluster grant. -/
  | createWithIp (peerId : String) (ip : Ipv4Addr)
  | commit (peerId : String) (ip : Ipv4Addr) (previousIp : Option Ipv4Addr)
  | rollback (peerId : String) (ip : Ipv4Addr) (previousIp : Option Ipv4Addr)
  | releasePeer (peerId : String)
  | connectPeer (peerId : String) (ip : Ipv4Addr) (sender : Channel) (now : SystemTime)
  | disconnectPeer (peerId : String) (ip : Ipv4Addr)
  | updateRemote (source : String) (ips : HashSet Ipv4Addr)
  | removeRemote (source : String)

namespace NetworkState

/-- A method of the lease state. -/
def leaseCall (st : NetworkState) (op : LeaseOp) : NetworkState :=
  { st with leaseState := st.leaseState.applyOp st.net st.gateway op }

/-- The network after a method. -/
def apply (st : NetworkState) : NetworkOp → NetworkState
  | .register req randomId sender now =>
    match st.allocateIpAndGetEntry req randomId sender now with
    | .ok (st', _) => st'
    | .error _ => st
  | .confirm ip randomId => st.confirmRegistration ip randomId
  | .offline d ip randomId now => (st.offlineIp d ip randomId now).1
  | .releasePreRegistered d ip randomId => st.releasePreRegisteredIp d ip randomId
  | .expire now => st.leaseCall (.expire st.leaseDuration now)
  | .removeDevices ids => st.removeDevices ids
  | .removeDeviceFromMemory d => (st.removeDeviceFromMemory d).1
  | .reserve peerId ip =>
    match st.leaseState.startReserve st.net st.gateway peerId ip with
    | .ok (lease, _) => { st with leaseState := lease }
    | .error _ => st
  | .createAutomatic peerId =>
    match st.leaseState.startCreateAutomatic st.net st.gateway peerId with
    | .ok (lease, _) => { st with leaseState := lease }
    | .error _ => st
  | .createWithIp peerId ip =>
    -- The cluster grants hosts of the network only.
    if st.net.IsHost ip ∧ ip ≠ st.gateway then st.leaseCall (.prepareReservation peerId ip) else st
  | .commit peerId ip previous => st.leaseCall (.commitReservation peerId ip previous)
  | .rollback peerId ip previous => st.leaseCall (.rollbackReservation peerId ip previous)
  | .releasePeer peerId => st.leaseCall (.releaseWireguardPeerIp peerId)
  | .connectPeer peerId ip sender now => (st.connectWireguardPeer peerId ip sender now).1
  | .disconnectPeer peerId ip => (st.disconnectWireguardPeer peerId ip).1
  | .updateRemote source ips => (st.updateRemoteWireguardIps source ips).1
  | .removeRemote source => (st.removeRemoteWireguardSource source).1

/-- The states that `new_from_db` leaves, from rows with distinct ids and addresses of which none
is a device's and a peer's. -/
def Loaded (st : NetworkState) : Prop :=
  ∃ networkCode net leaseDuration devices allocations now,
    DistinctDevices (devices.getD []) ∧
    st = newFromDb networkCode net leaseDuration devices allocations now ∧
    ∀ ip, st.leaseState.deviceIpMap.lookup ip = none ∨
      st.leaseState.wireguardPeerIpMap.lookup ip = none

/-- A network after a load. -/
def networkSys : Sys NetworkState NetworkOp := Sys.ofFun Loaded apply

/-! ## What a method does -/

/-- The effect of a method: on the lease state by one of its methods, on the endpoints by leaving
them, by removing one that is a device's, by putting a device's session at its address, or by
confirming one; or a change of the WireGuard endpoints or addresses, with a new version. -/
inductive Effect (st : NetworkState) : NetworkState → Prop
  | lease (op : LeaseOp)
      (hc : st.net.network ≠ Ipv4Addr.broadcast → op.Checked st.net st.gateway)
      (hop : ∀ req randomId now, op ≠ .allocateIp req randomId now) : Effect st (st.leaseCall op)
  | confirm (ip : Ipv4Addr) (randomId : BitVec 64) : Effect st (st.confirmRegistration ip randomId)
  | register {req : RegRequestMsg} {randomId : BitVec 64} {lease : NetworkStateInner}
      {ip : Ipv4Addr} {old : Option Ipv4Addr} (sender : Channel)
      (now : SystemTime)
      (hl : lease = st.leaseState.applyOp st.net st.gateway (.allocateIp req randomId now))
      (ha : st.leaseState.Allocated st.net st.gateway req randomId lease ip old) :
      Effect st { st.removeEndpoint old with
        leaseState := lease
        senderMap := (st.removeEndpoint old).senderMap.insert ip (.vnt sender)
        onlineEndpoints := (st.removeEndpoint old).onlineEndpoints.insert ip
          (.vnt randomId req.allowWireGuard req.clientCapabilities
            (req.registrationMode == .normal)) }
  | drop (op : LeaseOp) (hc : op.Checked st.net st.gateway)
      (hop : ∀ req randomId now, op ≠ .allocateIp req randomId now) (d : String)
      (hv : (st.leaseCall op).leaseState.dataVersion = st.leaseState.dataVersion + 1) :
      Effect st ((st.leaseCall op).removeEndpoint (st.leaseState.leaseOf d))
  | connect {peerId : String} {ip : Ipv4Addr} (sender : Channel) (now : SystemTime)
      (hp : st.leaseState.wireguardPeerIpMap.lookup ip = some peerId) :
      Effect st { st with
        senderMap := st.senderMap.insert ip (.wireGuard st.networkCode sender)
        onlineEndpoints := st.onlineEndpoints.insert ip (.wireGuard peerId (systemTimeToI64 now))
        leaseState := { st.leaseState with
          dataVersion := st.leaseState.dataVersion + 1
          lastWireguardChangeVersion := st.leaseState.dataVersion + 1 } }
  | disconnect (ip : Ipv4Addr) :
      Effect st { st.removeEndpoint (some ip) with
        leaseState := { st.leaseState with
          dataVersion := st.leaseState.dataVersion + 1
          lastWireguardChangeVersion := st.leaseState.dataVersion + 1 } }
  | remote (sources : HashMap String (HashSet Ipv4Addr)) :
      Effect st { st with leaseState := { st.leaseState with
        remoteWireguardSources := sources
        dataVersion := st.leaseState.dataVersion + 1
        lastWireguardChangeVersion := st.leaseState.dataVersion + 1 } }

variable {st : NetworkState}

/-- A call that is refused is a call without an effect. -/
theorem Effect.none : Effect st st := by
  have h : Effect st (st.leaseCall (.removeDevices [])) := .lease _ (fun _ => trivial) (by simp)
  exact h

/-- A device loses its address and the endpoint there. -/
theorem Effect.loses (op : LeaseOp) {lease : NetworkStateInner} {d : String} {o : Option Ipv4Addr}
    (hl : st.leaseState.applyOp st.net st.gateway op = lease) (hc : op.Checked st.net st.gateway)
    (hop : ∀ req randomId now, op ≠ .allocateIp req randomId now)
    (hd : st.leaseState.leaseOf d = o) (hv : lease.dataVersion = st.leaseState.dataVersion + 1) :
    Effect st ({ st with leaseState := lease }.removeEndpoint o) := by
  subst hl hd
  exact .drop op hc hop d hv

variable {ip : Ipv4Addr} {s : NetworkStateInner} {st' : NetworkState}

variable {s' : NetworkStateInner} {a gateway : Ipv4Addr} {d : String} {net : Ipv4Net}

/-- Blocking an address is a method of the lease state. -/
theorem applyOp_of_prepareFor {p : String}
    {previous : Option Ipv4Addr} (h : s.prepareFor p ip = .ok (s', previous)) (net : Ipv4Net)
    (gateway : Ipv4Addr) : s' = s.applyOp net gateway (.prepareReservation p ip) := by
  rw [NetworkStateInner.applyOp, ReserveState.prepareFor_ok h]

section

variable {req : RegRequestMsg} {randomId : BitVec 64} {sender : Channel} {now : SystemTime}
  {peerId : String}

-- The equations of `apply` are made here, once for all lemmas below.
attribute [local simp] apply

/-- The lease state and the entry that a registration returns. -/
theorem allocateIpAndGetEntry_lease {old : Option Ipv4Addr} {entry : Option DeviceEntry}
    (h : st.allocateIpAndGetEntry req randomId sender now = .ok (st', ip, old, entry)) :
    st'.leaseState = st.leaseState.applyOp st.net st.gateway (.allocateIp req randomId now) ∧
      entry = st'.leaseState.deviceMap.lookup req.deviceId := by
  unfold allocateIpAndGetEntry at h
  split at h
  · cases h
  · rename_i hok
    cases h
    exact ⟨by simp only [NetworkStateInner.applyOp, hok], rfl⟩

theorem register_effect : Effect st (st.apply (.register req randomId sender now)) := by
  simp only [apply]
  cases h : st.allocateIpAndGetEntry req randomId sender now with
  | error => exact .none
  | ok r =>
    obtain ⟨st', ip, old, entry⟩ := r
    obtain ⟨ha, he⟩ := allocateIpAndGetEntry_ok h
    rw [he]
    exact .register sender now (allocateIpAndGetEntry_lease h).1 ha

theorem offline_effect : Effect st (st.apply (.offline d ip randomId now)) := by
  simp only [apply, offlineIp]
  cases h : st.leaseState.offlineIp st.networkCode d ip randomId now with
  | mk lease record =>
    cases record with
    | none => exact .none
    | some r =>
      obtain ⟨hd, hv⟩ := offlineIp_some h
      refine .loses (.offlineIp st.networkCode d ip randomId now) ?_ trivial (by simp) hd hv
      rw [NetworkStateInner.applyOp, h]

theorem releasePreRegistered_effect :
    Effect st (st.apply (.releasePreRegistered d ip randomId)) := by
  simp only [apply, releasePreRegisteredIp]
  cases h : st.leaseState.releasePreRegisteredIp d ip randomId with
  | mk lease found =>
    cases found with
    | false => exact .none
    | true =>
      obtain ⟨hd, hv⟩ := releasePreRegisteredIp_true h
      refine .loses (.releasePreRegisteredIp d ip randomId) ?_ trivial (by simp) hd hv
      rw [NetworkStateInner.applyOp, h]

theorem removeDeviceFromMemory_effect : Effect st (st.apply (.removeDeviceFromMemory d)) := by
  simp only [apply, removeDeviceFromMemory]
  cases he : st.leaseState.deviceMap.lookup d with
  | none =>
    simp only [NetworkStateInner.removeDeviceFromMemory, he]
    exact .none
  | some e =>
    refine .loses (d := d) (.removeDeviceFromMemory d) rfl trivial (by simp) ?_ ?_
    · rw [leaseOf_of_lookup he, NetworkStateInner.removeDeviceFromMemory, he]
    · simp [NetworkStateInner.applyOp, NetworkStateInner.removeDeviceFromMemory, he]

theorem reserve_effect : Effect st (st.apply (.reserve peerId ip)) := by
  simp only [apply]
  cases h : st.leaseState.startReserve st.net st.gateway peerId ip with
  | error => exact .none
  | ok r =>
    obtain ⟨hu, hok⟩ := ReserveState.startReserve_ok h
    simp only [applyOp_of_prepareFor hok st.net st.gateway]
    exact .lease _ (fun _ => hu) (by simp)

theorem createAutomatic_effect : Effect st (st.apply (.createAutomatic peerId)) := by
  simp only [apply]
  cases h : st.leaseState.startCreateAutomatic st.net st.gateway peerId with
  | error => exact .none
  | ok r =>
    obtain ⟨hf, hok⟩ := ReserveState.startCreateAutomatic_ok h
    simp only [applyOp_of_prepareFor hok st.net st.gateway]
    exact .lease _ (usable_findAvailableIp hf).mpr (by simp)

theorem createWithIp_effect : Effect st (st.apply (.createWithIp peerId ip)) := by
  simp only [apply]
  split
  · rename_i hg
    exact .lease _ (fun _ => ⟨hg.1.1, hg.2.symm⟩) (by simp)
  · exact .none

theorem connectPeer_effect : Effect st (st.apply (.connectPeer peerId ip sender now)) := by
  simp only [apply, connectWireguardPeer]
  split
  · exact .none
  · rename_i hc
    simp only [not_or, ne_eq, Decidable.not_not] at hc
    exact .connect sender now hc.1

theorem disconnectPeer_effect : Effect st (st.apply (.disconnectPeer peerId ip)) := by
  simp only [apply, disconnectWireguardPeer]
  split
  · split
    · exact .disconnect ip
    · exact .none
  · exact .none

end

theorem apply_effect (op : NetworkOp) : Effect st (st.apply op) := by
  cases op with
  | register => exact register_effect
  | confirm ip randomId => exact .confirm ip randomId
  | offline => exact offline_effect
  | releasePreRegistered => exact releasePreRegistered_effect
  | expire | commit | rollback | releasePeer => exact .lease _ (fun _ => trivial) (by simp)
  | removeDevices ids => exact .lease (.removeDevices ids) (fun _ => trivial) (by simp)
  | removeDeviceFromMemory => exact removeDeviceFromMemory_effect
  | reserve => exact reserve_effect
  | createAutomatic => exact createAutomatic_effect
  | createWithIp => exact createWithIp_effect
  | connectPeer => exact connectPeer_effect
  | disconnectPeer => exact disconnectPeer_effect
  | updateRemote source ips =>
    simp only [apply, updateRemoteWireguardIps]
    split
    · exact .none
    · exact .remote _
  | removeRemote source =>
    simp only [apply, removeRemoteWireguardSource]
    split
    · exact .none
    · exact .remote _

/-! ## The invariant -/

/-- The invariant of a network. -/
structure NetInv (st : NetworkState) : Prop where
  lease : NetworkStateInner.LeaseInv st.net st.gateway st.leaseState
  /-- The address of a WireGuard endpoint is no device's. -/
  peers : ∀ ip, st.isWireguardEndpoint ip = true → ∀ d, st.leaseState.leaseOf d ≠ some ip
  wireguardVersion : st.leaseState.lastWireguardChangeVersion ≤ st.leaseState.dataVersion

/-- The queue and the endpoint of an address are of one kind. -/
def SameKinds (st : NetworkState) : Prop :=
  ∀ ip, (st.senderMap.lookup ip).map NetworkSender.isWireGuard =
    (st.onlineEndpoints.lookup ip).map OnlineEndpoint.isWireGuard

theorem isWireguardEndpoint_iff :
    st.isWireguardEndpoint ip = true ↔
      ∃ peerId connectedAt, st.onlineEndpoints.lookup ip = some (.wireGuard peerId connectedAt) := by
  unfold isWireguardEndpoint
  cases h : st.onlineEndpoints.lookup ip with
  | none => simp
  | some e => cases e <;> simp [OnlineEndpoint.isWireGuard]

theorem isWireguardEndpoint_removeEndpoint {o : Option Ipv4Addr} :
    (st.removeEndpoint o).isWireguardEndpoint ip = true ↔
      o ≠ some ip ∧ st.isWireguardEndpoint ip = true := by
  unfold isWireguardEndpoint removeEndpoint
  simp only [HashMap.lookup_eraseOpt]
  by_cases h : o = some ip <;> simp [h]

/-- A session confirms itself: nothing becomes a WireGuard endpoint or ceases to be one. -/
theorem onlineEndpoints_confirm (ip : Ipv4Addr) (randomId : BitVec 64) (a : Ipv4Addr) :
    ((st.confirmRegistration ip randomId).onlineEndpoints.lookup a).map OnlineEndpoint.isWireGuard =
      (st.onlineEndpoints.lookup a).map OnlineEndpoint.isWireGuard := by
  unfold confirmRegistration
  split
  · rename_i active allow caps confirmed he
    split
    · simp only [HashMap.lookup_insert_if]
      by_cases ha : a = ip
      · rw [if_pos ha, ha, he]; rfl
      · rw [if_neg ha]
    · rfl
  · rfl

theorem isWireguardEndpoint_eq (h : (st'.onlineEndpoints.lookup a).map OnlineEndpoint.isWireGuard =
      (st.onlineEndpoints.lookup a).map OnlineEndpoint.isWireGuard) :
    st'.isWireguardEndpoint a = st.isWireguardEndpoint a := by
  unfold isWireguardEndpoint
  cases h1 : st'.onlineEndpoints.lookup a <;> cases h2 : st.onlineEndpoints.lookup a <;>
    simp_all

/-- Only a registration gives a device an address. -/
theorem leaseOf_of_applyOp {op : LeaseOp}
    (hop : ∀ req randomId now, op ≠ .allocateIp req randomId now)
    (h : (s.applyOp net gateway op).leaseOf d = some ip) : s.leaseOf d = some ip := by
  generalize ht : (s.applyOp net gateway op).table = t
  have hh : t.held d = some ip := by rw [← ht]; exact h
  have hst : NetworkStateInner.TableStep net gateway s op _ := applyOp_table op
  rw [ht] at hst
  cases hst with
  | same => exact hh
  | revoke ids => exact Ownership.held_of_revokeAll_held hh
  | move | assign => exact (hop _ _ _ rfl).elim

theorem confirmRegistration_leaseState (ip : Ipv4Addr) (randomId : BitVec 64) :
    st.confirmRegistration ip randomId =
      { st with onlineEndpoints := (st.confirmRegistration ip randomId).onlineEndpoints } := by
  unfold confirmRegistration
  split
  · split <;> rfl
  · rfl

/-- After a registration the device's address is its session's, and no other changed hands. -/
theorem leaseOf_of_allocated {req : RegRequestMsg} {randomId : BitVec 64} {old : Option Ipv4Addr}
    (h : s.Allocated net gateway req randomId s' ip old)
    (hd : s'.leaseOf d = some a) : a = ip ∨ s.leaseOf d = some a := by
  rw [h.leaseOf_eq, Function.update_apply] at hd
  split at hd
  · cases hd; exact .inl rfl
  · exact .inr hd

theorem NetInv.effect (hnet : st.net.network ≠ Ipv4Addr.broadcast) (h : NetInv st)
    (he : Effect st st') : NetInv st' := by
  cases he with
  | lease op hc hop =>
    refine ⟨h.lease.step hnet (hc hnet), fun ip hw d hd => ?_, ?_⟩
    · exact h.peers ip hw d (leaseOf_of_applyOp hop hd)
    · have hv : NetworkStateInner.VersionStep st.leaseState (st.leaseCall op).leaseState :=
        (applyOp_step op).2
      simp only [leaseCall, (applyOp_step op).1.wireguardVersion]
      exact le_trans h.wireguardVersion hv.le
  | confirm ip randomId =>
    rw [confirmRegistration_leaseState]
    refine ⟨h.lease, fun a hw d => ?_, h.wireguardVersion⟩
    refine h.peers a ?_ d
    rw [← isWireguardEndpoint_eq (onlineEndpoints_confirm ip randomId a)]
    exact hw
  | @register req randomId lease ip old sender now hl ha =>
    refine ⟨?_, fun a hw d hd => ?_, ?_⟩
    · have hc : LeaseOp.Checked st.net st.gateway (.allocateIp req randomId now) := trivial
      rw [hl]
      exact h.lease.step hnet hc
    · obtain ⟨p, c, hp⟩ := isWireguardEndpoint_iff.mp hw
      simp only [HashMap.lookup_insert_if] at hp
      split at hp
      · cases hp
      · rename_i hne
        have hw' : (st.removeEndpoint old).isWireguardEndpoint a = true :=
          isWireguardEndpoint_iff.mpr ⟨p, c, hp⟩
        rcases leaseOf_of_allocated ha hd with e | hd
        · exact hne e
        · exact h.peers a (isWireguardEndpoint_removeEndpoint.mp hw').2 d hd
    · show lease.lastWireguardChangeVersion ≤ lease.dataVersion
      rw [ha.wireguardVersion, ha.version]
      exact Nat.le_succ_of_le h.wireguardVersion
  | drop op hc hop d hv =>
    refine ⟨h.lease.step hnet hc, fun ip hw k hk => ?_, ?_⟩
    · have hw' := (isWireguardEndpoint_removeEndpoint.mp hw).2
      exact h.peers ip hw' k (leaseOf_of_applyOp hop hk)
    · show (st.leaseCall op).leaseState.lastWireguardChangeVersion ≤ _
      rw [show (st.leaseCall op).leaseState.lastWireguardChangeVersion = _ from
        (applyOp_step op).1.wireguardVersion]
      exact le_trans h.wireguardVersion (by rw [show ((st.leaseCall op).removeEndpoint _).leaseState =
        (st.leaseCall op).leaseState from rfl, hv]; omega)
  | @connect peerId ip sender now hp =>
    refine ⟨h.lease.newer (Nat.le_succ _), fun a hw d => ?_, le_refl _⟩
    by_cases ha : a = ip
    · rw [ha]; exact h.lease.peer_ne_device hp
    · refine h.peers a ?_ d
      obtain ⟨p, c, he⟩ := isWireguardEndpoint_iff.mp hw
      simp only [HashMap.lookup_insert_if, if_neg ha] at he
      exact isWireguardEndpoint_iff.mpr ⟨p, c, he⟩
  | disconnect ip =>
    refine ⟨h.lease.newer (Nat.le_succ _), fun a hw d => ?_, le_refl _⟩
    exact h.peers a (isWireguardEndpoint_removeEndpoint.mp hw).2 d
  | remote sources => exact ⟨h.lease.newer (Nat.le_succ _), h.peers, le_refl _⟩

theorem net_effect (he : Effect st st') : st'.net = st.net := by
  cases he with
  | confirm ip randomId => rw [confirmRegistration_leaseState]
  | _ => rfl

theorem gateway_effect (he : Effect st st') : st'.gateway = st.gateway := by
  cases he with
  | confirm ip randomId => rw [confirmRegistration_leaseState]
  | _ => rfl

theorem Loaded.netInv (h : Loaded st) : NetInv st := by
  obtain ⟨networkCode, net, leaseDuration, devices, allocations, now, hd, rfl, hdis⟩ := h
  refine ⟨leaseInv_of_load hd rfl hdis, fun ip hw => ?_, ?_⟩
  · cases hw
  · rw [newFromDb, lastWireguardChangeVersion_load]
    exact Nat.zero_le _

/-- The invariant of every network but `255.255.255.255/32`, in which the search wraps. -/
theorem netInv_of_reach (h : networkSys.Reach st) (hnet : st.net.network ≠ Ipv4Addr.broadcast) :
    NetInv st :=
  h.invariant (I := fun st => st.net.network ≠ Ipv4Addr.broadcast → NetInv st)
    (fun _ h0 _ => Loaded.netInv h0)
    (fun st op st' hi hst hn => by
      have he : Effect st st' := by rw [hst]; exact apply_effect op
      rw [net_effect he] at hn
      exact (hi hn).effect hn he) hnet

theorem SameKinds.removeEndpoint (h : SameKinds st) (o : Option Ipv4Addr) :
    SameKinds (st.removeEndpoint o) := by
  intro ip
  simp only [NetworkState.removeEndpoint, HashMap.lookup_eraseOpt]
  split
  · rfl
  · exact h ip

/-- A sender and an endpoint of one kind at an address. -/
theorem SameKinds.insert (h : SameKinds st) {sender : NetworkSender}
    {endpoint : OnlineEndpoint} (hk : sender.isWireGuard = endpoint.isWireGuard)
    (lease : NetworkStateInner) :
    SameKinds { st with
      senderMap := st.senderMap.insert ip sender
      onlineEndpoints := st.onlineEndpoints.insert ip endpoint
      leaseState := lease } := by
  intro a
  simp only [HashMap.lookup_insert_if]
  split
  · simp [hk]
  · exact h a

theorem SameKinds.effect (h : SameKinds st) (he : Effect st st') : SameKinds st' := by
  cases he with
  | lease | remote => exact h
  | confirm ip randomId =>
    intro a
    rw [onlineEndpoints_confirm, confirmRegistration_leaseState]
    exact h a
  | register sender now hl ha => exact SameKinds.insert (h.removeEndpoint _) (by rfl) _
  | drop op hc hop d hv => exact @SameKinds.removeEndpoint (st.leaseCall op) h _
  | connect sender now hp => exact SameKinds.insert h (by rfl) _
  | disconnect ip => exact h.removeEndpoint (some ip)

/-! ## What clients are told about -/

/-- What a method does to the versions and to the WireGuard endpoints and addresses. -/
structure SyncStep (st st' : NetworkState) : Prop where
  version : NetworkStateInner.VersionStep st.leaseState st'.leaseState
  wireguardVersion :
    st'.leaseState.lastWireguardChangeVersion = st.leaseState.lastWireguardChangeVersion ∨
    st'.leaseState.lastWireguardChangeVersion = st.leaseState.dataVersion + 1
  /-- Without a new WireGuard version no peer appears; one may be replaced by a device. -/
  wireguard :
    st'.leaseState.lastWireguardChangeVersion = st.leaseState.lastWireguardChangeVersion →
    st'.leaseState.remoteWireguardSources = st.leaseState.remoteWireguardSources ∧
    ∀ a, st'.isWireguardEndpoint a = true → st.isWireguardEndpoint a = true
  /-- Without a new version nothing changes. -/
  idle : st'.leaseState.dataVersion = st.leaseState.dataVersion →
    st'.leaseState.remoteWireguardSources = st.leaseState.remoteWireguardSources ∧
    ∀ a, st'.isWireguardEndpoint a = st.isWireguardEndpoint a

/-- A change of the WireGuard endpoints or addresses has a new WireGuard version. -/
theorem SyncStep.of_wireguard (h : NetInv st)
    (hd : st'.leaseState.deviceMap = st.leaseState.deviceMap)
    (hv : st'.leaseState.dataVersion = st.leaseState.dataVersion + 1)
    (hw : st'.leaseState.lastWireguardChangeVersion = st.leaseState.dataVersion + 1) :
    SyncStep st st' where
  version := .bump hv fun d e he => .inl (by rwa [hd] at he)
  wireguardVersion := .inr hw
  wireguard hs := by have := h.wireguardVersion; omega
  idle hs := by omega

theorem Effect.syncStep (h : NetInv st) (he : Effect st st') : SyncStep st st' := by
  cases he with
  | lease op hc hop =>
    have hf : NetworkStateInner.OpFrame op.isVnt st.leaseState (st.leaseCall op).leaseState :=
      (applyOp_step op).1
    exact ⟨(applyOp_step op).2, .inl hf.wireguardVersion,
      fun _ => ⟨hf.remote, fun _ => id⟩, fun _ => ⟨hf.remote, fun _ => rfl⟩⟩
  | confirm ip randomId =>
    have hw : ∀ a, (st.confirmRegistration ip randomId).isWireguardEndpoint a =
        st.isWireguardEndpoint a := fun a =>
      isWireguardEndpoint_eq (onlineEndpoints_confirm ip randomId a)
    have hl : (st.confirmRegistration ip randomId).leaseState = st.leaseState := by
      rw [confirmRegistration_leaseState]
    exact ⟨by rw [hl]; exact .idle rfl rfl, .inl (by rw [hl]),
      fun _ => ⟨by rw [hl], fun a ha => by rwa [hw] at ha⟩, fun _ => ⟨by rw [hl], hw⟩⟩
  | @register req randomId lease ip old sender now hl ha =>
    obtain ⟨e, hm, -, -, -, -, hv⟩ := ha.entry
    refine ⟨.add ha.version hm hv, .inl ha.wireguardVersion, fun _ => ⟨ha.remote, fun a hw => ?_⟩,
      fun hs => ?_⟩
    · obtain ⟨p, c, hp⟩ := isWireguardEndpoint_iff.mp hw
      simp only [HashMap.lookup_insert_if] at hp
      split at hp
      · cases hp
      · have hw' : (st.removeEndpoint old).isWireguardEndpoint a = true :=
          isWireguardEndpoint_iff.mpr ⟨p, c, hp⟩
        exact (isWireguardEndpoint_removeEndpoint.mp hw').2
    · have : lease.dataVersion = st.leaseState.dataVersion := hs
      have := ha.version
      omega
  | drop op hc hop d hv =>
    have hf : NetworkStateInner.OpFrame op.isVnt st.leaseState (st.leaseCall op).leaseState :=
      (applyOp_step op).1
    refine ⟨(applyOp_step op).2, .inl hf.wireguardVersion,
      fun _ => ⟨hf.remote, fun a hw => (isWireguardEndpoint_removeEndpoint.mp hw).2⟩, fun hs => ?_⟩
    have hs' : (st.leaseCall op).leaseState.dataVersion = st.leaseState.dataVersion := hs
    omega
  | connect sender now hp | disconnect ip | remote sources => exact .of_wireguard h rfl rfl rfl

end NetworkState

end Vntc
