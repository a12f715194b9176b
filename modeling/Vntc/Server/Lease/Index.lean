import Vntc.Lib.Sys
import Vntc.Server.Lease.Alloc

/-!
# The index of the device addresses

`device_ip_map` is meant to be the reverse of the addresses in `device_map`, on the addresses that
a load indexes (`Usable`). The methods of the lease state run one at a time, in any order, with
any arguments (`leaseSys`). What they do to the two maps is said once, by `applyOp_table`, and what
they do to the rest by `applyOp_step`.

A usable address of a device is always indexed (`covers_of_reach`). The other half fails for one
kind of step: a device with an indexed address asks for another, the address is refused, and the
search answers instead. `searchIp` then leaves the old address in the index, unlike the branch of a
granted request. `IndexSafe` excludes exactly these steps, and the search in the network
`255.255.255.255/32`, whose first address wraps.
-/

namespace Vntc

open Lib DeviceEntry

/-- The methods of the lease state. -/
inductive LeaseOp
  | allocateIp (req : RegRequestMsg) (randomId : BitVec 64) (now : SystemTime)
  | offlineIp (networkCode deviceId : String) (ip : Ipv4Addr) (randomId : BitVec 64)
      (now : SystemTime)
  /-- `collect_expired_devices`, and `remove_devices` of what it finds. -/
  | expire (leaseDuration : Nat) (now : SystemTime)
  | removeDevices (deviceIds : List String)
  | removeDeviceFromMemory (deviceId : String)
  | releasePreRegisteredIp (deviceId : String) (ip : Ipv4Addr) (randomId : BitVec 64)
  | prepareReservation (peerId : String) (ip : Ipv4Addr)
  | commitReservation (peerId : String) (ip : Ipv4Addr) (previousIp : Option Ipv4Addr)
  | rollbackReservation (peerId : String) (ip : Ipv4Addr) (previousIp : Option Ipv4Addr)
  | releaseWireguardPeerIp (peerId : String)

/-- The methods for devices. -/
def LeaseOp.isVnt : LeaseOp → Bool
  | .allocateIp .. | .offlineIp .. | .expire .. | .removeDevices .. | .removeDeviceFromMemory ..
  | .releasePreRegisteredIp .. => true
  | .prepareReservation .. | .commitReservation .. | .rollbackReservation ..
  | .releaseWireguardPeerIp .. => false

/-- The rows of a load have distinct ids and distinct addresses. -/
def DistinctDevices (records : List DeviceRecord) : Prop :=
  records.Pairwise fun r r' => r.deviceId ≠ r'.deviceId ∧ ∀ ip, r.ip = some ip → r'.ip ≠ some ip

/-- A registration of a client that accepts any address. -/
def anyIpReq (deviceId : String) (ip : Option Ipv4Addr) : RegRequestMsg where
  deviceId := deviceId
  ip := ip
  name := deviceId
  version := "2.0.0"
  keySign := none
  ipVariable := true
  registrationMode := .normal
  allowWireGuard := false
  clientCapabilities := 0

namespace NetworkStateInner

variable (net : Ipv4Net) (gateway : Ipv4Addr)

/-- One method call; a refused call changes nothing. -/
def applyOp (s : NetworkStateInner) : LeaseOp → NetworkStateInner
  | .allocateIp req randomId now =>
    match s.allocateIp net gateway req randomId now with
    | .ok (s', _, _) => s'
    | .error _ => s
  | .offlineIp networkCode d ip randomId now => (s.offlineIp networkCode d ip randomId now).1
  | .expire leaseDuration now => s.removeDevices (s.collectExpiredDevices leaseDuration now)
  | .removeDevices ids => s.removeDevices ids
  | .removeDeviceFromMemory d => (s.removeDeviceFromMemory d).1
  | .releasePreRegisteredIp d ip randomId => (s.releasePreRegisteredIp d ip randomId).1
  | .prepareReservation peerId ip =>
    match s.prepareWireguardPeerIpReservation peerId ip with
    | .ok (s', _) => s'
    | .error _ => s
  | .commitReservation peerId ip previous => s.commitWireguardPeerIpReservation peerId ip previous
  | .rollbackReservation peerId ip previous =>
    s.rollbackWireguardPeerIpReservation peerId ip previous
  | .releaseWireguardPeerIp peerId => (s.releaseWireguardPeerIp peerId).1

/-- The states that a load leaves, from rows with distinct ids and addresses. -/
def Loaded (s : NetworkStateInner) : Prop :=
  ∃ devices allocations now, DistinctDevices (devices.getD []) ∧
    s = buildInitialInnerState net gateway devices allocations now

/-- The lease state of a network after a load. -/
def leaseSys : Sys NetworkStateInner LeaseOp := Sys.ofFun (Loaded net gateway) (applyOp net gateway)

/-- The registration does not search an address while the index has an address of the device, nor
in the network whose first address wraps. -/
def IndexSafe (s : NetworkStateInner) : LeaseOp → Prop
  | .allocateIp req _ _ =>
    s.Searches net gateway req → (∃ ip ∈ net.hosts, ip ≠ gateway ∧ s.Free ip) →
      net.network ≠ Ipv4Addr.broadcast ∧
      ∀ old, s.leaseOf req.deviceId = some old → ¬ Usable net gateway old
  | _ => True

/-! ## What a method does to the table -/

/-- The tables that a method can leave. -/
inductive TableStep (s : NetworkStateInner) : LeaseOp → Ownership String Ipv4Addr → Prop
  | same {op : LeaseOp} : TableStep s op s.table
  | revoke {op : LeaseOp} (ids : List String) : TableStep s op (ids.foldl Ownership.revoke s.table)
  | move {req : RegRequestMsg} {randomId : BitVec 64} {now : SystemTime} {ip : Ipv4Addr}
      (h : s.Grants net gateway req ip) :
      TableStep s (.allocateIp req randomId now) (s.table.move req.deviceId ip)
  | assign {req : RegRequestMsg} {randomId : BitVec 64} {now : SystemTime} {ip : Ipv4Addr}
      (h : s.Searches net gateway req) (hf : s.findAvailableIp net gateway = some ip) :
      TableStep s (.allocateIp req randomId now) (s.table.assign req.deviceId ip)

variable {net gateway} {s : NetworkStateInner}

theorem applyOp_table (op : LeaseOp) :
    TableStep net gateway s op (s.applyOp net gateway op).table := by
  cases op with
  | allocateIp req randomId now =>
    simp only [applyOp]
    cases h : s.allocateIp net gateway req randomId now with
    | error => exact .same
    | ok r =>
      obtain ⟨s', ip, old⟩ := r
      obtain ⟨-, ht⟩ | ⟨hg, ht⟩ | ⟨hs, hf, ht⟩ := (allocateIp_ok h).table_cases
      · rw [ht]; exact .same
      · rw [ht]; exact .move hg
      · rw [ht]; exact .assign hs hf
  | offlineIp networkCode d ip randomId now =>
    rw [applyOp, table_offlineIp]; exact .same
  | expire leaseDuration now | removeDevices ids =>
    rw [applyOp, table_removeDevices]; exact .revoke _
  | removeDeviceFromMemory d =>
    rw [applyOp, table_removeDeviceFromMemory]; exact .revoke [d]
  | releasePreRegisteredIp d ip randomId =>
    obtain ⟨e, -, -, -, ht⟩ | ht := s.releasePreRegisteredIp_cases d ip randomId
    · rw [applyOp, ht]; exact .revoke [d]
    · rw [applyOp, ht]; exact .same
  | prepareReservation peerId ip =>
    simp only [applyOp]
    cases h : s.prepareWireguardPeerIpReservation peerId ip with
    | error => exact .same
    | ok r => obtain ⟨-, -, -, hr⟩ := prepare_ok h; simp only [hr]; exact .same
  | commitReservation peerId ip previous => rw [applyOp, table_commit]; exact .same
  | rollbackReservation peerId ip previous => rw [applyOp, table_rollback]; exact .same
  | releaseWireguardPeerIp peerId => exact .same

/-- What the methods leave alone. -/
structure OpFrame (vnt : Bool) (s s' : NetworkStateInner) : Prop where
  wireguardVersion : s'.lastWireguardChangeVersion = s.lastWireguardChangeVersion
  remote : s'.remoteWireguardSources = s.remoteWireguardSources
  /-- A method for devices does not touch the peers. -/
  peers : vnt = true → s'.wireguardPeerIpMap = s.wireguardPeerIpMap
  /-- A method for peers does not touch the devices. -/
  devices : vnt = false → s'.deviceIpMap = s.deviceIpMap

/-- How a method changes the versions: not at all, with all devices as they were, or by one, with
the new version on every device that changed. -/
inductive VersionStep (s s' : NetworkStateInner) : Prop
  | idle (hv : s'.dataVersion = s.dataVersion) (hd : s'.deviceMap = s.deviceMap)
  | bump (hv : s'.dataVersion = s.dataVersion + 1)
      (hd : ∀ d e, s'.deviceMap.lookup d = some e →
        s.deviceMap.lookup d = some e ∨ e.dataVersion = s.dataVersion + 1)

variable {s' : NetworkStateInner} {d : String} {e : DeviceEntry}

theorem OpFrame.of_devices (hv : s'.lastWireguardChangeVersion = s.lastWireguardChangeVersion)
    (hr : s'.remoteWireguardSources = s.remoteWireguardSources)
    (hp : s'.wireguardPeerIpMap = s.wireguardPeerIpMap) : OpFrame true s s' :=
  ⟨hv, hr, fun _ => hp, nofun⟩

theorem OpFrame.of_peers (hv : s'.lastWireguardChangeVersion = s.lastWireguardChangeVersion)
    (hr : s'.remoteWireguardSources = s.remoteWireguardSources)
    (hd : s'.deviceIpMap = s.deviceIpMap) : OpFrame false s s' :=
  ⟨hv, hr, nofun, fun _ => hd⟩

theorem VersionStep.add (hv : s'.dataVersion = s.dataVersion + 1)
    (hm : s'.deviceMap = s.deviceMap.add e) (he : e.dataVersion = s.dataVersion + 1) :
    VersionStep s s' := by
  refine .bump hv fun d f hf => ?_
  rw [hm, DeviceMap.lookup_add] at hf
  split at hf
  · cases hf; exact .inr he
  · exact .inl hf

theorem VersionStep.remove (hv : s'.dataVersion = s.dataVersion + 1)
    (hm : s'.deviceMap = s.deviceMap.remove d) : VersionStep s s' := by
  refine .bump hv fun k f hf => ?_
  rw [hm, DeviceMap.lookup_remove] at hf
  split at hf
  · cases hf
  · exact .inl hf

/-- A refused call. -/
theorem step_refl (vnt : Bool) : OpFrame vnt s s ∧ VersionStep s s :=
  ⟨⟨rfl, rfl, fun _ => rfl, fun _ => rfl⟩, .idle rfl rfl⟩

/-- Removing devices keeps the others and the version. -/
theorem removeDevice_foldl (ids : List String) (s : NetworkStateInner) :
    OpFrame true s (ids.foldl removeDevice s) ∧
      (ids.foldl removeDevice s).dataVersion = s.dataVersion ∧
      ∀ d e, (ids.foldl removeDevice s).deviceMap.lookup d = some e →
        s.deviceMap.lookup d = some e := by
  induction ids generalizing s with
  | nil => exact ⟨(step_refl true).1, rfl, fun _ _ => id⟩
  | cons k ids ih =>
    rw [List.foldl_cons, removeDevice]
    cases s.deviceMap.lookup k with
    | none => exact ih s
    | some entry =>
      obtain ⟨hi, hv, hd⟩ := ih { s with
        deviceMap := s.deviceMap.remove k, deviceIpMap := s.deviceIpMap.eraseOpt entry.ip }
      refine ⟨.of_devices hi.wireguardVersion hi.remote (hi.peers rfl), hv, fun d e he => ?_⟩
      have hr := hd d e he
      rw [DeviceMap.lookup_remove] at hr
      split at hr
      · cases hr
      · exact hr

theorem removeDevices_step (ids : List String) :
    OpFrame true s (s.removeDevices ids) ∧ VersionStep s (s.removeDevices ids) := by
  unfold removeDevices
  split
  · exact step_refl true
  · obtain ⟨hi, hv, hd⟩ := removeDevice_foldl ids { s with dataVersion := s.dataVersion + 1 }
    exact ⟨.of_devices hi.wireguardVersion hi.remote (hi.peers rfl),
      .bump hv fun d e he => .inl (hd d e he)⟩

theorem applyOp_step (op : LeaseOp) :
    OpFrame op.isVnt s (s.applyOp net gateway op) ∧ VersionStep s (s.applyOp net gateway op) := by
  cases op with
  | allocateIp req randomId now =>
    simp only [applyOp]
    cases h : s.allocateIp net gateway req randomId now with
    | error => exact step_refl true
    | ok r =>
      have ha := allocateIp_ok h
      obtain ⟨e, hm, -, -, -, -, he⟩ := ha.entry
      exact ⟨.of_devices ha.wireguardVersion ha.remote ha.wireguard, .add ha.version hm he⟩
  | offlineIp networkCode d ip randomId now =>
    simp only [applyOp, offlineIp]
    split
    · exact step_refl true
    · split
      · exact step_refl true
      · split
        · exact step_refl true
        · exact ⟨.of_devices rfl rfl rfl, .add rfl rfl rfl⟩
  | expire leaseDuration now => exact removeDevices_step _
  | removeDevices ids => exact removeDevices_step ids
  | removeDeviceFromMemory d =>
    simp only [applyOp, removeDeviceFromMemory]
    split
    · exact step_refl true
    · exact ⟨.of_devices rfl rfl rfl, .remove rfl rfl⟩
  | releasePreRegisteredIp d ip randomId =>
    simp only [applyOp, releasePreRegisteredIp]
    split
    · exact step_refl true
    · split
      · exact ⟨.of_devices rfl rfl rfl, .remove rfl rfl⟩
      · exact step_refl true
  | prepareReservation peerId ip =>
    simp only [applyOp]
    cases h : s.prepareWireguardPeerIpReservation peerId ip with
    | error => exact step_refl false
    | ok r =>
      obtain ⟨-, -, -, hr⟩ := prepare_ok h
      simp only [hr]
      exact ⟨.of_peers rfl rfl rfl, .idle rfl rfl⟩
  | commitReservation peerId ip previous =>
    simp only [applyOp, commitWireguardPeerIpReservation]
    split
    · exact step_refl false
    · split
      · exact ⟨.of_peers rfl rfl rfl, .idle rfl rfl⟩
      · exact step_refl false
  | rollbackReservation peerId ip previous =>
    simp only [applyOp, rollbackWireguardPeerIpReservation]
    split
    · exact ⟨.of_peers rfl rfl rfl, .idle rfl rfl⟩
    · exact step_refl false
  | releaseWireguardPeerIp peerId => exact ⟨.of_peers rfl rfl rfl, .idle rfl rfl⟩

variable {ip : Ipv4Addr} {req : RegRequestMsg}

theorem Free.owner_none (h : s.Free ip) : s.table.owner ip = none := h.1

/-- A granted address is usable and free. -/
theorem Grants.usable (h : s.Grants net gateway req ip) : Usable net gateway ip ∧ s.Free ip := by
  have := h.2.2
  simp only [Refused, not_or, Decidable.not_not, Bool.not_eq_false] at this
  exact ⟨⟨this.2.1, fun e => this.1 e.symm⟩, this.2.2⟩

/-- A searched address is usable, unless the search wraps. -/
theorem usable_findAvailableIp (h : s.findAvailableIp net gateway = some ip) :
    Usable net gateway ip ↔ net.network ≠ Ipv4Addr.broadcast := by
  obtain ⟨hm, hg, -⟩ := findAvailableIp_some h
  rw [← net.contains_of_mem_hosts hm]
  exact ⟨fun hu => hu.1, fun hc => ⟨hc, fun e => hg e.symm⟩⟩

/-! ## Loading -/

theorem table_loadPeers (l : List WireGuardPeerIpAllocation) (s : NetworkStateInner) :
    (l.foldl (loadPeer net gateway) s).table = s.table := by
  induction l generalizing s with
  | nil => rfl
  | cons a l ih =>
    rw [List.foldl_cons, ih]
    unfold loadPeer
    split <;> rfl

/-- A loaded device is in the index if its address is usable. -/
theorem table_loadDevice (now : SystemTime) (r : DeviceRecord) :
    (loadDevice net gateway now s r).table =
      match (fromRecord r now).ip with
      | none => s.table.hold r.deviceId none
      | some ip =>
        if Usable net gateway ip then s.table.assign r.deviceId ip
        else s.table.hold r.deviceId (some ip) := by
  have hheld := s.leaseOf_add (fromRecord r now)
  cases hip : (fromRecord r now).ip with
  | none =>
    ext1
    · exact hheld.trans (by rw [hip]; rfl)
    · simp only [table, loadDevice, hip]; rfl
  | some ip =>
    simp only
    split
    · rename_i hu
      ext1
      · exact hheld.trans (by rw [hip]; rfl)
      · simp only [table, loadDevice, hip, hu, if_true]
        exact HashMap.lookup_insert_update s.deviceIpMap ip _
    · rename_i hu
      ext1
      · exact hheld.trans (by rw [hip]; rfl)
      · simp only [table, loadDevice, hip, hu, if_false]; rfl

/-- The rows of different addresses are read as different addresses. -/
theorem fromRecord_ip_ne {now : SystemTime} {r r' : DeviceRecord}
    (h : ∀ t, r.ip = some t → r'.ip ≠ some t) (hr : (fromRecord r now).ip = some ip) :
    (fromRecord r' now).ip ≠ some ip := by
  intro hr'
  obtain ⟨t, ht, hp⟩ := Option.bind_eq_some_iff.mp hr
  obtain ⟨t', ht', hp'⟩ := Option.bind_eq_some_iff.mp hr'
  rw [Ipv4Addr.parse_eq_some_iff] at hp hp'
  exact h t ht (by rw [ht', hp', hp])

/-- Loading distinct devices keeps the index right: the induction needs that the rows still to
load are not in the maps. -/
theorem exact_loadDevices (now : SystemTime) (l : List DeviceRecord) (hd : DistinctDevices l)
    (s : NetworkStateInner) (hs : s.table.Exact (Usable net gateway))
    (hnew : ∀ r ∈ l, s.leaseOf r.deviceId = none ∧
      ∀ ip, (fromRecord r now).ip = some ip → s.table.owner ip = none) :
    (l.foldl (loadDevice net gateway now) s).table.Exact (Usable net gateway) := by
  induction l generalizing s with
  | nil => exact hs
  | cons r l ih =>
    rw [DistinctDevices, List.pairwise_cons] at hd
    obtain ⟨hl, ho⟩ := hnew r (by simp)
    have hheld : ∀ b, s.table.held r.deviceId = some b → ¬ Usable net gateway b :=
      fun b hb => by rw [show s.table.held r.deviceId = none from hl] at hb; cases hb
    refine ih hd.2 _ ?_ fun r' hr' => ⟨?_, fun ip hip => ?_⟩
    · rw [table_loadDevice]
      cases hip : (fromRecord r now).ip with
      | none => exact hs.hold hheld (by simp)
      | some ip =>
        simp only
        split
        · rename_i hu
          exact (hs.assign_iff (ho ip hip)).mpr ⟨hu, hheld⟩
        · rename_i hu
          exact hs.hold hheld (fun b hb => by cases hb; exact hu)
    · have hne : r'.deviceId ≠ r.deviceId := (hd.1 r' hr').1.symm
      have := congrFun (s.leaseOf_add (fromRecord r now)) r'.deviceId
      refine this.trans ?_
      rw [Function.update_of_ne (by exact hne)]
      exact (hnew r' (by simp [hr'])).1
    · have hfree := (hnew r' (by simp [hr'])).2 ip hip
      rw [table_loadDevice]
      cases hrip : (fromRecord r now).ip with
      | none => exact hfree
      | some a =>
        simp only
        split
        · have hne : ip ≠ a := fun e =>
            fromRecord_ip_ne (hd.1 r' hr').2 (hrip.trans (by rw [e])) hip
          rw [Ownership.assign_owner_ne hne, hfree]
        · exact hfree

theorem Loaded.exact (h : Loaded net gateway s) : s.table.Exact (Usable net gateway) := by
  obtain ⟨devices, allocations, now, hd, rfl⟩ := h
  unfold buildInitialInnerState
  rw [table_loadPeers]
  refine exact_loadDevices now _ hd empty ?_ fun _ _ => ⟨rfl, fun _ _ => rfl⟩
  intro a d
  simp [table, leaseOf, empty, DeviceMap.lookup, DeviceMap.empty]

/-! ## Runs -/

/-- The index always covers the usable addresses. -/
theorem covers_step (op : LeaseOp) (h : s.table.Covers (Usable net gateway)) :
    (s.applyOp net gateway op).table.Covers (Usable net gateway) := by
  generalize ht : (s.applyOp net gateway op).table = t
  have hst : TableStep net gateway s op _ := applyOp_table op
  rw [ht] at hst
  cases hst with
  | same => exact h
  | revoke ids => exact h.revokeAll ids
  | move hg => exact h.move hg.usable.2.owner_none
  | assign hs hf => exact h.assign (findAvailableIp_some hf).2.2.owner_none

/-- In every state of every run a device's usable address is indexed under the device, so no two
devices hold one usable address. -/
theorem covers_of_reach (h : (leaseSys net gateway).Reach s) :
    s.table.Covers (Usable net gateway) :=
  h.invariant (I := fun s => s.table.Covers (Usable net gateway))
    (fun _ hl => (Ownership.exact_iff.mp (Loaded.exact hl)).1)
    fun _ op _ hi hst => by rw [hst]; exact covers_step op hi

/-- A step that does not search keeps the index right. -/
theorem exact_step {op : LeaseOp} (h : s.table.Exact (Usable net gateway))
    (hop : ∀ req randomId now ip, op = .allocateIp req randomId now →
      s.Searches net gateway req → s.findAvailableIp net gateway ≠ some ip) :
    (s.applyOp net gateway op).table.Exact (Usable net gateway) := by
  generalize ht : (s.applyOp net gateway op).table = t
  have hst : TableStep net gateway s op _ := applyOp_table op
  rw [ht] at hst
  cases hst with
  | same => exact h
  | revoke ids => exact h.revokeAll ids
  | move hg => exact h.move hg.usable.2.owner_none hg.usable.1
  | assign hs hf => exact (hop _ _ _ _ rfl hs hf).elim

/-- A searched address is assigned on top of what the device had. -/
theorem table_of_searches (hs : s.Searches net gateway req)
    (hf : s.findAvailableIp net gateway = some ip) (randomId : BitVec 64) (now : SystemTime) :
    (s.applyOp net gateway (.allocateIp req randomId now)).table =
      s.table.assign req.deviceId ip := by
  obtain ⟨s', old, hok⟩ := allocateIp_of_searches hs hf randomId now
  rw [applyOp, hok]
  -- A device that keeps its address, or gets the one it asks for, does not search.
  obtain ⟨⟨hl, hr⟩, -⟩ | ⟨hg, -⟩ | ⟨-, -, ht⟩ := (allocateIp_ok hok).table_cases
  · exfalso
    rcases hr with hr | hr <;> simp only [Searches, hr] at hs
    · rw [hl] at hs; cases hs
    · exact hs.1 hl
  · exfalso
    simp only [Searches, hg.1] at hs
    exact hg.2.2 hs.2.1
  · exact ht

/-- A step keeps the index right exactly if it does not leave an indexed address behind for a
searched one. -/
theorem exact_step_iff (h : s.table.Exact (Usable net gateway)) (op : LeaseOp) :
    (s.applyOp net gateway op).table.Exact (Usable net gateway) ↔ s.IndexSafe net gateway op := by
  cases op with
  | allocateIp req randomId now =>
    by_cases hs : s.Searches net gateway req
    · cases hf : s.findAvailableIp net gateway with
      | some ip =>
        obtain ⟨hm, hg, hfree⟩ := findAvailableIp_some hf
        rw [table_of_searches hs hf, h.assign_iff hfree.owner_none, usable_findAvailableIp hf]
        exact ⟨fun hr _ _ => hr, fun hr => hr hs ⟨ip, hm, hg, hfree⟩⟩
      | none =>
        refine iff_of_true (exact_step h fun _ _ _ ip _ _ => by simp [hf]) ?_
        rintro - ⟨ip, hm, hg, hfree⟩
        exact (findAvailableIp_none hf hm hg hfree).elim
    · refine iff_of_true (exact_step h fun _ _ _ _ e hs' => ?_) fun hs' => (hs hs').elim
      cases e
      exact (hs hs').elim
  | _ => exact iff_of_true (exact_step h fun _ _ _ _ e => by cases e) trivial

theorem exact_of_reachWith (h : (leaseSys net gateway).ReachWith (IndexSafe net gateway) s) :
    s.table.Exact (Usable net gateway) :=
  h.invariant_of (I := fun s => s.table.Exact (Usable net gateway)) (fun _ => Loaded.exact)
    fun _ op hi hc => (exact_step_iff hi op).mpr hc

theorem leaseOf_eq_some {d : String} :
    s.leaseOf d = some ip ↔ ∃ e, s.deviceMap.lookup d = some e ∧ e.ip = some ip :=
  Option.bind_eq_some_iff

/-- **The lease table.** In every run whose steps are `IndexSafe`, an address is indexed under a
device exactly if the device holds it and it is usable, so no usable address has two holders. A
step from such a state breaks the table exactly if it is not `IndexSafe`. -/
theorem lease_table_exact (net : Ipv4Net) :
    (∀ s, (leaseSys net (gatewayOf net)).ReachWith (IndexSafe net (gatewayOf net)) s →
      (∀ ip d, s.deviceIpMap.lookup ip = some d ↔
        (∃ e, s.deviceMap.lookup d = some e ∧ e.ip = some ip) ∧ Usable net (gatewayOf net) ip) ∧
      ∀ ip d d', Usable net (gatewayOf net) ip → s.leaseOf d = some ip → s.leaseOf d' = some ip →
        d = d') ∧
    ∀ (s : NetworkStateInner) (op : LeaseOp), s.table.Exact (Usable net (gatewayOf net)) →
      ((s.applyOp net (gatewayOf net) op).table.Exact (Usable net (gatewayOf net)) ↔
        s.IndexSafe net (gatewayOf net) op) := by
  refine ⟨fun s h => ?_, fun s op h => exact_step_iff h op⟩
  have hx := exact_of_reachWith h
  refine ⟨fun ip d => ?_, fun ip d d' hu hd hd' => ?_⟩
  · rw [← leaseOf_eq_some]; exact hx ip d
  · exact (Ownership.exact_iff.mp hx).1.unique hd hd' hu

theorem empty_loaded : Loaded net gateway empty :=
  ⟨none, none, 0, List.Pairwise.nil, rfl⟩

/-- Three devices register, and one of them asks for an address. This one goes offline, and another
one is removed. -/
def threeDevices : List LeaseOp :=
  [.allocateIp (anyIpReq "laptop" none) 7 0,
    .allocateIp (anyIpReq "phone" (some (homeIp 9))) 8 1,
    .allocateIp (anyIpReq "tablet" none) 9 2,
    .offlineIp "home" "phone" (homeIp 9) 8 3,
    .removeDevices ["tablet"]]

/-- A device without an address may register. -/
theorem indexSafe_of_leaseOf {req : RegRequestMsg} {randomId : BitVec 64} {now : SystemTime}
    (hn : net.network ≠ Ipv4Addr.broadcast) (h : s.leaseOf req.deviceId = none) :
    s.IndexSafe net gateway (.allocateIp req randomId now) :=
  fun _ _ => ⟨hn, fun old ho => by rw [h] at ho; cases ho⟩

theorem reachWith_threeDevices :
    (leaseSys defaultNet (homeIp 1)).ReachWith (IndexSafe defaultNet (homeIp 1))
      (threeDevices.foldl (applyOp defaultNet (homeIp 1)) empty) := by
  have hn : defaultNet.network ≠ Ipv4Addr.broadcast := by decide
  exact Sys.ReachWith.foldl (.init empty_loaded)
    ⟨indexSafe_of_leaseOf hn (by decide), indexSafe_of_leaseOf hn (by decide),
      indexSafe_of_leaseOf hn (by decide), trivial, trivial, trivial⟩

theorem lease_table_exact_two_devices :
    ∃ s, (leaseSys defaultNet (homeIp 1)).ReachWith
        (IndexSafe defaultNet (homeIp 1)) s ∧
      s.deviceIpMap.lookup (homeIp 2) = some "laptop" ∧
      (∃ e, s.deviceMap.lookup "phone" = some e ∧ e.ip = some (homeIp 9)) ∧
      ∀ d, s.leaseOf d = some (homeIp 2) → d = "laptop" := by
  obtain ⟨hx, hu⟩ := (lease_table_exact defaultNet).1 _ reachWith_threeDevices
  exact ⟨_, reachWith_threeDevices, by decide, ((hx _ _).mp (by decide)).1,
    fun d hd => hu _ _ _ (by decide) hd (by decide)⟩

/-- A device at `10.26.0.2` asks for the gateway's address, and accepts any other: it gets
`10.26.0.3`, and the index still has `10.26.0.2` under it. -/
theorem lease_table_stale :
    ∃ s, (leaseSys defaultNet (homeIp 1)).Reach s ∧
      s.deviceIpMap.lookup (homeIp 2) = some "laptop" ∧
      s.leaseOf "laptop" = some (homeIp 3) ∧
      ¬ ∀ ip d, s.deviceIpMap.lookup ip = some d ↔
        (∃ e, s.deviceMap.lookup d = some e ∧ e.ip = some ip) ∧
          Usable defaultNet (homeIp 1) ip := by
  have hr : (leaseSys defaultNet (homeIp 1)).Reach
      ((empty.applyOp defaultNet (homeIp 1)
        (.allocateIp (anyIpReq "laptop" none) 7 0)).applyOp defaultNet (homeIp 1)
        (.allocateIp (anyIpReq "laptop" (some (homeIp 1))) 8 1)) :=
    ((Sys.Reach.init empty_loaded).next _ rfl).next _ rfl
  refine ⟨_, hr, by decide, by decide, fun h => ?_⟩
  have := ((h (homeIp 2) "laptop").mp (by decide)).1
  exact absurd this (by decide)

end NetworkStateInner

end Vntc
