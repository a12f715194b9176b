import Vntc.Server.Lease.Reserve

/-!
# Invariants of the lease state

What holds in every state that the callers of the lease state produce: addresses are indexed, no
address is a device's and a peer's, no two devices have one address, and no device is newer than
the state. The callers reserve usable addresses only (`LeaseOp.Checked`).

`LeaseInv.step`: every method keeps the invariant.
-/

namespace Vntc

open Lib

/-- The callers check the address of a reservation before they block it. -/
def LeaseOp.Checked (net : Ipv4Net) (gateway : Ipv4Addr) : LeaseOp → Prop
  | .prepareReservation _ ip => Usable net gateway ip
  | _ => True

namespace NetworkStateInner

variable {net : Ipv4Net} {gateway : Ipv4Addr} {s s' : NetworkStateInner}

variable {e : DeviceEntry} {d p : String} {ip : Ipv4Addr} {op : LeaseOp}
  {allocations : Option (List WireGuardPeerIpAllocation)} {devices : Option (List DeviceRecord)}
  {now : SystemTime}

/-! ## The invariant -/

/-- What every lease state of a run has. -/
structure LeaseInv (net : Ipv4Net) (gateway : Ipv4Addr) (s : NetworkStateInner) : Prop where
  covers : s.table.Covers (Usable net gateway)
  disjoint : ∀ ip, s.deviceIpMap.lookup ip = none ∨ s.wireguardPeerIpMap.lookup ip = none
  peerUsable : ∀ ip p, s.wireguardPeerIpMap.lookup ip = some p → Usable net gateway ip
  /-- Also an unusable address has one device at most. -/
  unique : s.table.Unique
  versions : ∀ d e, s.deviceMap.lookup d = some e → e.dataVersion ≤ s.dataVersion

/-- A peer's address is no device's, not even of a device that keeps it from its row. -/
theorem LeaseInv.peer_ne_device (h : LeaseInv net gateway s)
    (hp : s.wireguardPeerIpMap.lookup ip = some p) : s.leaseOf d ≠ some ip := by
  intro hd
  have ho : s.deviceIpMap.lookup ip = some d := h.covers ip d hd (h.peerUsable ip p hp)
  rcases h.disjoint ip with hn | hn
  · rw [ho] at hn; cases hn
  · rw [hp] at hn; cases hn

/-- A peer gets an address only by a reservation, which finds it free of devices. -/
theorem peer_of_applyOp {a : Ipv4Addr}
    (h : (s.applyOp net gateway op).wireguardPeerIpMap.lookup a = some p) :
    s.wireguardPeerIpMap.lookup a = some p ∨
      (op = .prepareReservation p a ∧ s.deviceIpMap.lookup a = none) := by
  cases op with
  | prepareReservation q ip =>
    simp only [applyOp] at h
    cases hr : s.prepareWireguardPeerIpReservation q ip with
    | error => rw [hr] at h; exact .inl h
    | ok r =>
      obtain ⟨hf, -, -, he⟩ := prepare_ok hr
      rw [hr] at h
      simp only [he, HashMap.lookup_insert_if] at h
      split at h
      · rename_i ha; cases h; exact .inr ⟨by rw [ha], ha ▸ hf⟩
      · exact .inl h
  | commitReservation q ip previous =>
    rw [applyOp, ReserveState.commit_lookup] at h
    split at h
    · cases h
    · exact .inl h
  | rollbackReservation q ip previous =>
    rw [applyOp, ReserveState.rollback_lookup] at h
    split at h
    · cases h
    · exact .inl h
  | releaseWireguardPeerIp q => exact .inl ((ReserveState.release_lookup s q p a).mp h).1
  | _ => exact .inl (by rwa [(applyOp_step _).1.peers rfl] at h)

/-- No method gives a device an address that another device has. -/
theorem unique_step (hnet : net.network ≠ Ipv4Addr.broadcast) (h : LeaseInv net gateway s)
    (op : LeaseOp) : (s.applyOp net gateway op).table.Unique := by
  generalize ht : (s.applyOp net gateway op).table = t
  have hst : TableStep net gateway s op _ := applyOp_table op
  rw [ht] at hst
  cases hst with
  | same => exact h.unique
  | revoke ids => exact h.unique.revokeAll ids
  | move hg => exact h.unique.move (h.covers.held_ne hg.usable.2.owner_none hg.usable.1)
  | assign hs hf =>
    exact h.unique.assign (h.covers.held_ne (findAvailableIp_some hf).2.2.owner_none
      ((usable_findAvailableIp hf).mpr hnet))

theorem VersionStep.versions_le (h : VersionStep s s')
    (hv : ∀ d e, s.deviceMap.lookup d = some e → e.dataVersion ≤ s.dataVersion) (d : String)
    (e : DeviceEntry) (he : s'.deviceMap.lookup d = some e) : e.dataVersion ≤ s'.dataVersion := by
  cases h with
  | idle h1 h2 => rw [h1]; rw [h2] at he; exact hv d e he
  | bump h1 h2 =>
    rcases h2 d e he with ho | hn
    · have := hv d e ho; omega
    · omega

theorem LeaseInv.step (hnet : net.network ≠ Ipv4Addr.broadcast) (h : LeaseInv net gateway s)
    (hop : op.Checked net gateway) : LeaseInv net gateway (s.applyOp net gateway op) where
  covers := covers_step op h.covers
  disjoint ip := by
    cases hv : op.isVnt with
    | true =>
      rw [(applyOp_step op).1.peers hv]
      cases hd : (s.applyOp net gateway op).deviceIpMap.lookup ip with
      | none => exact .inl rfl
      | some d =>
        rcases ReserveState.owner_of_applyOp hd with hd | hf
        · exact .inr ((h.disjoint ip).resolve_left (by rw [hd]; simp))
        · exact .inr hf.2
    | false =>
      rw [(applyOp_step op).1.devices hv]
      cases hw : (s.applyOp net gateway op).wireguardPeerIpMap.lookup ip with
      | none => exact .inr rfl
      | some p =>
        rcases peer_of_applyOp hw with hp | ⟨-, hd⟩
        · exact .inl ((h.disjoint ip).resolve_right (by rw [hp]; simp))
        · exact .inl hd
  peerUsable ip p hw := by
    rcases peer_of_applyOp hw with hp | ⟨rfl, -⟩
    · exact h.peerUsable ip p hp
    · exact hop
  unique := unique_step hnet h op
  versions := (applyOp_step op).2.versions_le h.versions

/-- The version may grow without a change. -/
theorem LeaseInv.newer (h : LeaseInv net gateway s) {version wireguardVersion : Nat}
    {sources : HashMap String (HashSet Ipv4Addr)} (hv : s.dataVersion ≤ version) :
    LeaseInv net gateway { s with
      dataVersion := version, lastWireguardChangeVersion := wireguardVersion
      remoteWireguardSources := sources } :=
  ⟨h.covers, h.disjoint, h.peerUsable, h.unique, fun d e he => le_trans (h.versions d e he) hv⟩

theorem VersionStep.le (h : VersionStep s s') : s.dataVersion ≤ s'.dataVersion := by
  cases h <;> omega

/-! ## Loading -/

/-- The devices of a load are those of the rows. -/
theorem mem_of_loadDevices (now : SystemTime) (l : List DeviceRecord) (s : NetworkStateInner)
    (h : (l.foldl (loadDevice net gateway now) s).deviceMap.lookup d = some e) :
    s.deviceMap.lookup d = some e ∨ ∃ r ∈ l, e = DeviceEntry.fromRecord r now := by
  induction l generalizing s with
  | nil => exact .inl h
  | cons r l ih =>
    rcases ih _ h with h | ⟨r', hr', he⟩
    · simp only [loadDevice, DeviceMap.lookup_add] at h
      split at h
      · cases h; exact .inr ⟨r, by simp, rfl⟩
      · exact .inl h
    · exact .inr ⟨r', by simp [hr'], he⟩

theorem deviceMap_loadPeers (l : List WireGuardPeerIpAllocation) (s : NetworkStateInner) :
    (l.foldl (loadPeer net gateway) s).deviceMap = s.deviceMap := by
  induction l generalizing s with
  | nil => rfl
  | cons a l ih =>
    rw [List.foldl_cons, ih]
    unfold loadPeer
    split <;> rfl

/-- Every device of a load has a row. -/
theorem row_of_load
    (h : (buildInitialInnerState net gateway devices allocations now).deviceMap.lookup d = some e) :
    ∃ r ∈ devices.getD [], e = DeviceEntry.fromRecord r now := by
  rw [buildInitialInnerState, deviceMap_loadPeers] at h
  exact (mem_of_loadDevices now _ _ h).resolve_left fun hn => by cases hn

/-- The entry of a device is that of its row. -/
theorem lookup_loadDevices (now : SystemTime) {l : List DeviceRecord}
    (hl : l.Pairwise fun r r' => r.deviceId ≠ r'.deviceId) (s : NetworkStateInner) (d : String) :
    (l.foldl (loadDevice net gateway now) s).deviceMap.lookup d =
      match l.find? (·.deviceId == d) with
      | some r => some (DeviceEntry.fromRecord r now)
      | none => s.deviceMap.lookup d := by
  induction l generalizing s with
  | nil => rfl
  | cons r l ih =>
    obtain ⟨hr, hl⟩ := List.pairwise_cons.mp hl
    have hadd : (loadDevice net gateway now s r).deviceMap.lookup d =
        if d = r.deviceId then some (DeviceEntry.fromRecord r now) else s.deviceMap.lookup d :=
      DeviceMap.lookup_add _ _ d
    rw [List.foldl_cons, ih hl]
    by_cases hd : r.deviceId = d
    · have hnone : l.find? (·.deviceId == d) = none := by
        rw [List.find?_eq_none]
        intro x hx h
        exact hr x hx (hd.trans (eq_of_beq h).symm)
      rw [hnone, List.find?_cons_of_pos (by simpa using hd), hadd, if_pos hd.symm]
    · rw [List.find?_cons_of_neg (by simpa using hd), hadd, if_neg fun h => hd h.symm]

theorem leaseOf_load {devices : List DeviceRecord}
    (hl : devices.Pairwise fun r r' => r.deviceId ≠ r'.deviceId)
    (allocations : Option (List WireGuardPeerIpAllocation)) (now : SystemTime) (d : String) :
    (buildInitialInnerState net gateway (some devices) allocations now).leaseOf d =
      ((devices.find? (·.deviceId == d)).bind (·.ip)).bind Ipv4Addr.parse := by
  unfold leaseOf buildInitialInnerState
  rw [deviceMap_loadPeers, Option.getD_some, lookup_loadDevices now hl]
  cases devices.find? (·.deviceId == d) <;> rfl

/-- A stored reservation of a usable address is loaded. -/
theorem peer_of_loadPeers {l : List WireGuardPeerIpAllocation} {s : NetworkStateInner}
    (hu : Usable net gateway ip) (h : s.wireguardPeerIpMap.lookup ip ≠ none ∨ ∃ a ∈ l, a.ip = ip) :
    (l.foldl (loadPeer net gateway) s).wireguardPeerIpMap.lookup ip ≠ none := by
  induction l generalizing s with
  | nil => exact h.resolve_right (by simp)
  | cons a l ih =>
    refine ih ?_
    by_cases ha : a.ip = ip
    · subst ha
      unfold loadPeer
      rw [if_pos hu]
      rw [HashMap.lookup_insert_if, if_pos rfl]
      exact .inl nofun
    · rcases h with h | ⟨b, hb, hbip⟩
      · refine .inl ?_
        unfold loadPeer
        split
        · rw [HashMap.lookup_insert_if, if_neg fun h => ha h.symm]
          exact h
        · exact h
      · exact .inr ⟨b, (List.mem_cons.mp hb).resolve_left fun h => ha (h ▸ hbip), hbip⟩

theorem lastWireguardChangeVersion_load (devices : Option (List DeviceRecord))
    (allocations : Option (List WireGuardPeerIpAllocation)) (now : SystemTime) :
    (buildInitialInnerState net gateway devices allocations now).lastWireguardChangeVersion = 0 := by
  have hdev : ∀ (l : List DeviceRecord) (s : NetworkStateInner),
      (l.foldl (loadDevice net gateway now) s).lastWireguardChangeVersion =
        s.lastWireguardChangeVersion := by
    intro l
    induction l with
    | nil => intro s; rfl
    | cons r l ih => intro s; rw [List.foldl_cons, ih]; rfl
  have hpeer : ∀ (l : List WireGuardPeerIpAllocation) (s : NetworkStateInner),
      (l.foldl (loadPeer net gateway) s).lastWireguardChangeVersion =
        s.lastWireguardChangeVersion := by
    intro l
    induction l with
    | nil => intro s; rfl
    | cons a l ih =>
      intro s
      rw [List.foldl_cons, ih]
      unfold loadPeer
      split <;> rfl
  rw [buildInitialInnerState, hpeer, hdev]
  rfl

/-- A load from distinct rows, in which no address is a device's and a peer's. -/
theorem leaseInv_of_load (hd : DistinctDevices (devices.getD []))
    (hs : s = buildInitialInnerState net gateway devices allocations now)
    (hdis : ∀ ip, s.deviceIpMap.lookup ip = none ∨ s.wireguardPeerIpMap.lookup ip = none) :
    LeaseInv net gateway s := by
  have hrow : ∀ d e, s.deviceMap.lookup d = some e →
      ∃ r ∈ devices.getD [], e = DeviceEntry.fromRecord r now := by
    intro d e he
    rw [hs] at he
    exact row_of_load he
  refine ⟨(Ownership.exact_iff.mp (Loaded.exact ⟨devices, allocations, now, hd, hs⟩)).1, hdis,
    fun ip p hp => ?_, fun ip d d' hl hl' => ?_, fun d e he => ?_⟩
  · rw [hs, buildInitialInnerState] at hp
    refine ((ReserveState.mem_of_loadPeers _ _ hp).resolve_left fun he => ?_).2
    rw [ReserveState.wireguardPeerIpMap_loadDevices] at he
    cases he
  · obtain ⟨e, he, hip⟩ := leaseOf_eq_some.mp hl
    obtain ⟨e', he', hip'⟩ := leaseOf_eq_some.mp hl'
    obtain ⟨r, hr, hre⟩ := hrow d e he
    obtain ⟨r', hr', hre'⟩ := hrow d' e' he'
    have hid := DeviceMap.deviceId_of_lookup he
    have hid' := DeviceMap.deviceId_of_lookup he'
    subst hre hre'
    -- Two rows with one address are one row.
    have hrr : r = r' := by
      by_contra hne
      have : Std.Symm fun x y : DeviceRecord =>
          x.deviceId ≠ y.deviceId ∧ ∀ ip, x.ip = some ip → y.ip ≠ some ip :=
        ⟨fun x y ⟨h1, h2⟩ => ⟨h1.symm, fun t ht hx => h2 t hx ht⟩⟩
      exact fromRecord_ip_ne (List.Pairwise.forall hd hr hr' hne).2 hip hip'
    rw [← hid, ← hid', hrr]
  · obtain ⟨r, -, rfl⟩ := hrow d e he
    exact Nat.zero_le _

end NetworkStateInner

end Vntc
