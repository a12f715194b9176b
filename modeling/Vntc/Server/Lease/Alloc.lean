import Vntc.Server.Lease.State

/-!
# Address allocation

`NetworkStateInner::allocate_ip`: the address of a registration. There are three ways to get one:

* **kept**: the device has an address, and the request names it or none;
* **requested**: the request names another address, and no check refuses it;
* **searched**: the device has no address and the request names none, or the request names an
  address that a check refuses and the client accepts any other (`ip_variable`).

Which one applies is a condition on the state and the request (`Keeps`, `Grants`, `Searches`).
`allocateIp_ok` is the inversion of a successful call; every invariant of the lease state is
derived from it. A failed call changes nothing: every error leaves before the first write.
-/

namespace Vntc

open Lib

/-- The mode of a registration. -/
inductive RegistrationMode
  | normal
  | preRegister
  deriving DecidableEq

/-- A registration request: the fields that reach the lease state and the endpoint maps. -/
structure RegRequestMsg where
  deviceId : String
  ip : Option Ipv4Addr
  name : String
  version : String
  keySign : Option String
  ipVariable : Bool
  registrationMode : RegistrationMode
  allowWireGuard : Bool
  clientCapabilities : BitVec 64
  deriving DecidableEq

/-- Why a registration is refused. -/
inductive AllocError
  | gateway
  | outsideNet (net : Ipv4Net)
  | wireguardPeer (peerId : String)
  | device (deviceName deviceId : String)
  | serverData
  | exhausted
  deriving DecidableEq

/-- The entry after its device came back. -/
def DeviceEntry.reconnect (e : DeviceEntry) (req : RegRequestMsg) (randomId : BitVec 64)
    (version : Nat) (now : SystemTime) : DeviceEntry :=
  { e with
    isConnected := true, disconnectTime := none, randomId := randomId, lastConnectTime := now,
    dataVersion := version, keySign := req.keySign }

/-- The entry of a device that registers at a new address. -/
def RegRequestMsg.entry (req : RegRequestMsg) (ip : Ipv4Addr) (randomId : BitVec 64)
    (version : Nat) (now : SystemTime) : DeviceEntry where
  deviceId := req.deviceId
  ip := some ip
  randomId := randomId
  deviceName := req.name
  deviceVersion := req.version
  isConnected := true
  lastConnectTime := now
  disconnectTime := none
  dataVersion := version
  keySign := req.keySign

namespace NetworkStateInner

variable (net : Ipv4Net) (gateway : Ipv4Addr) (s : NetworkStateInner)

/-- No device and no WireGuard peer has the address. -/
def Free (ip : Ipv4Addr) : Prop :=
  s.deviceIpMap.lookup ip = none ∧ s.wireguardPeerIpMap.lookup ip = none

instance (ip : Ipv4Addr) : Decidable (s.Free ip) := inferInstanceAs (Decidable (_ ∧ _))

/-- The first free address after the network address and before the broadcast address. -/
def findAvailableIp : Option Ipv4Addr :=
  net.hosts.find? fun ip => ip ≠ gateway ∧ s.Free ip

/-- The checks of a requested address, in order; each of them leaves the loop. -/
def requestedIpError (ip : Ipv4Addr) : Option AllocError :=
  if ip = gateway then some .gateway
  else if net.contains ip = false then some (.outsideNet net)
  else
    match s.wireguardPeerIpMap.lookup ip with
    | some peerId => some (.wireguardPeer peerId)
    | none =>
      match s.deviceIpMap.lookup ip with
      | some id =>
        match s.deviceMap.lookup id with
        | some v => some (.device v.deviceName v.deviceId)
        | none => some .serverData
      | none => none

/-- The end of `allocate_ip`: search an address. The device's previous address `old` is returned
to the caller and stays in the index. -/
def searchIp (req : RegRequestMsg) (randomId : BitVec 64) (now : SystemTime)
    (old : Option Ipv4Addr) : Except AllocError (NetworkStateInner × Ipv4Addr × Option Ipv4Addr) :=
  match s.findAvailableIp net gateway with
  | none => .error .exhausted
  | some ip =>
    let s1 := { s with dataVersion := s.dataVersion + 1 }
    .ok (s1.addDevice (req.entry ip randomId s1.dataVersion now), ip, old)

/-- `allocate_ip` past the reconnect branch, for a device with the address `old`. -/
def registerIp (req : RegRequestMsg) (randomId : BitVec 64) (now : SystemTime)
    (old : Option Ipv4Addr) : Except AllocError (NetworkStateInner × Ipv4Addr × Option Ipv4Addr) :=
  match req.ip with
  | none => s.searchIp net gateway req randomId now old
  | some ip =>
    match s.requestedIpError net gateway ip with
    | some err =>
      if req.ipVariable then s.searchIp net gateway req randomId now old else .error err
    | none =>
      let s1 := { s with
        deviceIpMap := HashMap.eraseOpt s.deviceIpMap old, dataVersion := s.dataVersion + 1 }
      .ok (s1.addDevice (req.entry ip randomId s1.dataVersion now), ip, old)

/-- The address of a registration, and the address that the device gives up for it. -/
def allocateIp (req : RegRequestMsg) (randomId : BitVec 64) (now : SystemTime) :
    Except AllocError (NetworkStateInner × Ipv4Addr × Option Ipv4Addr) :=
  match s.deviceMap.lookup req.deviceId with
  | none => s.registerIp net gateway req randomId now none
  | some e =>
    if req.ip = none ∨ e.ip = req.ip then
      let s1 := { s with dataVersion := s.dataVersion + 1 }
      let e' := e.reconnect req randomId s1.dataVersion now
      match e.ip with
      | some current => .ok ({ s1 with deviceMap := s1.deviceMap.add e' }, current, none)
      | none =>
        match s.findAvailableIp net gateway with
        | none => .error .exhausted
        | some ip => .ok (s1.addDevice { e' with ip := some ip }, ip, none)
    else s.registerIp net gateway req randomId now e.ip

/-! ## The three ways -/

/-- A check refuses the address. -/
def Refused (ip : Ipv4Addr) : Prop :=
  ip = gateway ∨ net.contains ip = false ∨ ¬ s.Free ip

instance (ip : Ipv4Addr) : Decidable (s.Refused net gateway ip) :=
  inferInstanceAs (Decidable (_ ∨ _ ∨ _))

/-- The device keeps its address. -/
def Keeps (req : RegRequestMsg) (ip : Ipv4Addr) : Prop :=
  s.leaseOf req.deviceId = some ip ∧ (req.ip = none ∨ req.ip = some ip)

/-- The device gets the address that it asks for. -/
def Grants (req : RegRequestMsg) (ip : Ipv4Addr) : Prop :=
  req.ip = some ip ∧ s.leaseOf req.deviceId ≠ some ip ∧ ¬ s.Refused net gateway ip

/-- The device needs an address from the search. -/
def Searches (req : RegRequestMsg) : Prop :=
  match req.ip with
  | none => s.leaseOf req.deviceId = none
  | some ip => s.leaseOf req.deviceId ≠ some ip ∧ s.Refused net gateway ip ∧ req.ipVariable = true

/-- How a successful registration changes the index, and which address the device gives up. -/
inductive AllocPath (req : RegRequestMsg) (ip : Ipv4Addr) :
    HashMap Ipv4Addr String → Option Ipv4Addr → Prop
  | kept (h : s.Keeps req ip) : AllocPath req ip s.deviceIpMap none
  | requested (h : s.Grants net gateway req ip) :
      AllocPath req ip
        ((HashMap.eraseOpt s.deviceIpMap (s.leaseOf req.deviceId)).insert ip req.deviceId)
        (s.leaseOf req.deviceId)
  | searched (h : s.Searches net gateway req) (hf : s.findAvailableIp net gateway = some ip) :
      AllocPath req ip (s.deviceIpMap.insert ip req.deviceId) (s.leaseOf req.deviceId)

/-- What a successful registration leaves. -/
structure Allocated (req : RegRequestMsg) (randomId : BitVec 64) (s' : NetworkStateInner)
    (ip : Ipv4Addr) (old : Option Ipv4Addr) : Prop where
  /-- The device is online at its address, with the new version; no other device changes. -/
  entry : ∃ e, s'.deviceMap = s.deviceMap.add e ∧ e.deviceId = req.deviceId ∧ e.ip = some ip ∧
    e.isConnected = true ∧ e.randomId = randomId ∧ e.dataVersion = s.dataVersion + 1
  version : s'.dataVersion = s.dataVersion + 1
  wireguardVersion : s'.lastWireguardChangeVersion = s.lastWireguardChangeVersion
  wireguard : s'.wireguardPeerIpMap = s.wireguardPeerIpMap
  remote : s'.remoteWireguardSources = s.remoteWireguardSources
  path : s.AllocPath net gateway req ip s'.deviceIpMap old

variable {net gateway s}

theorem findAvailableIp_some {ip : Ipv4Addr} (h : s.findAvailableIp net gateway = some ip) :
    ip ∈ net.hosts ∧ ip ≠ gateway ∧ s.Free ip := by
  have hp := List.find?_some h
  simp only [decide_eq_true_eq] at hp
  exact ⟨List.mem_of_find?_eq_some h, hp⟩

theorem findAvailableIp_none (h : s.findAvailableIp net gateway = none) {ip : Ipv4Addr}
    (hm : ip ∈ net.hosts) (hg : ip ≠ gateway) : ¬ s.Free ip := by
  have := List.find?_eq_none.mp h ip hm
  simpa [hg] using this

theorem requestedIpError_eq_none {ip : Ipv4Addr} :
    s.requestedIpError net gateway ip = none ↔ ¬ s.Refused net gateway ip := by
  unfold requestedIpError Refused Free
  by_cases hg : ip = gateway
  · simp [hg]
  by_cases hn : net.contains ip = false
  · simp [hg, hn]
  cases hw : s.wireguardPeerIpMap.lookup ip with
  | some peerId => simp [hg, hn]
  | none =>
    cases hd : s.deviceIpMap.lookup ip with
    | none => simp [hg, hn]
    | some id =>
      cases hm : s.deviceMap.lookup id <;> simp [hg, hn, hm]

variable {req : RegRequestMsg} {randomId : BitVec 64} {now : SystemTime} {s' : NetworkStateInner}
  {ip : Ipv4Addr} {old old' : Option Ipv4Addr}

theorem searchIp_ok (ho : old = s.leaseOf req.deviceId) (hs : s.Searches net gateway req)
    (h : s.searchIp net gateway req randomId now old = .ok (s', ip, old')) :
    s.Allocated net gateway req randomId s' ip old' := by
  unfold searchIp at h
  cases hf : s.findAvailableIp net gateway with
  | none => rw [hf] at h; cases h
  | some a =>
    rw [hf] at h
    cases h
    subst ho
    exact ⟨⟨_, rfl, rfl, rfl, rfl, rfl, rfl⟩, rfl, rfl, rfl, rfl, .searched hs hf⟩

theorem registerIp_ok (ho : old = s.leaseOf req.deviceId)
    (hne : ∀ ip, req.ip = some ip → old ≠ some ip) (hn : req.ip = none → old = none)
    (h : s.registerIp net gateway req randomId now old = .ok (s', ip, old')) :
    s.Allocated net gateway req randomId s' ip old' := by
  unfold registerIp at h
  cases hr : req.ip with
  | none =>
    rw [hr] at h
    have hs : s.Searches net gateway req := by
      unfold Searches; rw [hr]; exact ho ▸ hn hr
    exact searchIp_ok ho hs h
  | some want =>
    simp only [hr] at h
    have hl : s.leaseOf req.deviceId ≠ some want := ho ▸ hne want hr
    cases he : s.requestedIpError net gateway want with
    | none =>
      rw [he] at h
      cases h
      subst ho
      exact ⟨⟨_, rfl, rfl, rfl, rfl, rfl, rfl⟩, rfl, rfl, rfl, rfl,
        .requested ⟨hr, hl, requestedIpError_eq_none.mp he⟩⟩
    | some err =>
      rw [he] at h
      cases hv : req.ipVariable with
      | false => simp only [hv] at h; cases h
      | true =>
        simp only [hv, if_true] at h
        have hrf : s.Refused net gateway want := by
          by_contra hc
          rw [requestedIpError_eq_none.mpr hc] at he
          cases he
        refine searchIp_ok ho ?_ h
        unfold Searches; rw [hr]; exact ⟨hl, hrf, hv⟩

/-- Inversion of a successful registration. -/
theorem allocateIp_ok (h : s.allocateIp net gateway req randomId now = .ok (s', ip, old)) :
    s.Allocated net gateway req randomId s' ip old := by
  unfold allocateIp at h
  cases hl : s.deviceMap.lookup req.deviceId with
  | none =>
    rw [hl] at h
    exact registerIp_ok (leaseOf_of_lookup_none hl).symm (by simp) (by simp) h
  | some e =>
    rw [hl] at h
    have hid := DeviceMap.deviceId_of_lookup hl
    have hlease := leaseOf_of_lookup hl
    by_cases hm : req.ip = none ∨ e.ip = req.ip
    · simp only [hm, if_true] at h
      cases hip : e.ip with
      | some current =>
        rw [hip] at h
        cases h
        refine ⟨⟨_, rfl, hid, hip, rfl, rfl, rfl⟩, rfl, rfl, rfl, rfl,
          .kept ⟨hlease.trans hip, hm.imp id fun hm => hm.symm.trans hip⟩⟩
      | none =>
        rw [hip] at h
        have hs : s.Searches net gateway req := by
          have hr : req.ip = none := hm.elim id fun hm => hm.symm.trans hip
          unfold Searches; rw [hr]; exact hlease.trans hip
        cases hf : s.findAvailableIp net gateway with
        | none => rw [hf] at h; cases h
        | some a =>
          rw [hf] at h
          cases h
          refine ⟨⟨_, rfl, hid, rfl, rfl, rfl, rfl⟩, rfl, rfl, rfl, rfl, ?_⟩
          have hp := AllocPath.searched hs hf
          rw [hlease.trans hip, ← hid] at hp
          exact hp
    · simp only [hm, if_false] at h
      rw [not_or] at hm
      exact registerIp_ok hlease.symm (fun a ha he => hm.2 (he.trans ha.symm))
        (fun hr => (hm.1 hr).elim) h

/-! ## When a registration succeeds -/

theorem allocateIp_of_keeps (h : s.Keeps req ip) (net : Ipv4Net) (gateway : Ipv4Addr)
    (randomId : BitVec 64) (now : SystemTime) :
    ∃ s', s.allocateIp net gateway req randomId now = .ok (s', ip, none) := by
  obtain ⟨hl, hr⟩ := h
  unfold allocateIp
  cases he : s.deviceMap.lookup req.deviceId with
  | none => rw [leaseOf_of_lookup_none he] at hl; cases hl
  | some e =>
    rw [leaseOf_of_lookup he] at hl
    have hm : req.ip = none ∨ some ip = req.ip := hr.imp id fun hr => hr.symm
    simp only [hl, hm, if_true]
    exact ⟨_, rfl⟩

/-- A device that does not keep its address goes through the checks and the search. -/
theorem allocateIp_eq_registerIp (hne : ∀ ip, ¬ s.Keeps req ip)
    (h : req.ip ≠ none ∨ s.deviceMap.lookup req.deviceId = none) :
    s.allocateIp net gateway req randomId now =
      s.registerIp net gateway req randomId now (s.leaseOf req.deviceId) := by
  unfold allocateIp
  cases he : s.deviceMap.lookup req.deviceId with
  | none => rw [leaseOf_of_lookup_none he]
  | some e =>
    rw [leaseOf_of_lookup he]
    have hr : req.ip ≠ none := h.elim id fun h => by rw [he] at h; cases h
    have hm : ¬ (req.ip = none ∨ e.ip = req.ip) := by
      rintro (hn | hn)
      · exact hr hn
      · obtain ⟨a, ha⟩ := Option.ne_none_iff_exists'.mp hr
        exact hne a ⟨(leaseOf_of_lookup he).trans (hn.trans ha), .inr ha⟩
    simp only [hm, if_false]

theorem allocateIp_of_grants (h : s.Grants net gateway req ip) (randomId : BitVec 64)
    (now : SystemTime) :
    ∃ s' old, s.allocateIp net gateway req randomId now = .ok (s', ip, old) := by
  obtain ⟨hr, hl, hf⟩ := h
  have hne : ∀ a, ¬ s.Keeps req a := by
    rintro a ⟨ha, hn | hn⟩
    · rw [hr] at hn; cases hn
    · rw [hr] at hn; exact hl (ha.trans hn.symm)
  rw [allocateIp_eq_registerIp hne (.inl (by rw [hr]; simp))]
  unfold registerIp
  simp only [hr, requestedIpError_eq_none.mpr hf]
  exact ⟨_, _, rfl⟩

theorem allocateIp_of_searches (h : s.Searches net gateway req)
    (hf : s.findAvailableIp net gateway = some ip) (randomId : BitVec 64) (now : SystemTime) :
    ∃ s' old, s.allocateIp net gateway req randomId now = .ok (s', ip, old) := by
  cases hr : req.ip with
  | none =>
    have hl : s.leaseOf req.deviceId = none := by unfold Searches at h; rwa [hr] at h
    unfold allocateIp registerIp searchIp
    cases he : s.deviceMap.lookup req.deviceId with
    | none => simp only [hr, hf]; exact ⟨_, _, rfl⟩
    | some e =>
      rw [leaseOf_of_lookup he] at hl
      simp only [hr, hl, hf, true_or, if_true]
      exact ⟨_, _, rfl⟩
  | some want =>
    have hs : s.leaseOf req.deviceId ≠ some want ∧ s.Refused net gateway want ∧
        req.ipVariable = true := by unfold Searches at h; rwa [hr] at h
    have hne : ∀ a, ¬ s.Keeps req a := by
      rintro a ⟨ha, hn | hn⟩
      · rw [hr] at hn; cases hn
      · rw [hr] at hn; exact hs.1 (ha.trans hn.symm)
    rw [allocateIp_eq_registerIp hne (.inl (by rw [hr]; simp))]
    cases he : s.requestedIpError net gateway want with
    | none => exact (requestedIpError_eq_none.mp he hs.2.1).elim
    | some err =>
      unfold registerIp searchIp
      simp only [hr, he, hs.2.2, hf, if_true]
      exact ⟨_, _, rfl⟩

/-! ## What a registration does to the table -/

section

variable (h : s.Allocated net gateway req randomId s' ip old)

include h

theorem Allocated.leaseOf_eq : s'.leaseOf = Function.update s.leaseOf req.deviceId (some ip) := by
  obtain ⟨e, hm, hid, hip, -⟩ := h.entry
  rw [← hid, ← hip, ← s.leaseOf_add e, ← hm]
  rfl

theorem Allocated.leaseOf_self : s'.leaseOf req.deviceId = some ip := by
  rw [h.leaseOf_eq, Function.update_self]

theorem Allocated.leaseOf_other {d : String} (hd : d ≠ req.deviceId) :
    s'.leaseOf d = s.leaseOf d := by
  rw [h.leaseOf_eq, Function.update_of_ne hd]

/-- A registration keeps the table, moves the device, or assigns it a searched address on top of
what it had. -/
theorem Allocated.table_cases :
    (s.Keeps req ip ∧ s'.table = s.table) ∨
    (s.Grants net gateway req ip ∧ s'.table = s.table.move req.deviceId ip) ∨
    (s.Searches net gateway req ∧ s.findAvailableIp net gateway = some ip ∧
      s'.table = s.table.assign req.deviceId ip) := by
  have hheld := h.leaseOf_eq
  generalize hi : s'.deviceIpMap = m at h
  have hp := h.path
  rw [hi] at hp
  cases hp with
  | kept hk =>
    refine .inl ⟨hk, ?_⟩
    ext1
    · refine hheld.trans ?_
      rw [← hk.1]; exact Function.update_eq_self _ s.leaseOf
    · exact funext fun a => by simp only [table, hi]
  | requested hg =>
    refine .inr (.inl ⟨hg, ?_⟩)
    ext1
    · refine hheld.trans ?_
      exact (Function.update_idem _ _ s.leaseOf).symm
    · refine (congrArg (fun (m : HashMap Ipv4Addr String) => fun a => m.lookup a) hi).trans ?_
      rw [HashMap.lookup_insert_update]
      simp only [HashMap.lookup_eraseOpt]
      rfl
  | searched hs hf =>
    refine .inr (.inr ⟨hs, hf, ?_⟩)
    ext1
    · exact hheld
    · refine (congrArg (fun (m : HashMap Ipv4Addr String) => fun a => m.lookup a) hi).trans ?_
      rw [HashMap.lookup_insert_update]
      rfl

/-- The address that a registration gives up is the device's. -/
theorem Allocated.leaseOf_old {a : Ipv4Addr}
    (ha : old = some a) : s.leaseOf req.deviceId = some a := by
  have hp := h.path
  generalize s'.deviceIpMap = m at hp
  cases hp with
  | kept => cases ha
  | requested => exact ha
  | searched => exact ha

/-- A client that accepts no other address gets the one that it asks for. -/
theorem Allocated.ip_eq {a : Ipv4Addr}
    (ha : req.ip = some a) (hv : req.ipVariable = false) : ip = a := by
  obtain ⟨hk, -⟩ | ⟨hg, -⟩ | ⟨hs, -⟩ := h.table_cases
  · have := hk.2.resolve_left (by simp [ha])
    exact Option.some.inj (this.symm.trans ha)
  · exact Option.some.inj (hg.1.symm.trans ha)
  · simp [Searches, ha, hv] at hs

end

end NetworkStateInner

end Vntc
