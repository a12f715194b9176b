import Vntc.Server.Lease.Reserve

/-!
# The state of a network

`NetworkState` of `server/network_state_provider.rs`: the lease state, and for each address that is
online the queue to its client (`sender_map`) and what the client is (`online_endpoints`). A device
is online through a session; `Session` and its end are those of `server/control_server/service.rs`.

The endpoint maps are written inside the lock of the lease state, with one exception:
`release_pre_registered_ip` removes the endpoint after it. The model takes each method as one step.
-/

namespace Vntc

open Lib

/-- A day, in nanoseconds as every duration. -/
def oneDay : Nat := 86400000000000

/-- A channel to a client, by number. -/
abbrev Channel := Nat

/-- The queue of an address. -/
inductive NetworkSender
  | vnt (channel : Channel)
  | wireGuard (networkCode : String) (channel : Channel)
  deriving DecidableEq

/-- What is online at an address. -/
inductive OnlineEndpoint
  | vnt (randomId : BitVec 64) (allowWireguard : Bool) (clientCapabilities : BitVec 64)
      (confirmed : Bool)
  | wireGuard (peerId : String) (connectedAt : Int)
  deriving DecidableEq

def OnlineEndpoint.isWireGuard : OnlineEndpoint → Bool
  | .vnt .. => false
  | .wireGuard .. => true

/-- A network in memory. -/
structure NetworkState where
  networkCode : String
  gateway : Ipv4Addr
  net : Ipv4Net
  leaseDuration : Nat
  senderMap : HashMap Ipv4Addr NetworkSender
  onlineEndpoints : HashMap Ipv4Addr OnlineEndpoint
  leaseState : NetworkStateInner

/-- Whether the client still has to confirm. -/
inductive RegistrationStatus
  | confirmed
  | pendingConfirmation
  deriving DecidableEq

/-- A session of a device. -/
structure Session where
  networkCode : String
  deviceId : String
  ip : Ipv4Addr
  randomId : BitVec 64
  registrationStatus : RegistrationStatus
  allowWireGuard : Bool
  clientCapabilities : BitVec 64
  deriving DecidableEq

namespace NetworkState

variable (st : NetworkState)

/-- The state of a network as stored. -/
def newFromDb (networkCode : String) (net : Ipv4Net) (leaseDuration : Nat)
    (devices : Option (List DeviceRecord)) (allocations : Option (List WireGuardPeerIpAllocation))
    (now : SystemTime) : NetworkState where
  networkCode := networkCode
  gateway := gatewayOf net
  net := net
  leaseDuration := leaseDuration
  senderMap := ∅
  onlineEndpoints := ∅
  leaseState := .buildInitialInnerState net (gatewayOf net) devices allocations now

/-- A WireGuard peer is online there. -/
def isWireguardEndpoint (ip : Ipv4Addr) : Bool :=
  (st.onlineEndpoints.lookup ip).any OnlineEndpoint.isWireGuard

/-- No endpoint at the address, if there is one. -/
def removeEndpoint (ip : Option Ipv4Addr) : NetworkState :=
  { st with
    senderMap := HashMap.eraseOpt st.senderMap ip
    onlineEndpoints := HashMap.eraseOpt st.onlineEndpoints ip }

/-- `allocate_ip_and_get_entry`: the new endpoint replaces whatever was at the address. -/
def allocateIpAndGetEntry (req : RegRequestMsg) (randomId : BitVec 64) (sender : Channel)
    (now : SystemTime) :
    Except AllocError (NetworkState × Ipv4Addr × Option Ipv4Addr × Option DeviceEntry) :=
  match st.leaseState.allocateIp st.net st.gateway req randomId now with
  | .error e => .error e
  | .ok (lease, ip, old) =>
    let st1 := st.removeEndpoint old
    .ok ({ st1 with
        leaseState := lease
        senderMap := st1.senderMap.insert ip (.vnt sender)
        onlineEndpoints := st1.onlineEndpoints.insert ip
          (.vnt randomId req.allowWireGuard req.clientCapabilities
            (req.registrationMode == .normal)) },
      ip, old, lease.deviceMap.lookup req.deviceId)

/-- The session of an accepted registration. -/
def registerSession (networkCode : String) (req : RegRequestMsg) (ip : Ipv4Addr)
    (randomId : BitVec 64) : Session where
  networkCode := networkCode
  deviceId := req.deviceId
  ip := ip
  randomId := randomId
  registrationStatus := match req.registrationMode with
    | .normal => .confirmed
    | .preRegister => .pendingConfirmation
  allowWireGuard := req.allowWireGuard
  clientCapabilities := req.clientCapabilities

/-- `confirm_registration`, after the device was stored. -/
def confirmRegistration (ip : Ipv4Addr) (randomId : BitVec 64) : NetworkState :=
  match st.onlineEndpoints.lookup ip with
  | some (.vnt active allow caps _) =>
    if active = randomId then
      { st with onlineEndpoints := st.onlineEndpoints.insert ip (.vnt active allow caps true) }
    else st
  | _ => st

def offlineIp (deviceId : String) (ip : Ipv4Addr) (randomId : BitVec 64) (now : SystemTime) :
    NetworkState × Option DeviceRecord :=
  match st.leaseState.offlineIp st.networkCode deviceId ip randomId now with
  | (lease, some record) => ({ st.removeEndpoint (some ip) with leaseState := lease }, some record)
  | (_, none) => (st, none)

def removeDeviceFromMemory (deviceId : String) : NetworkState × Option Ipv4Addr :=
  let r := st.leaseState.removeDeviceFromMemory deviceId
  ({ st.removeEndpoint r.2 with leaseState := r.1 }, r.2)

def releasePreRegisteredIp (deviceId : String) (ip : Ipv4Addr) (randomId : BitVec 64) :
    NetworkState :=
  match st.leaseState.releasePreRegisteredIp deviceId ip randomId with
  | (lease, true) => { st.removeEndpoint (some ip) with leaseState := lease }
  | (_, false) => st

/-- The end of a session (`Drop`). -/
def dropSession (session : Session) (now : SystemTime) : NetworkState :=
  match session.registrationStatus with
  | .confirmed => (st.offlineIp session.deviceId session.ip session.randomId now).1
  | .pendingConfirmation => st.releasePreRegisteredIp session.deviceId session.ip session.randomId

def removeDevices (deviceIds : List String) : NetworkState :=
  { st with leaseState := st.leaseState.removeDevices deviceIds }

/-- A peer comes online at its address, if nothing else is there. -/
def connectWireguardPeer (peerId : String) (ip : Ipv4Addr) (sender : Channel) (now : SystemTime) :
    NetworkState × Bool :=
  if st.leaseState.wireguardPeerIpMap.lookup ip ≠ some peerId ∨ (st.senderMap.lookup ip).isSome ∨
      (st.onlineEndpoints.lookup ip).isSome then (st, false)
  else
    let version := st.leaseState.dataVersion + 1
    ({ st with
      senderMap := st.senderMap.insert ip (.wireGuard st.networkCode sender)
      onlineEndpoints := st.onlineEndpoints.insert ip (.wireGuard peerId (systemTimeToI64 now))
      leaseState := { st.leaseState with
        dataVersion := version, lastWireguardChangeVersion := version } }, true)

def disconnectWireguardPeer (peerId : String) (ip : Ipv4Addr) : NetworkState × Bool :=
  match st.onlineEndpoints.lookup ip with
  | some (.wireGuard active _) =>
    if active = peerId then
      let version := st.leaseState.dataVersion + 1
      ({ st.removeEndpoint (some ip) with
        leaseState := { st.leaseState with
          dataVersion := version, lastWireguardChangeVersion := version } }, true)
    else (st, false)
  | _ => (st, false)

/-- The two sets have the same elements. -/
def sameIps (a b : HashSet Ipv4Addr) : Bool :=
  a.keys.all (· ∈ b.keys) && b.keys.all (· ∈ a.keys)

/-- The addresses that another server reports; the addition saturates at `u64::MAX`, which no run
reaches. -/
def updateRemoteWireguardIps (source : String) (ips : HashSet Ipv4Addr) : NetworkState × Bool :=
  let known := st.leaseState.remoteWireguardSources.lookup source
  if known.any (sameIps ips) || (ips.keys.isEmpty && known.isNone) then (st, false)
  else
    let version := st.leaseState.dataVersion + 1
    ({ st with leaseState := { st.leaseState with
      remoteWireguardSources :=
        if ips.keys.isEmpty then st.leaseState.remoteWireguardSources.erase source
        else st.leaseState.remoteWireguardSources.insert source ips
      dataVersion := version, lastWireguardChangeVersion := version } }, true)

def removeRemoteWireguardSource (source : String) : NetworkState × Bool :=
  match st.leaseState.remoteWireguardSources.lookup source with
  | none => (st, false)
  | some _ =>
    let version := st.leaseState.dataVersion + 1
    ({ st with leaseState := { st.leaseState with
      remoteWireguardSources := st.leaseState.remoteWireguardSources.erase source
      dataVersion := version, lastWireguardChangeVersion := version } }, true)

/-! ## Endpoints of peers -/

variable {ip : Ipv4Addr} {now : SystemTime} {old : Option Ipv4Addr} {randomId : BitVec 64}
  {req : RegRequestMsg}

theorem lookup_connect {st : NetworkState} {p : String} {sender : Channel}
    (h : (st.connectWireguardPeer p ip sender now).2 = true) (a : Ipv4Addr) :
    (st.connectWireguardPeer p ip sender now).1.onlineEndpoints.lookup a =
      if a = ip then some (.wireGuard p (systemTimeToI64 now)) else st.onlineEndpoints.lookup a := by
  unfold connectWireguardPeer at h ⊢
  split at h
  · cases h
  · rename_i hc
    rw [if_neg hc]
    exact HashMap.lookup_insert_if _ _ _ _

/-- A disconnection removes endpoints only, and the peer's at the address. -/
theorem online_of_disconnect {st : NetworkState} {p q : String} {a : Ipv4Addr} {t : Int}
    (h : (st.disconnectWireguardPeer p ip).1.onlineEndpoints.lookup a = some (.wireGuard q t)) :
    st.onlineEndpoints.lookup a = some (.wireGuard q t) ∧ ¬ (a = ip ∧ q = p) := by
  unfold disconnectWireguardPeer at h
  split at h
  · rename_i active t' he
    split at h
    · simp only [removeEndpoint, HashMap.lookup_eraseOpt] at h
      split at h
      · cases h
      · rename_i hne
        exact ⟨h, fun hq => hne (by rw [hq.1])⟩
    · rename_i hne
      refine ⟨h, ?_⟩
      rintro ⟨rfl, rfl⟩
      rw [he] at h
      cases h
      exact hne rfl
  · rename_i hno
    refine ⟨h, ?_⟩
    rintro ⟨rfl, rfl⟩
    exact hno _ _ h

/-! ## Pre-registration and its end -/

/-- A registration changes the lease state as `allocate_ip` does. -/
theorem allocateIpAndGetEntry_ok {st st' : NetworkState}
    {sender : Channel}
    {entry : Option DeviceEntry}
    (h : st.allocateIpAndGetEntry req randomId sender now = .ok (st', ip, old, entry)) :
    st.leaseState.Allocated st.net st.gateway req randomId st'.leaseState ip old ∧
    st' = { st.removeEndpoint old with
      leaseState := st'.leaseState
      senderMap := (st.removeEndpoint old).senderMap.insert ip (.vnt sender)
      onlineEndpoints := (st.removeEndpoint old).onlineEndpoints.insert ip
        (.vnt randomId req.allowWireGuard req.clientCapabilities
          (req.registrationMode == .normal)) } := by
  unfold allocateIpAndGetEntry at h
  split at h
  · cases h
  · rename_i lease a o hok
    cases h
    exact ⟨NetworkStateInner.allocateIp_ok hok, rfl⟩

theorem allocateIpAndGetEntry_of_ok {st : NetworkState} {lease : NetworkStateInner}
    (h : st.leaseState.allocateIp st.net st.gateway req randomId now = .ok (lease, ip, old))
    (sender : Channel) :
    ∃ st' entry, st.allocateIpAndGetEntry req randomId sender now = .ok (st', ip, old, entry) := by
  unfold allocateIpAndGetEntry
  rw [h]
  exact ⟨_, _, rfl⟩

/-- Right after a registration, the release finds the registration's own session. -/
theorem table_release_after_register {st st' : NetworkState}
    (h : st.leaseState.Allocated st.net st.gateway req randomId st'.leaseState ip old) :
    (st'.releasePreRegisteredIp req.deviceId ip randomId).leaseState.table =
      st'.leaseState.table.revoke req.deviceId := by
  obtain ⟨e, hm, hid, hip, -, hrid, -⟩ := h.entry
  have hl : st'.leaseState.deviceMap.lookup req.deviceId = some e := by
    rw [hm, DeviceMap.lookup_add, if_pos hid.symm]
  unfold releasePreRegisteredIp NetworkStateInner.releasePreRegisteredIp
  simp only [hl, hrid, hip, and_self, if_true]
  exact NetworkStateInner.table_remove hl rfl (by rw [hip]; rfl)

/-- Release undoes a registration exactly for a device that had no address. -/
theorem revoke_after_register_iff {s s' : NetworkStateInner} {net : Ipv4Net} {gateway : Ipv4Addr}
    (h : s.Allocated net gateway req randomId s' ip old) :
    s'.table.revoke req.deviceId = s.table ↔ s.leaseOf req.deviceId = none := by
  constructor
  · intro he
    have := congrFun (congrArg Ownership.held he) req.deviceId
    rw [Ownership.revoke_held_self] at this
    exact this.symm
  · intro hn
    obtain ⟨hk, -⟩ | ⟨hg, ht⟩ | ⟨-, hf, ht⟩ := h.table_cases
    · exact absurd (hn.symm.trans hk.1) (by simp)
    · have hsame : s.table.revoke req.deviceId = s.table := Ownership.revoke_of_none hn
      rw [ht, Ownership.move, hsame]
      exact Ownership.revoke_assign hn hg.usable.2.owner_none
    · rw [ht]
      exact Ownership.revoke_assign hn
        (NetworkStateInner.findAvailableIp_some hf).2.2.owner_none

/-- **The end of an unconfirmed pre-registration.** Who owns which address is as before the
registration exactly if the device had no address before. -/
theorem release_after_pre_register (st st' : NetworkState) (req : RegRequestMsg)
    (hpre : req.registrationMode = .preRegister) (randomId : BitVec 64) (sender : Channel)
    (now later : SystemTime) (ip : Ipv4Addr) (old : Option Ipv4Addr) (entry : Option DeviceEntry)
    (hok : st.allocateIpAndGetEntry req randomId sender now = .ok (st', ip, old, entry)) :
    (st'.dropSession (registerSession st.networkCode req ip randomId) later).leaseState.table =
        st.leaseState.table ↔
      st.leaseState.leaseOf req.deviceId = none := by
  obtain ⟨ha, -⟩ := allocateIpAndGetEntry_ok hok
  have hd : st'.dropSession (registerSession st.networkCode req ip randomId) later =
      st'.releasePreRegisteredIp req.deviceId ip randomId := by
    simp [dropSession, registerSession, hpre]
  rw [hd, table_release_after_register ha]
  exact revoke_after_register_iff ha

/-- A pre-registration of a client that accepts any address. -/
def preRegisterReq (deviceId : String) : RegRequestMsg :=
  { anyIpReq deviceId none with registrationMode := .preRegister }

theorem release_after_pre_register_new_device :
    ∃ st' ip old entry,
      (newFromDb "home" defaultNet 0 none none 0).allocateIpAndGetEntry
        (preRegisterReq "laptop") 7 0 0 = .ok (st', ip, old, entry) ∧
      (st'.dropSession (registerSession "home" (preRegisterReq "laptop") ip 7) 1).leaseState.table =
        (newFromDb "home" defaultNet 0 none none 0).leaseState.table := by
  let st := newFromDb "home" defaultNet 0 none none 0
  have hs : st.leaseState.Searches st.net st.gateway (preRegisterReq "laptop") := rfl
  have hf : st.leaseState.findAvailableIp st.net st.gateway = some (homeIp 2) := by
    decide
  obtain ⟨lease, old, hok⟩ :=
    NetworkStateInner.allocateIp_of_searches hs hf 7 0
  obtain ⟨st', entry, hok'⟩ := allocateIpAndGetEntry_of_ok hok 0
  exact ⟨_, _, _, _, hok',
    (release_after_pre_register st _ _ rfl 7 0 0 1 _ _ _ hok').mpr rfl⟩

/-- The row of a device with an address of the network. -/
def laptopRow : DeviceRecord where
  deviceId := "laptop"
  networkCode := "home"
  ip := some "10.26.0.7"
  deviceName := "laptop"
  deviceVersion := "2.0.0"
  lastConnectTime := 0

/-- A device whose row has `10.26.0.7` pre-registers, and its session ends: the server has no
address for it any more. -/
theorem release_after_pre_register_loses_lease :
    ∃ st st' ip old entry,
      st = newFromDb "home" defaultNet 0 (some [laptopRow]) none 0 ∧
      st.leaseState.leaseOf "laptop" = some (homeIp 7) ∧
      st.allocateIpAndGetEntry (preRegisterReq "laptop") 7 0 0 = .ok (st', ip, old, entry) ∧
      (st'.dropSession (registerSession "home" (preRegisterReq "laptop") ip 7) 1).leaseState.leaseOf
        "laptop" = none ∧
      (st'.dropSession (registerSession "home" (preRegisterReq "laptop") ip 7) 1).leaseState.table ≠
        st.leaseState.table := by
  let st := newFromDb "home" defaultNet 0 (some [laptopRow]) none 0
  have hl : st.leaseState.leaseOf "laptop" = some (homeIp 7) := by decide
  have hk : st.leaseState.Keeps (preRegisterReq "laptop") (homeIp 7) :=
    ⟨hl, .inl rfl⟩
  obtain ⟨lease, hok⟩ := NetworkStateInner.allocateIp_of_keeps hk st.net st.gateway 7 0
  obtain ⟨st', entry, hok'⟩ := allocateIpAndGetEntry_of_ok hok 0
  have ht := table_release_after_register (allocateIpAndGetEntry_ok hok').1
  have hn := (congrFun (congrArg Ownership.held ht) "laptop").trans Ownership.revoke_held_self
  refine ⟨st, _, _, _, _, rfl, hl, hok', hn, fun he => ?_⟩
  have := congrFun (congrArg Ownership.held he) "laptop"
  exact absurd (hn.symm.trans (this.trans hl)) (by simp)

end NetworkState

end Vntc
