import Vntc.Server.Control.Registry
import Vntc.Server.Db.Address
import Vntc.Server.Lease.Invariant

/-!
# Registrations that fail

`register` of `server/control_server/service.rs` as one call: the check of the request
(`protocol/control_message.rs`), the entry of a new network in `db_nets`, its state, the answer of the
cluster and the allocation of an address. The network is entered before the two steps that can fail,
and nothing takes it out again.
-/

namespace Vntc

open Lib

structure WireGuardP2pRegistration where
  publicKey : Bytes
  port : BitVec 16
  deriving DecidableEq

/-- A registration for a network. -/
structure RegisterRequest where
  networkCode : String
  msg : RegRequestMsg
  wireguardP2p : Option WireGuardP2pRegistration
  deriving DecidableEq

inductive CheckError
  | empty (field : String)
  | tooLong (field : String) (limit length : Nat)
  | p2pNotAllowed
  | relayNotAllowed
  deriving DecidableEq

/-- The length of a field, in bytes. -/
def checkLength (field text : String) (limit : Nat) : Except CheckError Unit :=
  ensure (text.utf8ByteSize ≤ limit) (.tooLong field limit text.utf8ByteSize)

namespace RegisterRequest

def maxNetworkCodeLen : Nat := 32

def maxDeviceIdLen : Nat := 64

def maxNameLen : Nat := 128

def maxVersionLen : Nat := 32

def check (r : RegisterRequest) : Except CheckError Unit := do
  ensure (r.networkCode ≠ "") (.empty "network_code")
  checkLength "network_code" r.networkCode maxNetworkCodeLen
  ensure (r.msg.deviceId ≠ "") (.empty "device_id")
  checkLength "device_id" r.msg.deviceId maxDeviceIdLen
  checkLength "name" r.msg.name maxNameLen
  checkLength "version" r.msg.version maxVersionLen
  ensure (r.wireguardP2p.isNone ∨ r.msg.allowWireGuard = true) .p2pNotAllowed
  ensure (r.msg.clientCapabilities &&&
    (clientCapWireguardSubnetRelay ||| clientCapWireguardBroadcastRelay) = 0 ∨
      r.msg.allowWireGuard = true) .relayNotAllowed

end RegisterRequest

inductive RegisterError
  | check (e : CheckError)
  | cluster (message : String)
  | allocate (e : AllocError)
  deriving DecidableEq

/-- What `register` gets from elsewhere. -/
structure RegisterEnv where
  /-- Whether the queries for the stored devices and reservations succeed. -/
  devicesRead : Bool
  allocationsRead : Bool
  /-- The answer of `acquire_lease`; no grant without a cluster. -/
  grant : Except String (Option Ipv4Addr)
  randomId : BitVec 64
  sender : Channel
  now : SystemTime

/-- The session, and the rows that are stored in the background. -/
structure Registered where
  session : Session
  network : Option NetworkRecord
  device : Option DeviceRecord

namespace ControlService

variable (svc : ControlService)

/-- `load_all_devices`: no rows without a database, none if the query fails. -/
def loadAllDevices (networkCode : String) (ok : Bool) : Option (List DeviceRecord) :=
  match svc.db with
  | none => some []
  | some db => if ok then some (db.resources.loadAllDevices networkCode) else none

/-- `load_wireguard_peer_ip_allocations`, in the same way. -/
def loadWireguardPeerIpAllocations (networkCode : String) (ok : Bool) :
    Option (List WireGuardPeerIpAllocation) :=
  match svc.db with
  | none => some []
  | some db => if ok then db.resources.loadWireguardPeerIpAllocations networkCode else none

/-- The state of a network as stored. -/
def storedState (networkCode : String) (config : NetworkConfig) (env : RegisterEnv) : NetworkState :=
  NetworkState.newFromDb networkCode config.net config.leaseDuration
    (svc.loadAllDevices networkCode env.devicesRead)
    (svc.loadWireguardPeerIpAllocations networkCode env.allocationsRead) env.now

def getOrCreateNetworkState (networkCode : String) (config : NetworkConfig) (env : RegisterEnv) :
    ControlService × NetworkState :=
  match svc.networkStates.lookup networkCode with
  | some existing => (svc, existing)
  | none =>
    let state := svc.storedState networkCode config env
    ({ svc with networkStates := svc.networkStates.insert networkCode state }, state)

/-- The row of a network that a device has registered first. -/
def deviceNetworkRecord (networkCode : String) (config : NetworkConfig) (now : SystemTime) :
    NetworkRecord where
  networkCode := networkCode
  gateway := (gatewayOf config.net).toText
  netmask := BitVec.ofNat 8 config.net.prefixLen
  leaseDuration := secsAsI64 config.leaseDuration
  source := .deviceRegister
  createdAt := systemTimeToI64 now

/-- The service after `db_nets` has the network. -/
def enterNetwork (r : RegisterRequest) : ControlService :=
  if (svc.dbNets.lookup r.networkCode).isNone then
    { svc with
      dbNets := svc.dbNets.insert r.networkCode (svc.networkConfig r.networkCode r.msg.ip) }
  else svc

/-- The call with everything it leaves behind; the rows that it has stored in the background are
part of its result. -/
def register (r : RegisterRequest) (env : RegisterEnv) :
    ControlService × Except RegisterError Registered :=
  match r.check with
  | .error e => (svc, .error (.check e))
  | .ok () =>
    let isNewNetwork := (svc.dbNets.lookup r.networkCode).isNone
    let config := svc.networkConfig r.networkCode r.msg.ip
    let (svc1, state) := (svc.enterNetwork r).getOrCreateNetworkState r.networkCode config env
    match env.grant with
    | .error message => (svc1, .error (.cluster message))
    | .ok grant =>
      let req := Registry.grantedReq r.msg grant
      match state.allocateIpAndGetEntry req env.randomId env.sender env.now with
      | .error e => (svc1, .error (.allocate e))
      | .ok (state', ip, _, entry) =>
        ({ svc1 with networkStates := svc1.networkStates.insert r.networkCode state' },
          .ok
            { session := NetworkState.registerSession r.networkCode req ip env.randomId
              network := if isNewNetwork then
                some (deviceNetworkRecord r.networkCode config env.now) else none
              device := if r.msg.registrationMode = .normal then
                entry.map (·.toRecord r.networkCode) else none })

end ControlService

/-! ## What a service holds -/

/-- The leases and endpoints of a network. -/
@[ext] structure Holdings where
  leases : Ownership String Ipv4Addr
  peers : Ipv4Addr → Option String
  senders : Ipv4Addr → Option NetworkSender
  endpoints : Ipv4Addr → Option OnlineEndpoint

/-- No leases and no endpoints. -/
def Holdings.none : Holdings where
  leases := ⟨fun _ => .none, fun _ => .none⟩
  peers _ := .none
  senders _ := .none
  endpoints _ := .none

def NetworkState.holdings (st : NetworkState) : Holdings where
  leases := st.leaseState.table
  peers ip := st.leaseState.wireguardPeerIpMap.lookup ip
  senders ip := st.senderMap.lookup ip
  endpoints ip := st.onlineEndpoints.lookup ip

namespace ControlService

variable (svc : ControlService)

/-- What the network holds in memory. -/
def holdings (networkCode : String) : Holdings :=
  ((svc.networkStates.lookup networkCode).map NetworkState.holdings).getD .none

/-- The registry of networks, the leases and endpoints, and the rows of `networks` are the same. -/
structure Unchanged (svc' : ControlService) : Prop where
  dbNets : svc'.dbNets = svc.dbNets
  holdings : ∀ code, svc'.holdings code = svc.holdings code
  networks : svc'.db.map ControlDb.networks = svc.db.map ControlDb.networks

/-- No row that is read has an address for the state: no device has one, and no reservation is of a
usable address. -/
def NothingStored (networkCode : String) (net : Ipv4Net) (env : RegisterEnv) : Prop :=
  (∀ r ∈ (svc.loadAllDevices networkCode env.devicesRead).getD [], r.ip.bind Ipv4Addr.parse = none) ∧
    ∀ a ∈ (svc.loadWireguardPeerIpAllocations networkCode env.allocationsRead).getD [],
      ¬ Usable net (gatewayOf net) a.ip

/-- The request fails its check; or the network is known, and its state is in memory or has nothing
stored. -/
def Settled (r : RegisterRequest) (env : RegisterEnv) : Prop :=
  r.check ≠ .ok () ∨
    ∃ config, svc.dbNets.lookup r.networkCode = some config ∧
      ((svc.networkStates.lookup r.networkCode).isSome ∨
        svc.NothingStored r.networkCode config.net env)

variable {svc}

theorem Unchanged.refl : svc.Unchanged svc := ⟨rfl, fun _ => rfl, rfl⟩

/-- A call that fails after the check has entered the network and taken its state. -/
theorem register_error {r : RegisterRequest} {env : RegisterEnv} {svc' : ControlService}
    {e : RegisterError} (h : svc.register r env = (svc', .error e)) :
    (r.check ≠ .ok () ∧ svc' = svc) ∨ (r.check = .ok () ∧
        svc' = ((svc.enterNetwork r).getOrCreateNetworkState r.networkCode
          (svc.networkConfig r.networkCode r.msg.ip) env).1) := by
  unfold register at h
  split at h
  · rename_i e' he
    cases h
    exact .inl ⟨by rw [he]; nofun, rfl⟩
  · rename_i hok
    refine .inr ⟨hok, ?_⟩
    dsimp only at h
    split at h
    · cases h
      rfl
    · split at h
      · cases h
        rfl
      · cases h

/-- The rows of one network have different devices. -/
theorem ids_loadAllDevices (networkCode : String) (ok : Bool) :
    ((svc.loadAllDevices networkCode ok).getD []).Pairwise fun r r' => r.deviceId ≠ r'.deviceId := by
  unfold loadAllDevices
  split
  · exact .nil
  · split
    · exact Database.ids_loadAllDevices
    · exact .nil

end ControlService

namespace NetworkStateInner

variable {net : Ipv4Net} {gateway : Ipv4Addr} {now : SystemTime}

/-- Rows without addresses leave the index as it is. -/
theorem owner_loadDevices_none {l : List DeviceRecord} {s : NetworkStateInner}
    (hl : ∀ r ∈ l, r.ip.bind Ipv4Addr.parse = none) :
    (l.foldl (loadDevice net gateway now) s).deviceIpMap = s.deviceIpMap := by
  induction l generalizing s with
  | nil => rfl
  | cons r l ih =>
    have hr : (DeviceEntry.fromRecord r now).ip = none := hl r List.mem_cons_self
    rw [List.foldl_cons, ih fun x hx => hl x (List.mem_cons_of_mem _ hx)]
    simp only [loadDevice, hr]

end NetworkStateInner

namespace NetworkState

variable {networkCode : String} {net : Ipv4Net} {leaseDuration : Nat}
  {devices : Option (List DeviceRecord)} {allocations : Option (List WireGuardPeerIpAllocation)}
  {now : SystemTime}

/-- What a load leaves in memory, by the rows it reads. -/
theorem holdings_newFromDb
    (hids : (devices.getD []).Pairwise fun r r' => r.deviceId ≠ r'.deviceId) :
    (newFromDb networkCode net leaseDuration devices allocations now).holdings = .none ↔
      (∀ r ∈ devices.getD [], r.ip.bind Ipv4Addr.parse = none) ∧
        ∀ a ∈ allocations.getD [], ¬ Usable net (gatewayOf net) a.ip := by
  have hlease : ∀ d, (newFromDb networkCode net leaseDuration devices allocations
      now).leaseState.leaseOf d =
        (((devices.getD []).find? (·.deviceId == d)).bind (·.ip)).bind Ipv4Addr.parse :=
    NetworkStateInner.leaseOf_load hids allocations now
  constructor
  · intro h
    refine ⟨fun r hr => ?_, fun a ha hu => ?_⟩
    · have hheld : (newFromDb networkCode net leaseDuration devices allocations
          now).leaseState.leaseOf r.deviceId = none :=
        congrFun (congrArg (fun x => x.leases.held) h) r.deviceId
      have hfind : (devices.getD []).find? (·.deviceId == r.deviceId) = some r := by
        cases hf : (devices.getD []).find? (·.deviceId == r.deviceId) with
        | none => exact absurd (beq_self_eq_true _) (List.find?_eq_none.mp hf r hr)
        | some r' =>
          -- The ids are different, so the row that is found is the row itself.
          have hnodup : ((devices.getD []).map (·.deviceId)).Nodup := List.pairwise_map.mpr hids
          have hid : r'.deviceId = r.deviceId := by simpa using List.find?_some hf
          rw [List.inj_on_of_nodup_map hnodup (List.mem_of_find?_eq_some hf) hr hid]
      rwa [hlease, hfind] at hheld
    · exact NetworkStateInner.peer_of_loadPeers hu (.inr ⟨a, ha, rfl⟩)
        (congrFun (congrArg Holdings.peers h) a.ip)
  · rintro ⟨hdev, hpeer⟩
    refine Holdings.ext (Ownership.ext (funext fun d => ?_) (funext fun ip => ?_))
      (funext fun ip => ?_) rfl rfl
    · refine (hlease d).trans ?_
      cases hf : (devices.getD []).find? (·.deviceId == d) with
      | none => rfl
      | some r => exact hdev r (List.mem_of_find?_eq_some hf)
    · refine (congrFun (congrArg Ownership.owner (NetworkStateInner.table_loadPeers _ _)) ip).trans ?_
      exact congrArg (AList.lookup ip) (NetworkStateInner.owner_loadDevices_none hdev)
    · refine Option.eq_none_iff_forall_not_mem.mpr fun p hp => ?_
      rcases ReserveState.mem_of_loadPeers _ _ hp with h | ⟨ha, hu⟩
      · rw [ReserveState.wireguardPeerIpMap_loadDevices] at h
        cases h
      · exact hpeer _ ha hu

end NetworkState

namespace ControlService

variable {svc : ControlService}

@[simp] theorem dbNets_getOrCreate (networkCode : String) (config : NetworkConfig)
    (env : RegisterEnv) :
    (svc.getOrCreateNetworkState networkCode config env).1.dbNets = svc.dbNets := by
  unfold getOrCreateNetworkState
  split <;> rfl

@[simp] theorem db_getOrCreate (networkCode : String) (config : NetworkConfig)
    (env : RegisterEnv) : (svc.getOrCreateNetworkState networkCode config env).1.db = svc.db := by
  unfold getOrCreateNetworkState
  split <;> rfl

variable {config : NetworkConfig} {env : RegisterEnv} {networkCode : String}

/-- A new state is the only difference. -/
theorem holdings_getOrCreate (h : svc.networkStates.lookup networkCode = none) (code : String) :
    (svc.getOrCreateNetworkState networkCode config env).1.holdings code =
      if code = networkCode then (svc.storedState networkCode config env).holdings
      else svc.holdings code := by
  simp only [getOrCreateNetworkState, h, holdings, HashMap.lookup_insert_if]
  split <;> rfl

theorem unchanged_getOrCreate :
    svc.Unchanged (svc.getOrCreateNetworkState networkCode config env).1 ↔
      (svc.networkStates.lookup networkCode).isSome ∨
        svc.NothingStored networkCode config.net env := by
  rw [NothingStored, ← NetworkState.holdings_newFromDb (ids_loadAllDevices networkCode _)]
  cases hl : svc.networkStates.lookup networkCode with
  | some st =>
    have hsame : (svc.getOrCreateNetworkState networkCode config env).1 = svc := by
      simp only [getOrCreateNetworkState, hl]
    rw [hsame]
    exact ⟨fun _ => .inl rfl, fun _ => .refl⟩
  | none =>
    have hnone : svc.holdings networkCode = .none := by simp [holdings, hl]
    refine ⟨fun h => .inr ?_, fun h => ⟨dbNets_getOrCreate .., fun code => ?_, by
      rw [db_getOrCreate]⟩⟩
    · have := h.holdings networkCode
      rwa [holdings_getOrCreate hl, if_pos rfl, hnone] at this
    · rw [holdings_getOrCreate hl]
      split
      · rename_i hc
        rw [hc, hnone]
        exact h.resolve_left (by simp)
      · rfl

/-- **Failed registrations.** A registration that fails leaves the registry of networks, the leases
and endpoints of every network and the table of networks as they were exactly if the request fails its
check, or the network is known and its state is in memory or has no stored leases. -/
theorem failed_register_unchanged_iff (svc svc' : ControlService) (r : RegisterRequest)
    (env : RegisterEnv) (e : RegisterError) (h : svc.register r env = (svc', .error e)) :
    svc.Unchanged svc' ↔ svc.Settled r env := by
  rcases register_error h with ⟨hcheck, rfl⟩ | ⟨hcheck, rfl⟩
  · exact ⟨fun _ => .inl hcheck, fun _ => .refl⟩
  · cases hn : svc.dbNets.lookup r.networkCode with
    | some config =>
      have henter : svc.enterNetwork r = svc := by simp [enterNetwork, hn]
      rw [henter, unchanged_getOrCreate, networkConfig_of_lookup hn]
      simp [Settled, hcheck, hn]
    | none =>
      -- The network is entered, so `db_nets` has changed.
      have hnets : (svc.enterNetwork r).dbNets.lookup r.networkCode ≠ none := by
        simp [enterNetwork, hn]
      refine ⟨fun hu => ?_, fun hs => ?_⟩
      · have hsame := hu.dbNets
        rw [dbNets_getOrCreate] at hsame
        rw [hsame] at hnets
        exact absurd hn hnets
      · rcases hs with hs | ⟨config, hs, -⟩
        · exact absurd hcheck hs
        · rw [hn] at hs
          cases hs

/-- A device asks for the gateway of the network around its address, and for no other. -/
def gatewayRequest : RegisterRequest where
  networkCode := "home"
  msg := { deviceId := "laptop", ip := some (Ipv4Addr.new 192 168 7 1), name := "", version := "",
           keySign := none, ipVariable := false, registrationMode := .normal,
           allowWireGuard := false, clientCapabilities := 0 }
  wireguardP2p := none

/-- No cluster. -/
def standaloneEnv : RegisterEnv where
  devicesRead := true
  allocationsRead := true
  grant := .ok none
  randomId := 7
  sender := default
  now := 0

/-- The refused registration has fixed the subnet: the next device that asks for no address gets
192.168.7.0/24, and not the default network. -/
theorem failed_register_fixes_subnet :
    ∃ svc', emptyService.register gatewayRequest standaloneEnv =
        (svc', .error (.allocate .gateway)) ∧
      ¬ emptyService.Unchanged svc' ∧
      (emptyService.networkConfig "home" none).net = emptyService.defaultNet ∧
      (svc'.networkConfig "home" none).net ≠ emptyService.defaultNet := by
  refine ⟨_, rfl, fun h => ?_, rfl, by decide⟩
  have hnets := congrArg (AList.lookup "home") h.dbNets
  cases hnets

/-- The network is known and in memory. -/
def homeService : ControlService :=
  { emptyService with
    dbNets := (∅ : HashMap String NetworkConfig).insert "home"
      (.ofRegister emptyService.defaultNet oneDay (some (Ipv4Addr.new 192 168 7 1)))
    networkStates := (∅ : HashMap String NetworkState).insert "home"
      (.newFromDb "home" (NetworkConfig.ofRegister emptyService.defaultNet oneDay
        (some (Ipv4Addr.new 192 168 7 1))).net oneDay none none 0) }

theorem failed_register_unchanged_known_network :
    ∃ svc', homeService.register gatewayRequest standaloneEnv =
        (svc', .error (.allocate .gateway)) ∧ homeService.Unchanged svc' :=
  ⟨_, rfl, (failed_register_unchanged_iff homeService _ gatewayRequest standaloneEnv _ rfl).mpr
    (.inr ⟨_, rfl, .inl rfl⟩)⟩

end ControlService

end Vntc
