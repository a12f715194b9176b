import Vntc.Lib.Checks
import Vntc.Lib.Ipv4Text
import Vntc.Server.Network
import Vntc.Server.Db.Occupancy

/-!
# The configured networks

`add_network` and `update_network` of `server/control_server/service.rs`, the rows of `networks`
they store (`server/control_server/db.rs`), and what is computed from a gateway and a netmask
afterwards. The configuration, a stored row and what is sent to the authority take the address below
the gateway for the network address and leave its host bits as they are, while `newFromDb` takes the
address above the network address for the gateway. They agree exactly if the gateway is the first
address after the network address (`accepted_agrees_iff`). Nothing checks that when a network is
added or edited.
-/

namespace Vntc

open Lib

inductive NetworkSource
  | config
  | manual
  | deviceRegister
  deriving DecidableEq

/-- The seconds of a duration as stored. -/
def secsAsI64 (duration : Nat) : Int := (BitVec.ofNat 64 (duration / 10 ^ 9)).toInt

/-- Stored seconds as an unsigned number. -/
def secsAsU64 (secs : Int) : Nat := (BitVec.ofInt 64 secs).toNat

/-- A row of `networks`. -/
structure NetworkRecord where
  networkCode : String
  gateway : String
  netmask : BitVec 8
  leaseDuration : Int
  source : NetworkSource
  createdAt : Int
  deriving DecidableEq

/-- The network of a gateway: the address below it, which wraps, with its host bits. -/
def netBelow (gateway : Ipv4Addr) (netmask : BitVec 8) : Option Ipv4Net :=
  Ipv4Net.new? (gateway - 1#32) netmask.toNat

/-- The network of a stored row, read when the server starts. -/
def NetworkRecord.toIpv4Net (r : NetworkRecord) : Option Ipv4Net :=
  (Ipv4Addr.parse r.gateway).bind fun gateway => netBelow gateway r.netmask

structure NetworkConfig where
  net : Ipv4Net
  leaseDuration : Nat
  source : NetworkSource

/-- The configuration of a network that a device registers first: the 256 addresses around the
address it asks for, or the default network. -/
def NetworkConfig.ofRegister (defaultNet : Ipv4Net) (defaultLeaseDuration : Nat)
    (ip : Option Ipv4Addr) : NetworkConfig where
  net := match ip with
    | some ip => Ipv4Net.trunc ⟨ip, 24, Nat.le_of_ble_eq_true rfl⟩
    | none => defaultNet
  leaseDuration := defaultLeaseDuration
  source := .deviceRegister

/-- An address of the database as the authority of the cluster is asked for it. -/
structure LocalIpAllocation where
  networkCode : String
  ownerType : OwnerType
  ownerId : String
  ip : Ipv4Addr
  network : Ipv4Net
  gateway : Ipv4Addr
  leaseDurationSecs : Nat

def NetworkRecord.isNetwork (networkCode : String) (r : NetworkRecord) : Bool :=
  r.networkCode == networkCode

/-- The table `networks`, with its primary key. -/
def networks : Schema NetworkRecord where
  check _ := true
  clash r x := r.isNetwork x.networkCode
  clash_comm r x := by
    rw [Bool.eq_iff_iff, NetworkRecord.isNetwork, NetworkRecord.isNetwork, beq_iff_eq, beq_iff_eq]
    exact eq_comm

/-- The rows of `networks`, and the tables of what a network holds. -/
structure ControlDb where
  networks : Table networks
  resources : Database

namespace ControlDb

variable (db : ControlDb)

def networkHasResourceOwners (networkCode : String) : Bool :=
  db.resources.devices.rows.any (·.networkCode == networkCode) ||
  db.resources.allocations.rows.any (·.networkCode == networkCode) ||
  db.resources.peers.rows.any (·.networkCode == networkCode)

/-- `INSERT OR REPLACE`. -/
def saveNetwork (r : NetworkRecord) : Option ControlDb :=
  (db.networks.put (NetworkRecord.isNetwork r.networkCode) r).map ({ db with networks := · })

/-- `UPDATE`, which changes nothing if the network has no row. -/
def updateNetwork (networkCode gateway : String) (netmask : BitVec 8) (leaseDuration : Int) :
    Option ControlDb :=
  match db.networks.find (NetworkRecord.isNetwork networkCode) with
  | none => some db
  | some r =>
    (db.networks.replace (NetworkRecord.isNetwork networkCode)
      { r with gateway, netmask, leaseDuration }).map ({ db with networks := · })

/-- One allocation joined with the row of its network. -/
def localIpAllocation (n : NetworkRecord) (a : IpAllocation) : Option LocalIpAllocation :=
  (Ipv4Addr.parse n.gateway).bind fun gateway =>
  (netBelow gateway n.netmask).bind fun network =>
  (Ipv4Addr.parse a.ip).map fun ip =>
    { networkCode := a.networkCode, ownerType := a.ownerType, ownerId := a.ownerId, ip, network,
      gateway, leaseDurationSecs := secsAsU64 (max n.leaseDuration 10) }

/-- One row that cannot be read fails the whole load. -/
def loadLocalIpAllocations : Option (List LocalIpAllocation) :=
  (db.resources.allocations.rows.filterMap fun a =>
    (db.networks.find (NetworkRecord.isNetwork a.networkCode)).map fun n => (n, a)).mapM
      fun e => localIpAllocation e.1 e.2

end ControlDb

/-- The statement that failed, by the context its error is given. -/
inductive DbRequest
  | saveNetwork
  | checkOwners
  | updateNetwork
  deriving DecidableEq

inductive NetworkError
  | networkExists (networkCode : String)
  | noNetwork (networkCode : String)
  | hasOwners
  | hasDevices
  | invalidNetwork
  | database (request : DbRequest)
  deriving DecidableEq

/-- Devices and online peers, and online addresses, as 32-bit numbers. -/
def NetworkState.count (st : NetworkState) : BitVec 32 × BitVec 32 :=
  (BitVec.ofNat 32 st.leaseState.deviceMap.values.length +
    BitVec.ofNat 32 ((HashMap.values st.onlineEndpoints).filter OnlineEndpoint.isWireGuard).length,
    BitVec.ofNat 32 (HashMap.len st.senderMap))

/-- The service, with the database if there is one (`DB_POOL`). -/
structure ControlService where
  defaultNet : Ipv4Net
  defaultLeaseDuration : Nat
  dbNets : HashMap String NetworkConfig
  networkStates : HashMap String NetworkState
  db : Option ControlDb

namespace ControlService

variable (svc : ControlService)

/-- The configuration from which the state of a network is created. -/
def networkConfig (networkCode : String) (ip : Option Ipv4Addr) : NetworkConfig :=
  (svc.dbNets.lookup networkCode).getD (.ofRegister svc.defaultNet svc.defaultLeaseDuration ip)

/-- A statement that writes; without a database it does nothing. -/
def write (request : DbRequest) (ok : Bool) (stmt : ControlDb → Option ControlDb) :
    Except NetworkError ControlService :=
  match svc.db with
  | none => .ok svc
  | some db =>
    match if ok then stmt db else none with
    | none => .error (.database request)
    | some db' => .ok { svc with db := some db' }

/-- The row is stored before the netmask is looked at. -/
def addNetwork (networkCode : String) (gateway : Ipv4Addr) (netmask : BitVec 8)
    (leaseDuration : Option Nat) (now : Int) (saved : Bool) :
    ControlService × Except NetworkError Unit :=
  if (svc.dbNets.lookup networkCode).isSome then (svc, .error (.networkExists networkCode))
  else
    let lease := leaseDuration.getD svc.defaultLeaseDuration
    match svc.write .saveNetwork saved (·.saveNetwork
      { networkCode, gateway := gateway.toText, netmask, leaseDuration := secsAsI64 lease,
        source := .manual, createdAt := now }) with
    | .error e => (svc, .error e)
    | .ok svc1 =>
      match netBelow gateway netmask with
      | none => (svc1, .error .invalidNetwork)
      | some net =>
        ({ svc1 with dbNets := svc1.dbNets.insert networkCode ⟨net, lease, .manual⟩ }, .ok ())

def networkHasResourceOwners (networkCode : String) (ok : Bool) : Except NetworkError Bool :=
  match svc.db with
  | none => .ok false
  | some db => if ok then .ok (db.networkHasResourceOwners networkCode)
    else .error (.database .checkOwners)

def updateNetwork (networkCode : String) (gateway : Ipv4Addr) (netmask : BitVec 8)
    (leaseDuration : Nat) (checked updated : Bool) : ControlService × Except NetworkError Unit :=
  match svc.dbNets.lookup networkCode with
  | none => (svc, .error (.noNetwork networkCode))
  | some original =>
    match svc.networkHasResourceOwners networkCode checked with
    | .error e => (svc, .error e)
    | .ok true => (svc, .error .hasOwners)
    | .ok false =>
      if (svc.networkStates.lookup networkCode).any fun st => decide (0#32 < st.count.1) then
        (svc, .error .hasDevices)
      else
        match svc.write .updateNetwork updated
          (·.updateNetwork networkCode gateway.toText netmask (secsAsI64 leaseDuration)) with
        | .error e => (svc, .error e)
        | .ok svc1 =>
          match netBelow gateway netmask with
          | none => (svc1, .error .invalidNetwork)
          | some net =>
            ({ svc1 with
                dbNets := svc1.dbNets.insert networkCode ⟨net, leaseDuration, original.source⟩
                networkStates := svc1.networkStates.erase networkCode }, .ok ())

/-! ## What an accepted network leaves behind -/

/-- The configuration and the row of a network that was added or edited. -/
structure Configured (networkCode : String) (gateway : Ipv4Addr) (netmask : BitVec 8)
    (net : Ipv4Net) : Prop where
  below : netBelow gateway netmask = some net
  config : ∀ ip, (svc.networkConfig networkCode ip).net = net
  row : ∀ db, svc.db = some db → ∀ r ∈ db.networks.rows, r.networkCode = networkCode →
    r.gateway = gateway.toText ∧ r.netmask = netmask

variable {svc} {svc' : ControlService} {networkCode : String} {gateway : Ipv4Addr}
  {netmask : BitVec 8} {net : Ipv4Net}

theorem write_ok {request : DbRequest} {ok : Bool} {stmt : ControlDb → Option ControlDb}
    (h : svc.write request ok stmt = .ok svc') :
    (svc.db = none ∧ svc' = svc) ∨
      ∃ db db', svc.db = some db ∧ stmt db = some db' ∧ svc' = { svc with db := some db' } := by
  unfold write at h
  split at h
  · rename_i hdb
    cases h
    exact .inl ⟨hdb, rfl⟩
  · rename_i db hdb
    split at h
    · cases h
    · rename_i db' hstmt
      cases h
      cases ok with
      | false => cases hstmt
      | true => exact .inr ⟨db, db', hdb, hstmt, rfl⟩

theorem row_of_saveNetwork {db db' : ControlDb} {r : NetworkRecord}
    (h : db.saveNetwork r = some db') :
    ∀ x ∈ db'.networks.rows, x.networkCode = r.networkCode → x = r := by
  obtain ⟨t, ht, rfl⟩ := Option.map_eq_some_iff.mp h
  intro x hx hc
  rcases (Table.mem_put ht x).mp hx with ⟨-, hn⟩ | rfl
  · rw [NetworkRecord.isNetwork, beq_eq_false_iff_ne] at hn
    exact absurd hc hn
  · rfl

theorem row_of_updateNetwork {db db' : ControlDb} {text : String} {secs : Int}
    (h : db.updateNetwork networkCode text netmask secs = some db') :
    ∀ x ∈ db'.networks.rows, x.networkCode = networkCode →
      x.gateway = text ∧ x.netmask = netmask := by
  unfold ControlDb.updateNetwork at h
  intro x hx hc
  split at h
  · rename_i hnone
    cases h
    have hn := Table.find_eq_none.mp hnone x hx
    rw [NetworkRecord.isNetwork, beq_eq_false_iff_ne] at hn
    exact absurd hc hn
  · obtain ⟨t, ht, rfl⟩ := Option.map_eq_some_iff.mp h
    rcases (Table.mem_replace ht x).mp hx with ⟨-, hn⟩ | ⟨rfl, -⟩
    · rw [NetworkRecord.isNetwork, beq_eq_false_iff_ne] at hn
      exact absurd hc hn
    · exact ⟨rfl, rfl⟩

theorem networkConfig_of_lookup {config : NetworkConfig}
    (h : svc.dbNets.lookup networkCode = some config) (ip : Option Ipv4Addr) :
    svc.networkConfig networkCode ip = config := by
  rw [networkConfig, h, Option.getD_some]

theorem configured_of_addNetwork {lease : Option Nat} {now : Int} {saved : Bool}
    (h : svc.addNetwork networkCode gateway netmask lease now saved = (svc', .ok ())) :
    ∃ net, svc'.Configured networkCode gateway netmask net := by
  unfold addNetwork at h
  split at h
  · cases h
  · dsimp only at h
    split at h
    · cases h
    · rename_i svc1 hw
      split at h
      · cases h
      · rename_i net hnet
        cases h
        refine ⟨net, hnet, fun ip => ?_, fun db hdb r hr hc => ?_⟩
        · rw [networkConfig_of_lookup (AList.lookup_insert _)]
        · rcases write_ok hw with ⟨hnone, rfl⟩ | ⟨db0, db', -, hs, rfl⟩
          · rw [hnone] at hdb; cases hdb
          · cases hdb
            rw [row_of_saveNetwork hs r hr hc]
            exact ⟨rfl, rfl⟩

theorem configured_of_updateNetwork {lease : Nat} {checked updated : Bool}
    (h : svc.updateNetwork networkCode gateway netmask lease checked updated = (svc', .ok ())) :
    ∃ net, svc'.Configured networkCode gateway netmask net := by
  unfold updateNetwork at h
  split at h
  · cases h
  · split at h
    · cases h
    · cases h
    · split at h
      · cases h
      · split at h
        · cases h
        · rename_i svc1 hw
          split at h
          · cases h
          · rename_i net hnet
            cases h
            refine ⟨net, hnet, fun ip => ?_, fun db hdb r hr hc => ?_⟩
            · rw [networkConfig_of_lookup (AList.lookup_insert _)]
            · rcases write_ok hw with ⟨hnone, rfl⟩ | ⟨db0, db', -, hs, rfl⟩
              · rw [hnone] at hdb; cases hdb
              · cases hdb
                exact row_of_updateNetwork hs r hr hc

/-! ## Agreement of the computations -/

/-- `add_network` or `update_network` accepted the gateway and the netmask. -/
def Accepts (svc : ControlService) (networkCode : String) (gateway : Ipv4Addr) (netmask : BitVec 8)
    (svc' : ControlService) : Prop :=
  (∃ lease now saved,
    svc.addNetwork networkCode gateway netmask lease now saved = (svc', .ok ())) ∨
  ∃ lease checked updated,
    svc.updateNetwork networkCode gateway netmask lease checked updated = (svc', .ok ())

/-- Every computation of the network and its gateway gives `subnet` and `gateway`. -/
structure Agrees (svc : ControlService) (networkCode : String) (gateway : Ipv4Addr)
    (subnet : Ipv4Net) : Prop where
  /-- The state created from the configuration in memory. -/
  state : ∀ ip devices allocations now,
    let config := svc.networkConfig networkCode ip
    let st := NetworkState.newFromDb networkCode config.net config.leaseDuration devices allocations now
    st.gateway = gateway ∧ st.net = subnet.trunc
  /-- The configuration in memory, with the gateway that is shown for it. -/
  memory : ∀ ip, (svc.networkConfig networkCode ip).net.range = subnet.range ∧
    gatewayOf (svc.networkConfig networkCode ip).net = gateway
  /-- The stored row, read when the server starts. -/
  restart : ∀ db, svc.db = some db → ∀ r ∈ db.networks.rows, r.networkCode = networkCode →
    ∃ net, r.toIpv4Net = some net ∧ net.range = subnet.range ∧ gatewayOf net = gateway
  /-- What the authority of the cluster is asked for. -/
  cluster : ∀ db, svc.db = some db → ∀ l, db.loadLocalIpAllocations = some l →
    ∀ a ∈ l, a.networkCode = networkCode → a.network.range = subnet.range ∧ a.gateway = gateway

/-- The network below a gateway is that of the gateway, and starts right below it, exactly if the
gateway is the first address after the network address. -/
theorem below_agrees_iff (subnet : Ipv4Net) (hn : net.addr = gateway - 1#32)
    (hs : subnet.addr = gateway) (hp : net.prefixLen = subnet.prefixLen) :
    gatewayOf net = gateway ∧ net = subnet.trunc ↔ gateway = gatewayOf subnet := by
  constructor
  · rintro ⟨hg, ht⟩
    have hnet : net.network = subnet.network :=
      Ipv4Net.network_of_network subnet net (by rw [ht]; rfl) hp
    rw [← hg, gatewayOf, gatewayOf, hnet]
  · intro hg
    have haddr : net.addr = subnet.network := by
      rw [hn, hg, gatewayOf, BitVec.add_sub_cancel]
    have hnet : net.network = subnet.network := Ipv4Net.network_of_network subnet net haddr hp
    refine ⟨by rw [gatewayOf, hnet]; exact hg.symm, ?_⟩
    cases net
    cases subnet
    cases hp
    cases haddr
    rfl

/-- An entry of a load comes from an allocation and the row of its network. -/
theorem mem_loadLocalIpAllocations {db : ControlDb} {l : List LocalIpAllocation}
    (h : db.loadLocalIpAllocations = some l) {a : LocalIpAllocation} (ha : a ∈ l) :
    ∃ n ∈ db.networks.rows, ∃ x, n.networkCode = a.networkCode ∧
      ControlDb.localIpAllocation n x = some a := by
  obtain ⟨⟨n, x⟩, hm, hf⟩ := exists_of_mem_mapM h ha
  obtain ⟨y, -, hy⟩ := List.mem_filterMap.mp hm
  obtain ⟨n', hfind, he⟩ := Option.map_eq_some_iff.mp hy
  cases he
  obtain ⟨gateway, -, hb⟩ := Option.bind_eq_some_iff.mp hf
  obtain ⟨network, -, hb⟩ := Option.bind_eq_some_iff.mp hb
  obtain ⟨ip, -, hb⟩ := Option.map_eq_some_iff.mp hb
  have hcode : n.networkCode = x.networkCode := by
    simpa [NetworkRecord.isNetwork] using List.find?_some hfind
  refine ⟨n, List.mem_of_find?_eq_some hfind, x, ?_, hf⟩
  rw [hcode, ← hb]

namespace Configured

variable (hc : svc.Configured networkCode gateway netmask net)
include hc

theorem addr_eq : net.addr = gateway - 1#32 := (Ipv4Net.new?_eq_some.mp hc.below).1

theorem prefixLen_eq : net.prefixLen = netmask.toNat := (Ipv4Net.new?_eq_some.mp hc.below).2

theorem toIpv4Net_row {db : ControlDb} (hdb : svc.db = some db) {r : NetworkRecord}
    (hr : r ∈ db.networks.rows) (hcode : r.networkCode = networkCode) : r.toIpv4Net = some net := by
  obtain ⟨hg, hm⟩ := hc.row db hdb r hr hcode
  rw [NetworkRecord.toIpv4Net, hg, hm, Ipv4Addr.parse_toText]
  exact hc.below

theorem cluster_entry {db : ControlDb} (hdb : svc.db = some db) {l : List LocalIpAllocation}
    (hl : db.loadLocalIpAllocations = some l) {a : LocalIpAllocation} (ha : a ∈ l)
    (hcode : a.networkCode = networkCode) : a.network = net ∧ a.gateway = gateway := by
  obtain ⟨n, hn, x, hcn, hx⟩ := mem_loadLocalIpAllocations hl ha
  obtain ⟨hg, hm⟩ := hc.row db hdb n hn (hcn.trans hcode)
  rw [ControlDb.localIpAllocation, hg, hm, Ipv4Addr.parse_toText, Option.bind_some, hc.below,
    Option.bind_some] at hx
  obtain ⟨ip, -, rfl⟩ := Option.map_eq_some_iff.mp hx
  exact ⟨rfl, rfl⟩

/-- If the state agrees, so does everything else. -/
theorem agrees {subnet : Ipv4Net} (hg : gatewayOf net = gateway) (ht : net = subnet.trunc) :
    svc.Agrees networkCode gateway subnet := by
  have hrange : net.range = subnet.range := by
    rw [ht]
    exact (subnet.range_eq_iff (n := subnet.trunc) rfl).mpr
      (subnet.network_of_network subnet.trunc rfl rfl)
  refine ⟨fun ip devices allocations now => ?_, fun ip => ?_, fun db hdb r hr hcode => ?_,
    fun db hdb l hl a ha hcode => ?_⟩
  · exact ⟨by rw [← hg, ← hc.config ip]; rfl, by rw [← ht, ← hc.config ip]; rfl⟩
  · rw [hc.config ip]
    exact ⟨hrange, hg⟩
  · exact ⟨net, hc.toIpv4Net_row hdb hr hcode, hrange, hg⟩
  · obtain ⟨hnet, hgw⟩ := hc.cluster_entry hdb hl ha hcode
    rw [hnet]
    exact ⟨hrange, hgw⟩

end Configured

theorem configured_of_accepts (h : svc.Accepts networkCode gateway netmask svc') :
    ∃ net, svc'.Configured networkCode gateway netmask net := by
  rcases h with ⟨lease, now, saved, h⟩ | ⟨lease, checked, updated, h⟩
  · exact configured_of_addNetwork h
  · exact configured_of_updateNetwork h

/-- The computations agree exactly if the gateway is the first address after the network address of
its subnet. -/
theorem accepted_agrees_iff (h : svc.Accepts networkCode gateway netmask svc') :
    ∃ subnet, Ipv4Net.new? gateway netmask.toNat = some subnet ∧
      (svc'.Agrees networkCode gateway subnet ↔ gateway = subnet.network + 1#32) := by
  obtain ⟨net, hc⟩ := configured_of_accepts h
  let subnet : Ipv4Net := ⟨gateway, netmask.toNat, hc.prefixLen_eq ▸ net.prefix_le⟩
  have hiff := below_agrees_iff subnet hc.addr_eq rfl hc.prefixLen_eq
  refine ⟨subnet, Ipv4Net.new?_eq_some.mpr ⟨rfl, rfl⟩, fun ha => hiff.mp ?_, fun hg => ?_⟩
  · have hst := ha.state none none none 0
    exact ⟨by rw [← hc.config none]; exact hst.1, by rw [← hc.config none]; exact hst.2⟩
  · obtain ⟨hgw, ht⟩ := hiff.mpr hg
    exact hc.agrees hgw ht

/-- A service without networks and without a database. -/
def emptyService : ControlService where
  defaultNet := Vntc.defaultNet
  defaultLeaseDuration := oneDay
  dbNets := ∅
  networkStates := ∅
  db := none

/-- A database with the address of a device, whose network has no row yet. -/
def storedService : ControlService :=
  { emptyService with
    db := some
      { networks := .empty
        resources :=
          { networks := ["office"]
            devices := .empty
            peers := .empty
            allocations := .single ⟨"office", "10.26.0.2", .vntDevice, "laptop"⟩ rfl } } }

/-- 10.26.0.1/24 with a database: the row is stored, and the device's address is sent to the
authority. -/
theorem accepted_agrees_first_host :
    ∃ svc', storedService.Accepts "office" (homeIp 1) 24#8 svc' ∧
      (svc'.db.map (·.networks.rows.length)) = some 1 ∧
      ((svc'.db.bind (·.loadLocalIpAllocations)).map (·.length)) = some 1 ∧
      svc'.Agrees "office" (homeIp 1) ⟨homeIp 1, 24, by decide⟩ := by
  have h : storedService.Accepts "office" (homeIp 1) 24#8
      (storedService.addNetwork "office" (homeIp 1) 24#8 none 0 true).1 :=
    .inl ⟨none, 0, true, rfl⟩
  obtain ⟨subnet, hs, hiff⟩ := accepted_agrees_iff h
  cases hs
  exact ⟨_, h, by decide, by decide, hiff.mpr (by decide)⟩

/-- 10.26.0.254/24 is accepted, and the state of the network takes 10.26.0.1 for its gateway. -/
theorem accepted_gateway_differs :
    ∃ svc', emptyService.addNetwork "office" (homeIp 254) 24#8 none 0 true =
        (svc', .ok ()) ∧
      (NetworkState.newFromDb "office" (svc'.networkConfig "office" none).net
        (svc'.networkConfig "office" none).leaseDuration none none 0).gateway =
          homeIp 1 ∧
      ¬ svc'.Agrees "office" (homeIp 254)
        ⟨homeIp 254, 24, by decide⟩ := by
  refine ⟨_, rfl, by decide, fun h => ?_⟩
  exact absurd (h.state none none none 0).1 (by decide)

end ControlService

end Vntc
