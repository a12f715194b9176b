import Vntc.Lib.KeyValue
import Vntc.Server.Control.Register
import Vntc.Server.Peer.Cluster

/-!
# The subnets of two servers

Servers of a cluster compare a digest of the networks in their configuration files when a link is
authenticated (`network_config_digest` of `main.rs`, `peer_cluster_compatible` of
`server/peer_server.rs`). The networks that administrators and devices create later are in no digest.
-/

namespace Vntc

open Lib ControlService HashMap ClusterConfig

/-! ## The digest -/

/-- The networks of a configuration file in the order of their codes. -/
def sortedNets (customNets : HashMap String Ipv4Net) : List (Σ _ : String, Ipv4Net) :=
  customNets.entries.insertionSort fun e e' => e.1 ≤ e'.1

theorem sortedNets_perm (customNets : HashMap String Ipv4Net) :
    (sortedNets customNets).Perm customNets.entries := List.perm_insertionSort _ _

/-- The text that is hashed. -/
def networkConfigText (defaultNetwork : Ipv4Net) (customNets : HashMap String Ipv4Net) : String :=
  KeyValue.text (("default", defaultNetwork.toText) ::
    (sortedNets customNets).map fun e => (e.1, e.2.toText))

/-- `sha256` gives the hexadecimal digest of a text. -/
def networkConfigDigest (sha256 : String → String) (defaultNetwork : Ipv4Net)
    (customNets : HashMap String Ipv4Net) : String :=
  sha256 (networkConfigText defaultNetwork customNets)

/-- No code has the sign that ends it. -/
def PlainCodes (customNets : HashMap String Ipv4Net) : Prop :=
  ∀ e ∈ customNets.entries, '=' ∉ e.1.toList

variable {d : Ipv4Net} {nets : HashMap String Ipv4Net} {x y : Server}

theorem plain_entries (h : PlainCodes nets) :
    ∀ e ∈ ("default", d.toText) :: (sortedNets nets).map fun e => (e.1, e.2.toText),
      KeyValue.Plain e := by
  intro e he
  rcases List.mem_cons.mp he with rfl | he
  · exact ⟨show '=' ∉ "default".toList by decide, d.newline_notMem_toText⟩
  · obtain ⟨x, hx, rfl⟩ := List.mem_map.mp he
    exact ⟨h x ((sortedNets_perm nets).mem_iff.mp hx), x.2.newline_notMem_toText⟩

/-- One text, one set of configured networks. -/
theorem networkConfigText_inj {d' : Ipv4Net} {nets' : HashMap String Ipv4Net}
    (hp : PlainCodes nets) (hp' : PlainCodes nets')
    (h : networkConfigText d nets = networkConfigText d' nets') :
    d = d' ∧ ∀ code, nets.lookup code = nets'.lookup code := by
  have ht := KeyValue.text_inj (plain_entries hp) (plain_entries hp') h
  obtain ⟨hd, hmap⟩ := List.cons.inj ht
  have hinj : Function.Injective fun e : Σ _ : String, Ipv4Net => (e.1, e.2.toText) := by
    rintro ⟨c, n⟩ ⟨c', n'⟩ he
    obtain ⟨hc, hn⟩ := Prod.mk.inj he
    cases hc
    cases Ipv4Net.toText_injective hn
    rfl
  have hsorted : sortedNets nets = sortedNets nets' := hinj.list_map hmap
  have hperm : nets.entries.Perm nets'.entries :=
    (sortedNets_perm nets).symm.trans (hsorted ▸ sortedNets_perm nets')
  exact ⟨Ipv4Net.toText_injective (Prod.mk.inj hd).2, fun code => AList.perm_lookup hperm⟩

/-! ## Starting -/

/-- The row of a configured network. -/
def configNetworkRecord (networkCode : String) (net : Ipv4Net) (leaseDuration : Nat)
    (now : SystemTime) : NetworkRecord where
  networkCode := networkCode
  gateway := (gatewayOf net).toText
  netmask := BitVec.ofNat 8 net.prefixLen
  leaseDuration := secsAsI64 leaseDuration
  source := .config
  createdAt := systemTimeToI64 now

namespace ControlDb

variable (db : ControlDb)

/-- `INSERT OR IGNORE`. -/
def saveNetworkIfNotExists (r : NetworkRecord) : ControlDb :=
  match db.networks.insert r with
  | some t => { db with networks := t }
  | none => db

def deleteNetwork (networkCode : String) : ControlDb :=
  { db with networks := db.networks.delete (NetworkRecord.isNetwork networkCode) }

/-- The loop body of `save_config_networks_to_db`. -/
def saveConfigNetwork (leaseDuration : Nat) (now : SystemTime) (saved : String → Bool)
    (e : Σ _ : String, Ipv4Net) : ControlDb :=
  if saved e.1 then db.saveNetworkIfNotExists (configNetworkRecord e.1 e.2 leaseDuration now)
  else db

/-- `save_config_networks_to_db`; `saved` says which statements succeed. -/
def saveConfigNetworks (customNets : HashMap String Ipv4Net) (leaseDuration : Nat)
    (now : SystemTime) (saved : String → Bool) : ControlDb :=
  customNets.entries.foldl (fun db e => db.saveConfigNetwork leaseDuration now saved e) db

end ControlDb

/-- The loop body of `load_networks_from_db`: a row that cannot be read is left out. -/
def loadNetwork (nets : HashMap String NetworkConfig) (r : NetworkRecord) :
    HashMap String NetworkConfig :=
  match r.toIpv4Net with
  | some net => nets.insert r.networkCode ⟨net, secsAsU64 r.leaseDuration * 1000000000, r.source⟩
  | none => nets

def loadNetworks (rows : List NetworkRecord) : HashMap String NetworkConfig :=
  rows.foldl loadNetwork ∅

/-- What a configuration file says about the networks and the cluster. -/
structure ServerConf where
  serverId : String
  leaseAuthority : String
  network : Ipv4Net
  customNets : HashMap String Ipv4Net
  leaseDuration : Nat

def ServerConf.cluster (sha256 : String → String) (conf : ServerConf) : ClusterConfig where
  serverId := conf.serverId
  leaseAuthority := conf.leaseAuthority
  networkConfigDigest := networkConfigDigest sha256 conf.network conf.customNets

/-- A server, with the rows of networks that wait to be stored. -/
structure Server where
  conf : ServerConf
  svc : ControlService
  unsaved : List NetworkRecord

/-- What happens while a server starts. -/
structure StartEnv where
  saved : String → Bool
  loaded : Bool
  now : SystemTime

/-- `ControlService::new`: stored rows go before the configuration file. -/
def Server.start (conf : ServerConf) (db : Option ControlDb) (env : StartEnv) : Server :=
  let db' := db.map (·.saveConfigNetworks conf.customNets conf.leaseDuration env.now env.saved)
  { conf
    svc :=
      { defaultNet := conf.network
        defaultLeaseDuration := conf.leaseDuration
        dbNets := if env.loaded then loadNetworks ((db'.map (·.networks.rows)).getD []) else ∅
        networkStates := ∅
        db := db' }
    unsaved := [] }

/-! ## Steps -/

inductive DeleteError
  | noNetwork (networkCode : String)
  | checkOwners
  | hasOwners
  | hasDevices
  | database
  deriving DecidableEq

def ControlService.deleteNetwork (svc : ControlService) (networkCode : String)
    (checked deleted : Bool) : ControlService × Except DeleteError Unit :=
  match svc.dbNets.lookup networkCode with
  | none => (svc, .error (.noNetwork networkCode))
  | some _ =>
    match svc.networkHasResourceOwners networkCode checked with
    | .error _ => (svc, .error .checkOwners)
    | .ok true => (svc, .error .hasOwners)
    | .ok false =>
      if (svc.networkStates.lookup networkCode).any fun st => decide (0#32 < st.count.1) then
        (svc, .error .hasDevices)
      else if svc.db.isSome && !deleted then (svc, .error .database)
      else
        ({ svc with
            dbNets := svc.dbNets.erase networkCode
            networkStates := svc.networkStates.erase networkCode
            db := svc.db.map (·.deleteNetwork networkCode) }, .ok ())

/-- The row gives the code the subnet. -/
def NetworkRecord.IsFor (r : NetworkRecord) (networkCode : String) (subnet : Ipv4Net) : Prop :=
  r.networkCode = networkCode ∧ ∃ net, r.toIpv4Net = some net ∧ net.trunc = subnet

/-- The service has the subnet for the code, in memory or in a stored row. -/
def ControlService.HasSubnet (svc : ControlService) (networkCode : String) (subnet : Ipv4Net) :
    Prop :=
  (∃ config, svc.dbNets.lookup networkCode = some config ∧ config.net.trunc = subnet) ∨
    ∃ db, svc.db = some db ∧ ∃ r ∈ db.networks.rows, r.IsFor networkCode subnet

/-- What can happen at a server. -/
inductive ServerOp
  | addNetwork (networkCode : String) (gateway : Ipv4Addr) (netmask : BitVec 8)
      (leaseDuration : Option Nat) (now : Int) (saved : Bool)
  | updateNetwork (networkCode : String) (gateway : Ipv4Addr) (netmask : BitVec 8)
      (leaseDuration : Nat) (checked updated : Bool)
  | deleteNetwork (networkCode : String) (checked deleted : Bool)
  | register (r : RegisterRequest) (env : RegisterEnv)
  /-- The background task of a registration stores the row of its network. -/
  | saveNetwork (r : NetworkRecord) (saved : Bool)
  | restart (conf : ServerConf) (env : StartEnv)
  /-- Devices and peers are stored or deleted. -/
  | resources (resources : Database)
  /-- The state of a network changes or is released. -/
  | operate (networkCode : String) (st : Option NetworkState)

namespace Server

variable (srv : Server)

def apply : ServerOp → Server
  | .addNetwork code gateway netmask lease now saved =>
    { srv with svc := (srv.svc.addNetwork code gateway netmask lease now saved).1 }
  | .updateNetwork code gateway netmask lease checked updated =>
    { srv with svc := (srv.svc.updateNetwork code gateway netmask lease checked updated).1 }
  | .deleteNetwork code checked deleted =>
    { srv with svc := (srv.svc.deleteNetwork code checked deleted).1 }
  | .register r env =>
    { srv with
      svc := (srv.svc.register r env).1
      unsaved := match (srv.svc.register r env).2 with
        | .ok x => srv.unsaved ++ x.network.toList
        | .error _ => srv.unsaved }
  | .saveNetwork r saved =>
    if srv.unsaved.contains r then
      { srv with
        svc := match srv.svc.write .saveNetwork saved (·.saveNetwork r) with
          | .ok svc => svc
          | .error _ => srv.svc
        unsaved := srv.unsaved.erase r }
    else srv
  | .restart conf env => .start conf srv.svc.db env
  | .resources resources =>
    { srv with svc := { srv.svc with db := srv.svc.db.map ({ · with resources }) } }
  | .operate code st =>
    match srv.svc.networkStates.lookup code, st with
    | none, _ => srv
    | some _, none =>
      { srv with svc := { srv.svc with networkStates := srv.svc.networkStates.erase code } }
    | some old, some st =>
      if st.gateway = old.gateway then
        { srv with svc := { srv.svc with networkStates := srv.svc.networkStates.insert code st } }
      else srv

/-- The server has the subnet for the code, in memory, stored or waiting to be stored. -/
def HasSubnet (networkCode : String) (subnet : Ipv4Net) : Prop :=
  srv.svc.HasSubnet networkCode subnet ∨ ∃ r ∈ srv.unsaved, r.IsFor networkCode subnet

/-- The step gives the code a subnet. -/
def Gives (networkCode : String) (subnet : Ipv4Net) : ServerOp → Prop
  | .addNetwork code gateway netmask _ _ _ =>
    code = networkCode ∧ srv.svc.dbNets.lookup code = none ∧
      ∃ net, netBelow gateway netmask = some net ∧ net.trunc = subnet
  | .updateNetwork code gateway netmask _ _ _ =>
    code = networkCode ∧ srv.svc.dbNets.lookup code ≠ none ∧
      ∃ net, netBelow gateway netmask = some net ∧ net.trunc = subnet
  | .register r _ =>
    r.networkCode = networkCode ∧ srv.svc.dbNets.lookup networkCode = none ∧
      (NetworkConfig.ofRegister srv.svc.defaultNet srv.svc.defaultLeaseDuration
        r.msg.ip).net.trunc = subnet
  | .restart conf _ =>
    ∃ net, conf.customNets.lookup networkCode = some net ∧ net.trunc = subnet ∧
      ∀ db, srv.svc.db = some db → ∀ r ∈ db.networks.rows, r.networkCode ≠ networkCode
  | .deleteNetwork _ _ _ => False
  | .saveNetwork _ _ => False
  | .resources _ => False
  | .operate _ _ => False

end Server

/-! ## What the operations add -/

namespace NetworkRecord

variable {r : NetworkRecord} {networkCode : String} {subnet : Ipv4Net}

theorem IsFor.below {gateway : Ipv4Addr} {netmask : BitVec 8} (h : r.IsFor networkCode subnet)
    (hg : r.gateway = gateway.toText) (hm : r.netmask = netmask) :
    ∃ net, netBelow gateway netmask = some net ∧ net.trunc = subnet := by
  obtain ⟨-, net, hnet, ht⟩ := h
  rw [toIpv4Net, hg, hm, Ipv4Addr.parse_toText] at hnet
  exact ⟨net, hnet, ht⟩

/-- The row of a network gives its subnet back. -/
theorem IsFor.of_net {own : Ipv4Net} (h : r.IsFor networkCode subnet)
    (hg : r.gateway = (gatewayOf own).toText) (hm : r.netmask = BitVec.ofNat 8 own.prefixLen) :
    own.trunc = subnet := by
  obtain ⟨net, hnet, ht⟩ := h.below hg hm
  obtain ⟨haddr, hlen⟩ := Ipv4Net.new?_eq_some.mp hnet
  have hle := own.prefix_le
  have hlen : net.prefixLen = own.prefixLen := by
    rw [hlen, BitVec.toNat_ofNat, Nat.mod_eq_of_lt (by omega)]
  have haddr : net.addr = own.network := by rw [haddr, gatewayOf, BitVec.add_sub_cancel]
  rw [← ht]
  exact (own.trunc_eq_iff.mpr ⟨Ipv4Net.network_of_network own net haddr hlen, hlen⟩).symm

end NetworkRecord

namespace ControlService

variable {svc : ControlService} {networkCode code : String} {subnet : Ipv4Net}
  {gateway : Ipv4Addr} {netmask : BitVec 8}

/-- One more network in memory; the states do not matter. -/
theorem hasSubnet_insert {new : NetworkConfig} {states : HashMap String NetworkState}
    (h : HasSubnet { svc with dbNets := svc.dbNets.insert code new, networkStates := states }
      networkCode subnet) :
    svc.HasSubnet networkCode subnet ∨ (code = networkCode ∧ new.net.trunc = subnet) := by
  rcases h with ⟨config, hc, ht⟩ | h
  · rcases lookup_insert_cases hc with ⟨he, rfl⟩ | ⟨-, hc⟩
    · exact .inr ⟨he.symm, ht⟩
    · exact .inl (.inl ⟨config, hc, ht⟩)
  · exact .inl (.inr h)

/-- A statement whose new rows have `P`. -/
theorem hasSubnet_write {request : DbRequest} {ok : Bool} {stmt : ControlDb → Option ControlDb}
    {svc1 : ControlService} {P : NetworkRecord → Prop} (hw : svc.write request ok stmt = .ok svc1)
    (hstmt : ∀ db db', stmt db = some db' → ∀ r ∈ db'.networks.rows, r ∈ db.networks.rows ∨ P r)
    (h : svc1.HasSubnet networkCode subnet) :
    svc.HasSubnet networkCode subnet ∨ ∃ r, P r ∧ r.IsFor networkCode subnet := by
  rcases write_ok hw with ⟨-, rfl⟩ | ⟨db, db', hdb, hs, rfl⟩
  · exact .inl h
  · rcases h with h | ⟨db1, hdb1, r, hr, hfor⟩
    · exact .inl (.inl h)
    · cases hdb1
      rcases hstmt db db' hs r hr with hr | hP
      · exact .inl (.inr ⟨db, hdb, r, hr, hfor⟩)
      · exact .inr ⟨r, hP, hfor⟩

variable {db db' : ControlDb} {checked : Bool} {env : RegisterEnv} {r : RegisterRequest}

/-- The new row of `saveNetwork`. -/
theorem rows_saveNetwork {x : NetworkRecord} (h : db.saveNetwork x = some db') :
    ∀ r ∈ db'.networks.rows, r ∈ db.networks.rows ∨ r = x := by
  intro r hr
  obtain ⟨t, ht, rfl⟩ := Option.map_eq_some_iff.mp h
  exact ((Table.mem_put ht r).mp hr).imp_left And.left

/-- The changed row of `updateNetwork`. -/
theorem rows_updateNetwork {text : String} {secs : Int}
    (h : db.updateNetwork code text netmask secs = some db') :
    ∀ r ∈ db'.networks.rows, r ∈ db.networks.rows ∨
      (r.networkCode = code ∧ r.gateway = text ∧ r.netmask = netmask) := by
  intro r hr
  by_cases hc : r.networkCode = code
  · exact .inr ⟨hc, row_of_updateNetwork h r hr hc⟩
  · left
    unfold ControlDb.updateNetwork at h
    split at h
    · cases h
      exact hr
    · rename_i old hold
      obtain ⟨t, ht, rfl⟩ := Option.map_eq_some_iff.mp h
      rcases (Table.mem_replace ht r).mp hr with ⟨hr, -⟩ | ⟨rfl, -⟩
      · exact hr
      · have hcode : old.networkCode = code := by
          simpa [NetworkRecord.isNetwork] using List.find?_some hold
        exact absurd hcode hc

theorem hasSubnet_addNetwork {lease : Option Nat} {now : Int} {saved : Bool}
    (h : (svc.addNetwork code gateway netmask lease now saved).1.HasSubnet networkCode subnet) :
    svc.HasSubnet networkCode subnet ∨ (code = networkCode ∧ svc.dbNets.lookup code = none ∧
        ∃ net, netBelow gateway netmask = some net ∧ net.trunc = subnet) := by
  unfold addNetwork at h
  split at h
  · exact .inl h
  · rename_i hnew
    have hnew : svc.dbNets.lookup code = none := by simpa using hnew
    dsimp only at h
    split at h
    · exact .inl h
    · rename_i svc1 hw
      by_cases h1 : svc1.HasSubnet networkCode subnet
      · rcases hasSubnet_write hw (fun _ _ => rows_saveNetwork) h1 with h | ⟨r, rfl, hfor⟩
        · exact .inl h
        · exact .inr ⟨hfor.1, hnew, hfor.below rfl rfl⟩
      · split at h
        · exact absurd h h1
        · rename_i net hnet
          obtain ⟨hc, ht⟩ := (hasSubnet_insert h).resolve_left h1
          exact .inr ⟨hc, hnew, net, hnet, ht⟩

theorem hasSubnet_updateNetwork {lease : Nat} {updated : Bool}
    (h : (svc.updateNetwork code gateway netmask lease checked updated).1.HasSubnet networkCode
      subnet) :
    svc.HasSubnet networkCode subnet ∨ (code = networkCode ∧ svc.dbNets.lookup code ≠ none ∧
        ∃ net, netBelow gateway netmask = some net ∧ net.trunc = subnet) := by
  unfold updateNetwork at h
  split at h
  · exact .inl h
  · rename_i original hold
    have hold : svc.dbNets.lookup code ≠ none := by rw [hold]; nofun
    split at h
    · exact .inl h
    · exact .inl h
    · split at h
      · exact .inl h
      · split at h
        · exact .inl h
        · rename_i svc1 hw
          by_cases h1 : svc1.HasSubnet networkCode subnet
          · rcases hasSubnet_write hw (fun _ _ => rows_updateNetwork) h1 with
              h | ⟨r, ⟨hc, hg, hm⟩, hfor⟩
            · exact .inl h
            · exact .inr ⟨hc.symm.trans hfor.1, hold, hfor.below hg hm⟩
          · split at h
            · exact absurd h h1
            · rename_i net hnet
              obtain ⟨hc, ht⟩ := (hasSubnet_insert h).resolve_left h1
              exact .inr ⟨hc, hold, net, hnet, ht⟩

theorem hasSubnet_deleteNetwork {deleted : Bool}
    (h : (svc.deleteNetwork code checked deleted).1.HasSubnet networkCode subnet) :
    svc.HasSubnet networkCode subnet := by
  unfold deleteNetwork at h
  split at h
  · exact h
  · split at h
    · exact h
    · exact h
    · split at h
      · exact h
      · split at h
        · exact h
        · rcases h with ⟨config, hc, ht⟩ | ⟨db, hdb, r, hr, hfor⟩
          · obtain ⟨-, hc⟩ := lookup_erase_some.mp hc
            exact .inl ⟨config, hc, ht⟩
          · obtain ⟨db0, hdb0, rfl⟩ := Option.map_eq_some_iff.mp hdb
            exact .inr ⟨db0, hdb0, r, (Table.mem_delete.mp hr).1, hfor⟩

/-- A registration enters its network, whether it succeeds or not. -/
theorem dbNets_register (svc : ControlService) (r : RegisterRequest) (env : RegisterEnv) :
    ((svc.register r env).1.dbNets = svc.dbNets ∨
      (svc.register r env).1.dbNets = (svc.enterNetwork r).dbNets) ∧
      (svc.register r env).1.db = svc.db := by
  have henter : (svc.enterNetwork r).db = svc.db := by
    unfold enterNetwork
    split <;> rfl
  unfold register
  split
  · exact ⟨.inl rfl, rfl⟩
  · dsimp only
    split
    · exact ⟨.inr (dbNets_getOrCreate ..), (db_getOrCreate ..).trans henter⟩
    · split <;> exact ⟨.inr (dbNets_getOrCreate ..), (db_getOrCreate ..).trans henter⟩

theorem hasSubnet_register (h : (svc.register r env).1.HasSubnet networkCode subnet) :
    svc.HasSubnet networkCode subnet ∨
      (r.networkCode = networkCode ∧ svc.dbNets.lookup networkCode = none ∧
        (NetworkConfig.ofRegister svc.defaultNet svc.defaultLeaseDuration
          r.msg.ip).net.trunc = subnet) := by
  obtain ⟨hnets, hdb⟩ := dbNets_register svc r env
  rcases h with ⟨config, hc, ht⟩ | ⟨db, hd, hrow⟩
  · rcases hnets with hnets | hnets
    · exact .inl (.inl ⟨config, hnets ▸ hc, ht⟩)
    · rw [hnets, enterNetwork] at hc
      split at hc
      · rename_i hnew
        have hnew : svc.dbNets.lookup r.networkCode = none := by simpa using hnew
        rcases lookup_insert_cases hc with ⟨he, rfl⟩ | ⟨-, hc⟩
        · rw [networkConfig, hnew, Option.getD_none] at ht
          exact .inr ⟨he.symm, he ▸ hnew, ht⟩
        · exact .inl (.inl ⟨config, hc, ht⟩)
      · exact .inl (.inl ⟨config, hc, ht⟩)
  · exact .inl (.inr ⟨db, hdb ▸ hd, hrow⟩)

/-- The row that a registration has stored is that of a network it has created. -/
theorem network_register {x : Registered}
    (h : (svc.register r env).2 = .ok x) {row : NetworkRecord} (hrow : x.network = some row) :
    svc.dbNets.lookup r.networkCode = none ∧
      row = deviceNetworkRecord r.networkCode (svc.networkConfig r.networkCode r.msg.ip) env.now := by
  unfold register at h
  split at h
  · cases h
  · dsimp only at h
    split at h
    · cases h
    · split at h
      · cases h
      · cases h
        split at hrow
        · rename_i hnew
          cases hrow
          exact ⟨by simpa using hnew, rfl⟩
        · cases hrow

end ControlService

/-- A configured network is stored only if its code has no row. -/
theorem rows_saveConfigNetworks {leaseDuration : Nat} {now : SystemTime} {saved : String → Bool}
    (l : List (Σ _ : String, Ipv4Net)) (db : ControlDb) {r : NetworkRecord}
    (h : r ∈ (l.foldl (fun db e => db.saveConfigNetwork leaseDuration now saved e) db).networks.rows) :
    r ∈ db.networks.rows ∨ ∃ e ∈ l, (∀ x ∈ db.networks.rows, x.networkCode ≠ e.1) ∧
      r = configNetworkRecord e.1 e.2 leaseDuration now := by
  induction l generalizing db with
  | nil => exact .inl h
  | cons e l ih =>
    have hsame : (db.saveConfigNetwork leaseDuration now saved e) = db →
        r ∈ db.networks.rows ∨ ∃ e' ∈ e :: l, (∀ x ∈ db.networks.rows, x.networkCode ≠ e'.1) ∧
          r = configNetworkRecord e'.1 e'.2 leaseDuration now := by
      intro he
      rw [List.foldl_cons, he] at h
      rcases ih db h with h | ⟨e', he', h⟩
      · exact .inl h
      · exact .inr ⟨e', List.mem_cons_of_mem _ he', h⟩
    cases hsaved : saved e.1 with
    | false => exact hsame (by simp [ControlDb.saveConfigNetwork, hsaved])
    | true =>
      cases hi : db.networks.insert (configNetworkRecord e.1 e.2 leaseDuration now) with
      | none =>
        exact hsame (by
          simp [ControlDb.saveConfigNetwork, ControlDb.saveNetworkIfNotExists, hsaved, hi])
      | some t =>
        have hstep : db.saveConfigNetwork leaseDuration now saved e = { db with networks := t } := by
          simp [ControlDb.saveConfigNetwork, ControlDb.saveNetworkIfNotExists, hsaved, hi]
        have hrows := Table.insert_eq_some.mp hi
        have hfree := (Table.insert_isSome.mp (Option.isSome_of_eq_some hi)).2
        rw [List.foldl_cons, hstep] at h
        -- The rows only grow, so a code without a row later has none now.
        rcases ih _ h with h | ⟨e', he', hno, h⟩
        · rw [hrows, List.mem_append, List.mem_singleton] at h
          refine h.imp_right fun h => ⟨e, List.mem_cons_self, fun x hx hc => ?_, h⟩
          have hclash := hfree x hx
          simp [networks, NetworkRecord.isNetwork, configNetworkRecord, hc] at hclash
        · refine .inr ⟨e', List.mem_cons_of_mem _ he', fun x hx => hno x ?_, h⟩
          rw [hrows]
          exact List.mem_append_left _ hx

/-- A loaded network has a row. -/
theorem row_of_foldl_loadNetwork {l : List NetworkRecord} {nets : HashMap String NetworkConfig}
    {code : String} {config : NetworkConfig} (h : (l.foldl loadNetwork nets).lookup code = some config) :
    nets.lookup code = some config ∨
      ∃ r ∈ l, r.networkCode = code ∧ r.toIpv4Net = some config.net := by
  induction l generalizing nets with
  | nil => exact .inl h
  | cons r l ih =>
    rcases ih h with h | ⟨x, hx, h⟩
    · unfold loadNetwork at h
      split at h
      · rename_i net hnet
        rcases lookup_insert_cases h with ⟨he, rfl⟩ | ⟨-, h⟩
        · exact .inr ⟨r, List.mem_cons_self, he.symm, hnet⟩
        · exact .inl h
      · exact .inl h
    · exact .inr ⟨x, List.mem_cons_of_mem _ hx, h⟩

namespace Server

variable {srv : Server} {networkCode : String} {subnet : Ipv4Net}

/-- After a start there are the stored networks, and those configured networks that had no row. -/
theorem hasSubnet_start {conf : ServerConf} {db : Option ControlDb} {env : StartEnv}
    (h : (start conf db env).HasSubnet networkCode subnet) :
    (∃ d, db = some d ∧ ∃ r ∈ d.networks.rows, r.IsFor networkCode subnet) ∨
      ∃ net, conf.customNets.lookup networkCode = some net ∧ net.trunc = subnet ∧
        ∀ d, db = some d → ∀ r ∈ d.networks.rows, r.networkCode ≠ networkCode := by
  have hrow : ∃ d, db = some d ∧ ∃ r ∈ (d.saveConfigNetworks conf.customNets conf.leaseDuration
      env.now env.saved).networks.rows, r.IsFor networkCode subnet := by
    rcases h with (⟨config, hc, ht⟩ | ⟨d', hd', r, hr, hfor⟩) | ⟨r, hr, -⟩
    · dsimp only [start] at hc
      split at hc
      · obtain ⟨r, hr, hcode, hnet⟩ := (row_of_foldl_loadNetwork hc).resolve_left (by simp)
        cases db with
        | none => cases hr
        | some d => exact ⟨d, rfl, r, hr, hcode, _, hnet, ht⟩
      · cases hc
    · obtain ⟨d, hd, rfl⟩ := Option.map_eq_some_iff.mp hd'
      exact ⟨d, hd, r, hr, hfor⟩
    · cases hr
  obtain ⟨d, rfl, r, hr, hfor⟩ := hrow
  rcases rows_saveConfigNetworks _ d hr with hr | ⟨⟨code, net⟩, he, hno, rfl⟩
  · exact .inl ⟨d, rfl, r, hr, hfor⟩
  · have ht := hfor.of_net rfl rfl
    cases hfor.1
    refine .inr ⟨net, mem_entries.mp he, ht, ?_⟩
    rintro _ ⟨⟩
    exact hno

/-- A step adds the subnets that it gives, and no others. -/
theorem hasSubnet_apply {op : ServerOp} (h : (srv.apply op).HasSubnet networkCode subnet) :
    srv.HasSubnet networkCode subnet ∨ srv.Gives networkCode subnet op := by
  cases op with
  | addNetwork code gateway netmask lease now saved =>
    rcases h with h | h
    · exact (hasSubnet_addNetwork h).imp_left .inl
    · exact .inl (.inr h)
  | updateNetwork code gateway netmask lease checked updated =>
    rcases h with h | h
    · exact (hasSubnet_updateNetwork h).imp_left .inl
    · exact .inl (.inr h)
  | deleteNetwork code checked deleted =>
    exact .inl (h.imp_left hasSubnet_deleteNetwork)
  | register r env =>
    rcases h with h | ⟨row, hrow, hfor⟩
    · exact (hasSubnet_register h).imp_left .inl
    · dsimp only [apply] at hrow
      split at hrow
      · rename_i x hx
        rcases List.mem_append.mp hrow with hrow | hrow
        · exact .inl (.inr ⟨row, hrow, hfor⟩)
        · obtain ⟨hnew, rfl⟩ := network_register hx (Option.mem_toList.mp hrow)
          have ht := hfor.of_net rfl rfl
          have hc : r.networkCode = networkCode := hfor.1
          rw [networkConfig, hnew, Option.getD_none] at ht
          exact .inr ⟨hc, hc ▸ hnew, ht⟩
      · exact .inl (.inr ⟨row, hrow, hfor⟩)
  | saveNetwork r saved =>
    left
    dsimp only [apply] at h
    split at h
    · rename_i hmem
      have hmem : r ∈ srv.unsaved := by simpa using hmem
      rcases h with h | ⟨x, hx, hfor⟩
      · split at h
        · rename_i svc hw
          rcases hasSubnet_write hw (fun _ _ => rows_saveNetwork) h with
            h | ⟨x, rfl, hfor⟩
          · exact .inl h
          · exact .inr ⟨x, hmem, hfor⟩
        · exact .inl h
      · exact .inr ⟨x, List.mem_of_mem_erase hx, hfor⟩
    · exact h
  | restart conf env =>
    rcases hasSubnet_start h with ⟨d, hd, hrow⟩ | h
    · exact .inl (.inl (.inr ⟨d, hd, hrow⟩))
    · exact .inr h
  | resources resources =>
    left
    rcases h with (h | ⟨d, hd, hrow⟩) | h
    · exact .inl (.inl h)
    · obtain ⟨d0, hd0, rfl⟩ := Option.map_eq_some_iff.mp hd
      exact .inl (.inr ⟨d0, hd0, hrow⟩)
    · exact .inr h
  | operate code st =>
    left
    dsimp only [apply] at h
    split at h
    · exact h
    · exact h
    · split at h <;> exact h

end Server

/-! ## Gateways -/

namespace ControlService

variable {svc svc1 : ControlService} {code : String}

/-- Every state in memory has the gateway of its configuration. -/
def Kept (svc : ControlService) : Prop :=
  ∀ code st, svc.networkStates.lookup code = some st →
    ∃ config, svc.dbNets.lookup code = some config ∧ st.gateway = gatewayOf config.net

theorem Kept.of_memory (h : svc.Kept) (hn : svc1.dbNets = svc.dbNets)
    (hs : svc1.networkStates = svc.networkStates) : svc1.Kept := by
  intro code st hst
  rw [hs] at hst
  rw [hn]
  exact h code st hst

theorem Kept.insert_new (h : svc.Kept) (hnew : svc.dbNets.lookup code = none)
    (config : NetworkConfig) : Kept { svc with dbNets := svc.dbNets.insert code config } := by
  intro c st hst
  obtain ⟨config', hc, hg⟩ := h c st hst
  refine ⟨config', ?_, hg⟩
  rw [lookup_insert_if, if_neg]
  · exact hc
  · rintro rfl
    rw [hnew] at hc
    cases hc

theorem Kept.insert_erase (h : svc.Kept) (config : NetworkConfig) :
    Kept { svc with dbNets := svc.dbNets.insert code config
                    networkStates := svc.networkStates.erase code } := by
  intro c st hst
  obtain ⟨hne, hst⟩ := lookup_erase_some.mp hst
  rw [lookup_insert_if, if_neg hne]
  exact h c st hst

variable {config : NetworkConfig} {st : NetworkState}

theorem Kept.insert_state (h : svc.Kept)
    (hc : svc.dbNets.lookup code = some config) (hg : st.gateway = gatewayOf config.net) :
    Kept { svc with networkStates := svc.networkStates.insert code st } := by
  intro c st' hst
  rcases lookup_insert_cases hst with ⟨he, rfl⟩ | ⟨-, hst⟩
  · exact ⟨config, he ▸ hc, hg⟩
  · exact h c st' hst

theorem write_memory {request : DbRequest} {ok : Bool} {stmt : ControlDb → Option ControlDb}
    (h : svc.write request ok stmt = .ok svc1) :
    svc1.dbNets = svc.dbNets ∧ svc1.networkStates = svc.networkStates := by
  rcases write_ok h with ⟨-, rfl⟩ | ⟨db, db', -, -, rfl⟩ <;> exact ⟨rfl, rfl⟩

theorem lookup_enterNetwork (r : RegisterRequest) :
    (svc.enterNetwork r).dbNets.lookup r.networkCode =
      some (svc.networkConfig r.networkCode r.msg.ip) := by
  cases hc : svc.dbNets.lookup r.networkCode with
  | none => simp [enterNetwork, hc]
  | some config => simp [enterNetwork, hc, networkConfig_of_lookup hc]

theorem Kept.enterNetwork (h : svc.Kept) (r : RegisterRequest) : (svc.enterNetwork r).Kept := by
  unfold ControlService.enterNetwork
  split
  · rename_i hnew
    exact h.insert_new (by simpa using hnew) _
  · exact h

/-- The state that a registration works on is in memory, with the gateway of its configuration. -/
theorem Kept.getOrCreate (h : svc.Kept) (env : RegisterEnv)
    (hc : svc.dbNets.lookup code = some config) :
    (svc.getOrCreateNetworkState code config env).1.Kept ∧
      (svc.getOrCreateNetworkState code config env).2.gateway = gatewayOf config.net := by
  unfold getOrCreateNetworkState
  split
  · rename_i st hst
    obtain ⟨config', hc', hg⟩ := h code st hst
    rw [hc] at hc'
    cases hc'
    exact ⟨h, hg⟩
  · exact ⟨h.insert_state hc rfl, rfl⟩

theorem Kept.register (h : svc.Kept) (r : RegisterRequest) (env : RegisterEnv) :
    (svc.register r env).1.Kept := by
  obtain ⟨hkept, hg⟩ := (h.enterNetwork r).getOrCreate env (lookup_enterNetwork r)
  unfold ControlService.register
  split
  · exact h
  · dsimp only
    split
    · exact hkept
    · split
      · exact hkept
      · rename_i st' ip old entry hok
        refine hkept.insert_state (by rw [dbNets_getOrCreate]; exact lookup_enterNetwork r) ?_
        unfold NetworkState.allocateIpAndGetEntry at hok
        split at hok <;> cases hok
        exact hg

end ControlService

namespace Server

theorem kept_apply {srv : Server} (h : srv.svc.Kept) (op : ServerOp) : (srv.apply op).svc.Kept := by
  cases op with
  | addNetwork code gateway netmask lease now saved =>
    dsimp only [apply]
    unfold addNetwork
    split
    · exact h
    · rename_i hnew
      dsimp only
      split
      · exact h
      · rename_i svc1 hw
        obtain ⟨hn, hs⟩ := write_memory hw
        split
        · exact h.of_memory hn hs
        · exact (h.of_memory hn hs).insert_new (by rw [hn]; simpa using hnew) _
  | updateNetwork code gateway netmask lease checked updated =>
    dsimp only [apply]
    unfold updateNetwork
    split
    · exact h
    · split
      · exact h
      · exact h
      · split
        · exact h
        · split
          · exact h
          · rename_i svc1 hw
            obtain ⟨hn, hs⟩ := write_memory hw
            split
            · exact h.of_memory hn hs
            · exact (h.of_memory hn hs).insert_erase _
  | deleteNetwork code checked deleted =>
    dsimp only [apply]
    unfold deleteNetwork
    split
    · exact h
    · split
      · exact h
      · exact h
      · split
        · exact h
        · split
          · exact h
          · intro c st hst
            rw [lookup_erase_if] at hst ⊢
            split at hst
            · cases hst
            · rename_i hne
              rw [if_neg hne]
              exact h c st hst
  | register r env => exact h.register r env
  | saveNetwork r saved =>
    dsimp only [apply]
    split
    · split
      · rename_i svc hw
        obtain ⟨hn, hs⟩ := write_memory hw
        exact h.of_memory hn hs
      · exact h
    · exact h
  | restart conf env =>
    intro c st hst
    cases hst
  | resources resources => exact h
  | operate code st =>
    dsimp only [apply]
    split
    · exact h
    · intro c st hst
      obtain ⟨-, hst⟩ := lookup_erase_some.mp hst
      exact h c st hst
    · rename_i old st hold
      split
      · rename_i hg
        obtain ⟨config, hc, hgold⟩ := h code old hold
        exact h.insert_state hc (hg.trans hgold)
      · exact h

end Server

/-! ## Two servers -/

/-- The two servers have no different subnets for one code. -/
def Server.Agree (x y : Server) : Prop :=
  ∀ code n m, x.HasSubnet code n → y.HasSubnet code m → n = m

theorem Server.Agree.symm (h : x.Agree y) : y.Agree x :=
  fun code n m hn hm => (h code m n hm hn).symm

/-- A step of one server, if what it gives is what the other has. -/
theorem Server.Agree.apply (h : x.Agree y) {op : ServerOp}
    (hg : ∀ code n m, x.Gives code n op → y.HasSubnet code m → n = m) : (x.apply op).Agree y := by
  intro code n m hn hm
  rcases Server.hasSubnet_apply hn with hn | hn
  · exact h code n m hn hm
  · exact hg code n m hn hm

structure ServerPair where
  a : Server
  b : Server

namespace ServerPair

variable (sha256 : String → String)

/-- The check at both ends of a link. -/
def Compatible (x y : ServerConf) : Prop :=
  (x.cluster sha256).peerClusterCompatible (y.cluster sha256).auth = true ∧
    (y.cluster sha256).peerClusterCompatible (x.cluster sha256).auth = true

/-- The texts of the two configurations can be told apart by their digests, and be read. -/
structure Distinct (x y : ServerConf) : Prop where
  collision : networkConfigDigest sha256 x.network x.customNets =
    networkConfigDigest sha256 y.network y.customNets →
      networkConfigText x.network x.customNets = networkConfigText y.network y.customNets
  plain : PlainCodes x.customNets
  plain' : PlainCodes y.customNets

/-- A server after its first start: without a database, or with an empty one. -/
def FirstStart (srv : Server) : Prop :=
  ∃ db env, srv = .start srv.conf db env ∧ ∀ d, db = some d → d.networks.rows = []

def Starts (s : ServerPair) : Prop :=
  FirstStart s.a ∧ FirstStart s.b ∧ Compatible sha256 s.a.conf s.b.conf ∧
    Distinct sha256 s.a.conf s.b.conf

inductive Op
  | a (op : ServerOp)
  | b (op : ServerOp)

def apply (s : ServerPair) : Op → ServerPair
  | .a op => { s with a := s.a.apply op }
  | .b op => { s with b := s.b.apply op }

def sys : Sys ServerPair Op := .ofFun (Starts sha256) apply

/-- A step gives a code the subnet that the other server has for it, if it has one. -/
def Careful (s : ServerPair) : Op → Prop
  | .a op => ∀ code n m, s.a.Gives code n op → s.b.HasSubnet code m → n = m
  | .b op => ∀ code n m, s.b.Gives code n op → s.a.HasSubnet code m → n = m

structure Inv (s : ServerPair) : Prop where
  agree : s.a.Agree s.b
  keptA : s.a.svc.Kept
  keptB : s.b.svc.Kept

variable {sha256} {s : ServerPair}

variable {code : String} {n : Ipv4Net} {srv : Server}

theorem FirstStart.hasSubnet (h : FirstStart srv) (hn : srv.HasSubnet code n) :
    ∃ net, srv.conf.customNets.lookup code = some net ∧ net.trunc = n := by
  obtain ⟨db, env, he, hempty⟩ := h
  rw [he] at hn
  rcases Server.hasSubnet_start hn with ⟨d, hd, r, hr, -⟩ | ⟨net, hc, ht, -⟩
  · rw [hempty d hd] at hr
    cases hr
  · exact ⟨net, hc, ht⟩

theorem FirstStart.kept (h : FirstStart srv) : srv.svc.Kept := by
  obtain ⟨db, env, he, -⟩ := h
  rw [he]
  intro code st hst
  cases hst

/-- Compatible servers are configured with the same networks. -/
theorem Compatible.customNets {x y : ServerConf} (h : Compatible sha256 x y)
    (hd : Distinct sha256 x y) (code : String) :
    x.customNets.lookup code = y.customNets.lookup code := by
  have hdigest : (y.cluster sha256).networkConfigDigest = (x.cluster sha256).networkConfigDigest := by
    have := h.1
    simp only [peerClusterCompatible, auth, Bool.and_eq_true,
      beq_iff_eq] at this
    exact this.2
  exact (networkConfigText_inj hd.plain hd.plain' (hd.collision hdigest.symm)).2 code

theorem inv_starts (h : Starts sha256 s) : s.Inv := by
  obtain ⟨ha, hb, hcompat, hdist⟩ := h
  refine ⟨fun code n m hn hm => ?_, ha.kept, hb.kept⟩
  obtain ⟨net, hnet, rfl⟩ := ha.hasSubnet hn
  obtain ⟨net', hnet', rfl⟩ := hb.hasSubnet hm
  rw [hcompat.customNets hdist code, hnet'] at hnet
  cases hnet
  rfl

theorem Inv.apply (h : s.Inv) {op : Op} (hc : s.Careful op) : (s.apply op).Inv := by
  cases op with
  | a op => exact ⟨h.agree.apply hc, Server.kept_apply h.keptA op, h.keptB⟩
  | b op => exact ⟨(h.agree.symm.apply hc).symm, h.keptA, Server.kept_apply h.keptB op⟩

theorem inv_of_reach (h : (sys sha256).ReachWith Careful s) : s.Inv :=
  h.invariant_of (I := Inv) (fun _ => inv_starts) fun _ _ hi hc => hi.apply hc

variable (sha256)

/-- The networks that both servers know are the same, and the requests that `x` sends for them have
the network of `y`. -/
structure Shared (x y : Server) : Prop where
  subnet : ∀ code c c', x.svc.dbNets.lookup code = some c → y.svc.dbNets.lookup code = some c' →
    c.net.trunc = c'.net.trunc ∧ gatewayOf c.net = gatewayOf c'.net
  /-- `acquire_lease` takes the gateway from the state and the network from the configuration. -/
  request : ∀ code c c' st ownerType ownerId requestedIp leaseDuration staticReservation,
    x.svc.dbNets.lookup code = some c → x.svc.networkStates.lookup code = some st →
    y.svc.dbNets.lookup code = some c' →
    ∃ r, (y.conf.cluster sha256).dbLeaseRequest
        ((x.conf.cluster sha256).leaseAcquireRequest code ownerType ownerId requestedIp c.net
          st.gateway leaseDuration staticReservation) = some r ∧
      r.network = c'.net.trunc ∧ r.gateway = gatewayOf c'.net
  /-- The allocations that are sent when a link comes up have the network of their row. -/
  reconciled : ∀ db l, x.svc.db = some db → db.loadLocalIpAllocations = some l → ∀ e ∈ l,
    ∀ c', y.svc.dbNets.lookup e.networkCode = some c' → e.network.trunc = c'.net.trunc

variable {sha256}

theorem gatewayOf_eq_of_trunc {m : Ipv4Net} (h : m.trunc = n.trunc) :
    gatewayOf m = gatewayOf n := by
  rw [gatewayOf, gatewayOf, (n.trunc_eq_iff.mp h).1]

/-- The authority reads the network and the gateway that were sent. -/
theorem dbLeaseRequest_network (x y : ClusterConfig) (code ownerType ownerId : String)
    (requestedIp : Option Ipv4Addr) (net : Ipv4Net) (gateway : Ipv4Addr) (leaseDuration : Nat)
    (staticReservation : Bool) :
    ∃ r, y.dbLeaseRequest (x.leaseAcquireRequest code ownerType ownerId requestedIp net gateway
        leaseDuration staticReservation) = some r ∧ r.network = net.trunc ∧ r.gateway = gateway := by
  have hnew : Ipv4Net.new? net.network net.prefixLen = some net.trunc :=
    Ipv4Net.new?_eq_some.mpr ⟨rfl, rfl⟩
  exact ⟨_, congrArg (Option.map _) hnew, rfl, rfl⟩

theorem shared_of_agree {x y : Server} (h : x.Agree y) (hk : x.svc.Kept) : Shared sha256 x y := by
  have hsubnet : ∀ code c c', x.svc.dbNets.lookup code = some c →
      y.svc.dbNets.lookup code = some c' → c.net.trunc = c'.net.trunc :=
    fun code c c' hc hc' => h code _ _ (.inl (.inl ⟨c, hc, rfl⟩)) (.inl (.inl ⟨c', hc', rfl⟩))
  refine ⟨fun code c c' hc hc' => ?_, ?_, fun db l hdb hl e he c' hc' => ?_⟩
  · have ht := hsubnet code c c' hc hc'
    exact ⟨ht, gatewayOf_eq_of_trunc ht⟩
  · intro code c c' st ownerType ownerId requestedIp leaseDuration staticReservation hc hst hc'
    have ht := hsubnet code c c' hc hc'
    obtain ⟨config, hconfig, hg⟩ := hk code st hst
    rw [hc] at hconfig
    cases hconfig
    obtain ⟨r, hr, hnet, hgw⟩ := dbLeaseRequest_network (x.conf.cluster sha256)
      (y.conf.cluster sha256) code ownerType ownerId requestedIp c.net st.gateway leaseDuration
      staticReservation
    exact ⟨r, hr, hnet.trans ht, hgw.trans (hg.trans (gatewayOf_eq_of_trunc ht))⟩
  · obtain ⟨row, hrow, alloc, hcode, halloc⟩ := mem_loadLocalIpAllocations hl he
    obtain ⟨gateway, hgw, halloc⟩ := Option.bind_eq_some_iff.mp halloc
    obtain ⟨network, hnet, halloc⟩ := Option.bind_eq_some_iff.mp halloc
    obtain ⟨ip, -, rfl⟩ := Option.map_eq_some_iff.mp halloc
    have hrownet : row.toIpv4Net = some network := by
      rw [NetworkRecord.toIpv4Net, hgw]
      exact hnet
    exact h _ _ _ (.inl (.inr ⟨db, hdb, row, hrow, hcode, network, hrownet, rfl⟩))
      (.inl (.inl ⟨c', hc', rfl⟩))

/-- **Subnets of a cluster.** Two servers that are compatible when they are first started have the same
subnet and gateway for every code that both know, and the authority is asked with its own subnet, as
long as each step gives a code the subnet that the other server has for it. -/
theorem compatible_servers_share_subnets (sha256 : String → String) (s : ServerPair)
    (h : (sys sha256).ReachWith Careful s) : Shared sha256 s.a s.b ∧ Shared sha256 s.b s.a := by
  have hi := inv_of_reach h
  exact ⟨shared_of_agree hi.agree hi.keptA, shared_of_agree hi.agree.symm hi.keptB⟩

/-! ## Devices that create a network at both servers -/

/-- No configured networks. -/
def bareConf (serverId : String) : ServerConf where
  serverId := serverId
  leaseAuthority := "a"
  network := defaultNet
  customNets := ∅
  leaseDuration := oneDay

def bareEnv : StartEnv where
  saved _ := true
  loaded := true
  now := 0

def barePair : ServerPair where
  a := .start (bareConf "a") none bareEnv
  b := .start (bareConf "b") none bareEnv

theorem compatible_bareConf : Compatible sha256 (bareConf "a") (bareConf "b") := by
  constructor <;>
    simp [peerClusterCompatible, auth, ServerConf.cluster, bareConf,
      capabilities, clusterEnabled] <;> decide

theorem starts_barePair : Starts sha256 barePair :=
  ⟨⟨none, bareEnv, rfl, fun _ h => by cases h⟩, ⟨none, bareEnv, rfl, fun _ h => by cases h⟩,
    compatible_bareConf,
    ⟨fun _ => rfl, fun _ h => (by cases h), fun _ h => (by cases h)⟩⟩

/-- A device registers for "home" and asks for an address. -/
def homeRequest (deviceId : String) (ip : Option Ipv4Addr) : RegisterRequest where
  networkCode := "home"
  msg := { ControlService.gatewayRequest.msg with deviceId := deviceId, ip := ip }
  wireguardP2p := none

/-- The network that such a device creates. -/
def homeConfig (ip : Ipv4Addr) : NetworkConfig :=
  .ofRegister defaultNet oneDay (some ip)

def homeOps (ip ip' : Option Ipv4Addr) : List Op :=
  [.a (.register (homeRequest "laptop" ip) ControlService.standaloneEnv),
    .b (.register (homeRequest "phone" ip') ControlService.standaloneEnv)]

theorem not_hasSubnet_bare {serverId : String} :
    ¬ (Server.start (bareConf serverId) none bareEnv).HasSubnet code n := by
  intro h
  rcases Server.hasSubnet_start h with ⟨d, hd, -⟩ | ⟨net, hc, -⟩
  · cases hd
  · cases hc

/-- Both devices ask for addresses of 10.1.0.0/24. -/
theorem careful_homeOps : Sys.Meets Careful apply barePair
    (homeOps (some (Ipv4Addr.new 10 1 0 5)) (some (Ipv4Addr.new 10 1 0 6))) := by
  refine ⟨fun code n m _ hm => absurd hm not_hasSubnet_bare, fun code n m hn hm => ?_, trivial⟩
  rcases Server.hasSubnet_apply hm with hm | hm
  · exact absurd hm not_hasSubnet_bare
  · have hsame : (homeConfig (Ipv4Addr.new 10 1 0 6)).net.trunc =
        (homeConfig (Ipv4Addr.new 10 1 0 5)).net.trunc := by decide
    exact hn.2.2.symm.trans (hsame.trans hm.2.2)

theorem shared_subnets_one_network :
    ∃ s c c', (sys id).ReachWith Careful s ∧ s.a.svc.dbNets.lookup "home" = some c ∧
      s.b.svc.dbNets.lookup "home" = some c' ∧ Shared id s.a s.b ∧ Shared id s.b s.a := by
  have hr : (sys id).ReachWith Careful ((homeOps (some (Ipv4Addr.new 10 1 0 5))
      (some (Ipv4Addr.new 10 1 0 6))).foldl apply barePair) :=
    (Sys.ReachWith.init starts_barePair).foldl careful_homeOps
  exact ⟨_, homeConfig (Ipv4Addr.new 10 1 0 5), homeConfig (Ipv4Addr.new 10 1 0 6), hr, rfl, rfl,
    compatible_servers_share_subnets id _ hr⟩

/-- The servers are compatible, and have different subnets for "home"; the request of `b` for it has
not the subnet of the authority `a`. -/
def HomeDiffers (sha256 : String → String) : Prop :=
  ∃ s c c' st, (sys sha256).Reach s ∧ Compatible sha256 s.a.conf s.b.conf ∧
    s.a.svc.dbNets.lookup "home" = some c ∧ s.b.svc.dbNets.lookup "home" = some c' ∧
    s.b.svc.networkStates.lookup "home" = some st ∧ c.net.trunc ≠ c'.net.trunc ∧
    ∀ r, (s.a.conf.cluster sha256).dbLeaseRequest
      ((s.b.conf.cluster sha256).leaseAcquireRequest "home" "vnt_device" "phone" none c'.net
        st.gateway oneDay false) = some r → r.network ≠ c.net.trunc

/-- The digest does not matter: the configuration files are the same. -/
theorem homeDiffers (sha256 : String → String) : HomeDiffers sha256 := by
  have hr : (sys sha256).Reach ((homeOps (some (Ipv4Addr.new 10 1 0 5))
      (some (Ipv4Addr.new 10 2 0 5))).foldl apply barePair) :=
    (Sys.Reach.init starts_barePair).foldl _
  have hne : (homeConfig (Ipv4Addr.new 10 1 0 5)).net.trunc ≠
      (homeConfig (Ipv4Addr.new 10 2 0 5)).net.trunc := by decide
  refine ⟨_, homeConfig (Ipv4Addr.new 10 1 0 5), homeConfig (Ipv4Addr.new 10 2 0 5), _, hr,
    compatible_bareConf, rfl, rfl, rfl, hne, fun r h => ?_⟩
  obtain ⟨r', hr', hnet, -⟩ := dbLeaseRequest_network _ _ _ _ _ _ _ _ _ _
  rw [hr'] at h
  cases h
  rw [hnet]
  exact hne.symm

/-- Devices that create one network at two servers make them differ. -/
theorem device_networks_differ : HomeDiffers id := homeDiffers id

end ServerPair

end Vntc
