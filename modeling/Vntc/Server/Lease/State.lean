import Vntc.Lib.HashMap
import Vntc.Lib.Ipv4Text
import Vntc.Lib.Ownership

/-!
# The lease state of a network

`NetworkStateInner` of `server/network_state_provider.rs`: the devices of a network by id, the
reverse index from addresses to devices, and the addresses of the WireGuard peers. The mutex
around it makes each of its methods one atomic step. Times are nanoseconds since the epoch, and
a method that reads the clock takes the time as an argument.

* `NetworkStateInner.table`: the two device maps as holdings and their index; one `table_*` lemma
  for each method says what the method does to them.
-/

namespace Vntc

open Lib

/-- Nanoseconds since the epoch. -/
abbrev SystemTime := Nat

/-- `system_time_to_i64`. -/
def systemTimeToI64 (t : SystemTime) : Int := (t / 10 ^ 9 : Nat)

/-- `i64_to_system_time`: the cast to `u64` reads a negative number modulo `2 ^ 64`. -/
def i64ToSystemTime (ts : Int) : SystemTime := (ts % 2 ^ 64).toNat * 10 ^ 9

/-- `char::is_whitespace`. -/
def isWhitespace (c : Char) : Bool :=
  let n := c.toNat
  (9 ≤ n && n ≤ 13) || n == 0x20 || n == 0x85 || n == 0xA0 || n == 0x1680 ||
    (0x2000 ≤ n && n ≤ 0x200A) || n == 0x2028 || n == 0x2029 || n == 0x202F || n == 0x205F ||
    n == 0x3000

/-- `s.trim().is_empty()`. -/
def isBlank (s : String) : Bool := s.toList.all isWhitespace

/-- A row of the `devices` table. -/
structure DeviceRecord where
  deviceId : String
  networkCode : String
  ip : Option String
  deviceName : String
  deviceVersion : String
  lastConnectTime : Int
  deriving DecidableEq

/-- A device of a network. -/
structure DeviceEntry where
  deviceId : String
  ip : Option Ipv4Addr
  randomId : BitVec 64
  deviceName : String
  deviceVersion : String
  isConnected : Bool
  lastConnectTime : SystemTime
  disconnectTime : Option SystemTime
  dataVersion : Nat
  keySign : Option String
  deriving DecidableEq

/-- The entry of a stored device: offline since `now`, without a session. -/
def DeviceEntry.fromRecord (record : DeviceRecord) (now : SystemTime) : DeviceEntry where
  deviceId := record.deviceId
  ip := record.ip.bind Ipv4Addr.parse
  randomId := 0
  deviceName := record.deviceName
  deviceVersion := record.deviceVersion
  isConnected := false
  lastConnectTime := i64ToSystemTime record.lastConnectTime
  disconnectTime := some now
  dataVersion := 0
  keySign := none

def DeviceEntry.toRecord (e : DeviceEntry) (networkCode : String) : DeviceRecord where
  deviceId := e.deviceId
  networkCode := networkCode
  ip := e.ip.map Ipv4Addr.toText
  deviceName := e.deviceName
  deviceVersion := e.deviceVersion
  lastConnectTime := systemTimeToI64 e.lastConnectTime

/-- A stored reservation of a WireGuard peer. -/
structure WireGuardPeerIpAllocation where
  peerId : String
  ip : Ipv4Addr
  deriving DecidableEq

/-! ## The device map -/

/-- Devices by id; an entry's key is its own id. -/
structure DeviceMap where
  map : HashMap String DeviceEntry
  keyed : ∀ d e, map.lookup d = some e → e.deviceId = d

namespace DeviceMap

def empty : DeviceMap := ⟨∅, fun _ _ h => by cases h⟩

def lookup (m : DeviceMap) (d : String) : Option DeviceEntry := m.map.lookup d

/-- Put an entry under its id. -/
def add (m : DeviceMap) (e : DeviceEntry) : DeviceMap where
  map := m.map.insert e.deviceId e
  keyed d f h := by
    rw [HashMap.lookup_insert_if] at h
    split at h
    · rename_i hd; cases h; exact hd.symm
    · exact m.keyed d f h

def remove (m : DeviceMap) (d : String) : DeviceMap where
  map := m.map.erase d
  keyed k f h := by
    obtain ⟨-, h⟩ := HashMap.lookup_erase_some.mp h
    exact m.keyed k f h

def values (m : DeviceMap) : List DeviceEntry := HashMap.values m.map

variable (m : DeviceMap)

theorem lookup_add (e : DeviceEntry) (d : String) :
    (m.add e).lookup d = if d = e.deviceId then some e else m.lookup d :=
  HashMap.lookup_insert_if m.map e.deviceId d e

theorem lookup_remove (k d : String) : (m.remove k).lookup d = if d = k then none else m.lookup d :=
  HashMap.lookup_erase_if m.map k d

theorem deviceId_of_lookup {m : DeviceMap} {d : String} {e : DeviceEntry}
    (h : m.lookup d = some e) : e.deviceId = d := m.keyed d e h

theorem mem_values {m : DeviceMap} {e : DeviceEntry} :
    e ∈ m.values ↔ m.lookup e.deviceId = some e := by
  rw [values, HashMap.mem_values]
  exact ⟨fun ⟨k, hk⟩ => (m.keyed k e hk).symm ▸ hk, fun h => ⟨_, h⟩⟩

end DeviceMap

/-! ## The state -/

/-- What the lease lock guards. -/
structure NetworkStateInner where
  /-- A `u64` in the source, so exact for fewer than `2 ^ 64` changes. -/
  dataVersion : Nat
  lastWireguardChangeVersion : Nat
  deviceMap : DeviceMap
  deviceIpMap : HashMap Ipv4Addr String
  wireguardPeerIpMap : HashMap Ipv4Addr String
  remoteWireguardSources : HashMap String (HashSet Ipv4Addr)

/-- The addresses that a load indexes: those of the network, without the gateway. -/
def Usable (net : Ipv4Net) (gateway ip : Ipv4Addr) : Prop :=
  net.contains ip = true ∧ gateway ≠ ip

instance (net : Ipv4Net) (gateway ip : Ipv4Addr) : Decidable (Usable net gateway ip) :=
  inferInstanceAs (Decidable (_ ∧ _))

/-- Why a WireGuard reservation is refused. -/
inductive ReserveError
  | vntDevice (deviceId : String)
  | wireguardPeer (peerId : String)
  deriving DecidableEq

namespace NetworkStateInner

variable (s : NetworkStateInner)

/-- The address of a device. -/
def leaseOf (d : String) : Option Ipv4Addr := (s.deviceMap.lookup d).bind (·.ip)

/-- The addresses that devices hold, and the index of their owners. -/
def table : Ownership String Ipv4Addr where
  held := s.leaseOf
  owner := fun ip => s.deviceIpMap.lookup ip

/-! ### WireGuard reservations -/

/-- The address of a peer. -/
def wireguardPeerIp (peerId : String) : Option Ipv4Addr :=
  s.wireguardPeerIpMap.findMap fun ip owner => if owner = peerId then some ip else none

/-- Block `ip` for `peerId`, next to the address it has; the result is that address. -/
def prepareWireguardPeerIpReservation (peerId : String) (ip : Ipv4Addr) :
    Except ReserveError (NetworkStateInner × Option Ipv4Addr) :=
  match s.deviceIpMap.lookup ip with
  | some deviceId => .error (.vntDevice deviceId)
  | none =>
    match s.wireguardPeerIpMap.lookup ip with
    | some existing =>
      if existing ≠ peerId then .error (.wireguardPeer existing)
      else .ok ({ s with wireguardPeerIpMap := s.wireguardPeerIpMap.insert ip peerId },
        s.wireguardPeerIp peerId)
    | none =>
      .ok ({ s with wireguardPeerIpMap := s.wireguardPeerIpMap.insert ip peerId },
        s.wireguardPeerIp peerId)

/-- Give up the previous address. -/
def commitWireguardPeerIpReservation (peerId : String) (ip : Ipv4Addr)
    (previousIp : Option Ipv4Addr) : NetworkStateInner :=
  match previousIp with
  | none => s
  | some previous =>
    if previous ≠ ip ∧ s.wireguardPeerIpMap.lookup previous = some peerId then
      { s with wireguardPeerIpMap := s.wireguardPeerIpMap.erase previous }
    else s

/-- Give up the new address. -/
def rollbackWireguardPeerIpReservation (peerId : String) (ip : Ipv4Addr)
    (previousIp : Option Ipv4Addr) : NetworkStateInner :=
  if previousIp ≠ some ip ∧ s.wireguardPeerIpMap.lookup ip = some peerId then
    { s with wireguardPeerIpMap := s.wireguardPeerIpMap.erase ip }
  else s

/-- Give up every address of a peer; the result says whether there was one. -/
def releaseWireguardPeerIp (peerId : String) : NetworkStateInner × Bool :=
  let after := s.wireguardPeerIpMap.retain fun _ existing => existing ≠ peerId
  ({ s with wireguardPeerIpMap := after },
    HashMap.len after ≠ HashMap.len s.wireguardPeerIpMap)

/-! ### Devices going away -/

/-- A session ends: its device is offline, if the session is still the device's own. -/
def offlineIp (networkCode deviceId : String) (ip : Ipv4Addr) (randomId : BitVec 64)
    (now : SystemTime) : NetworkStateInner × Option DeviceRecord :=
  match s.deviceMap.lookup deviceId with
  | none => (s, none)
  | some e =>
    if e.randomId ≠ randomId then (s, none)
    else if e.ip ≠ some ip then (s, none)
    else
      let e' := { e with
        dataVersion := s.dataVersion + 1, isConnected := false, disconnectTime := some now }
      ({ s with dataVersion := s.dataVersion + 1, deviceMap := s.deviceMap.add e' },
        some (e'.toRecord networkCode))

/-- The devices whose lease has run out. -/
def collectExpiredDevices (leaseDuration : Nat) (now : SystemTime) : List String :=
  s.deviceMap.map.entries.filterMap fun ⟨k, v⟩ =>
    if v.isConnected then none
    else
      match v.disconnectTime with
      | some disconnectTime => if disconnectTime + leaseDuration > now then none else some k
      | none => none

/-- The loop body of `remove_devices`. -/
def removeDevice (d : String) : NetworkStateInner :=
  match s.deviceMap.lookup d with
  | none => s
  | some e => { s with
      deviceMap := s.deviceMap.remove d, deviceIpMap := HashMap.eraseOpt s.deviceIpMap e.ip }

def removeDevices (deviceIds : List String) : NetworkStateInner :=
  if deviceIds = [] then s
  else deviceIds.foldl removeDevice { s with dataVersion := s.dataVersion + 1 }

/-- The lease part of `remove_device_from_memory`; the result is the address of the device. -/
def removeDeviceFromMemory (d : String) : NetworkStateInner × Option Ipv4Addr :=
  match s.deviceMap.lookup d with
  | none => (s, none)
  | some e => ({ s with
      deviceMap := s.deviceMap.remove d, deviceIpMap := HashMap.eraseOpt s.deviceIpMap e.ip,
      dataVersion := s.dataVersion + 1 }, e.ip)

/-- The lease part of `release_pre_registered_ip`; the result says whether the session was still
the device's own. -/
def releasePreRegisteredIp (d : String) (ip : Ipv4Addr) (randomId : BitVec 64) :
    NetworkStateInner × Bool :=
  match s.deviceMap.lookup d with
  | none => (s, false)
  | some e =>
    if e.randomId = randomId ∧ e.ip = some ip then
      ({ s with
        deviceMap := s.deviceMap.remove d, deviceIpMap := s.deviceIpMap.erase ip,
        dataVersion := s.dataVersion + 1 }, true)
    else (s, false)

/-- Put a device into both maps. -/
def addDevice (e : DeviceEntry) : NetworkStateInner :=
  { s with
    deviceIpMap := match e.ip with
      | some ip => s.deviceIpMap.insert ip e.deviceId
      | none => s.deviceIpMap
    deviceMap := s.deviceMap.add e }

/-! ### Loading -/

/-- The first loop body of `build_initial_inner_state`. -/
def loadDevice (net : Ipv4Net) (gateway : Ipv4Addr) (now : SystemTime) (s : NetworkStateInner)
    (record : DeviceRecord) : NetworkStateInner :=
  let e := DeviceEntry.fromRecord record now
  { s with
    dataVersion := max s.dataVersion e.dataVersion
    deviceIpMap := match e.ip with
      | some ip => if Usable net gateway ip then s.deviceIpMap.insert ip e.deviceId else s.deviceIpMap
      | none => s.deviceIpMap
    deviceMap := s.deviceMap.add e }

/-- The second loop body of `build_initial_inner_state`. -/
def loadPeer (net : Ipv4Net) (gateway : Ipv4Addr) (s : NetworkStateInner)
    (allocation : WireGuardPeerIpAllocation) : NetworkStateInner :=
  if Usable net gateway allocation.ip then
    { s with wireguardPeerIpMap := s.wireguardPeerIpMap.insert allocation.ip allocation.peerId }
  else s

def empty : NetworkStateInner where
  dataVersion := 0
  lastWireguardChangeVersion := 0
  deviceMap := .empty
  deviceIpMap := ∅
  wireguardPeerIpMap := ∅
  remoteWireguardSources := ∅

/-- The state of a network as stored; a query that fails (`none`) leaves its maps empty. -/
def buildInitialInnerState (net : Ipv4Net) (gateway : Ipv4Addr)
    (devices : Option (List DeviceRecord)) (allocations : Option (List WireGuardPeerIpAllocation))
    (now : SystemTime) : NetworkStateInner :=
  (allocations.getD []).foldl (loadPeer net gateway)
    ((devices.getD []).foldl (loadDevice net gateway now) empty)

/-! ### What the methods do to the table -/

/-- The holdings after putting an entry into the device map. -/
theorem leaseOf_add (e : DeviceEntry) :
    (fun d => ((s.deviceMap.add e).lookup d).bind (·.ip)) =
      Function.update s.leaseOf e.deviceId e.ip := by
  funext d
  rw [DeviceMap.lookup_add, Function.update_apply]
  split <;> rfl

theorem leaseOf_remove (k : String) :
    (fun d => ((s.deviceMap.remove k).lookup d).bind (·.ip)) =
      Function.update s.leaseOf k none := by
  funext d
  rw [DeviceMap.lookup_remove, Function.update_apply]
  split <;> rfl

variable {d : String} {e : DeviceEntry} {s' : NetworkStateInner} {ip : Ipv4Addr}

theorem leaseOf_of_lookup {s : NetworkStateInner}
    (h : s.deviceMap.lookup d = some e) : s.leaseOf d = e.ip := by
  simp [leaseOf, h]

theorem leaseOf_of_lookup_none {s : NetworkStateInner}
    (h : s.deviceMap.lookup d = none) : s.leaseOf d = none := by
  simp [leaseOf, h]

/-- Replacing an entry by one with the same id and address changes no holding. -/
theorem leaseOf_add_same {s : NetworkStateInner} {e' : DeviceEntry}
    (h : s.deviceMap.lookup d = some e) (hid : e'.deviceId = e.deviceId) (hip : e'.ip = e.ip) :
    (fun k => ((s.deviceMap.add e').lookup k).bind (·.ip)) = s.leaseOf := by
  rw [leaseOf_add, hid, hip, DeviceMap.deviceId_of_lookup h, ← leaseOf_of_lookup h]
  exact Function.update_eq_self d s.leaseOf

/-- Taking an entry out of both maps revokes the device's address. -/
theorem table_remove {s : NetworkStateInner}
    (h : s.deviceMap.lookup d = some e) (hm : s'.deviceMap = s.deviceMap.remove d)
    (hi : s'.deviceIpMap = HashMap.eraseOpt s.deviceIpMap e.ip) : s'.table = s.table.revoke d := by
  ext1
  · exact (congrArg (fun m : DeviceMap => fun k => (m.lookup k).bind (·.ip)) hm).trans
      (s.leaseOf_remove d)
  · funext ip
    simp only [table, Ownership.revoke, hi, HashMap.lookup_eraseOpt, leaseOf_of_lookup h]

theorem table_removeDevice (d : String) : (s.removeDevice d).table = s.table.revoke d := by
  unfold removeDevice
  cases h : s.deviceMap.lookup d with
  | none => exact (Ownership.revoke_of_none (leaseOf_of_lookup_none h)).symm
  | some e => exact table_remove h rfl rfl

theorem table_removeDevices (ids : List String) :
    (s.removeDevices ids).table = ids.foldl Ownership.revoke s.table := by
  have run : ∀ (ids : List String) (s : NetworkStateInner),
      (ids.foldl removeDevice s).table = ids.foldl Ownership.revoke s.table := by
    intro ids
    induction ids with
    | nil => intro s; rfl
    | cons d ids ih => intro s; rw [List.foldl_cons, ih, table_removeDevice]; rfl
  unfold removeDevices
  split
  · rename_i h; rw [h]; rfl
  · exact run ids _

theorem table_removeDeviceFromMemory (d : String) :
    (s.removeDeviceFromMemory d).1.table = s.table.revoke d := by
  unfold removeDeviceFromMemory
  cases h : s.deviceMap.lookup d with
  | none => exact (Ownership.revoke_of_none (leaseOf_of_lookup_none h)).symm
  | some e => exact table_remove h rfl rfl

/-- A release either finds its own session and revokes the address, or does nothing. -/
theorem releasePreRegisteredIp_cases (d : String) (ip : Ipv4Addr) (randomId : BitVec 64) :
    (∃ e, s.deviceMap.lookup d = some e ∧ e.randomId = randomId ∧ e.ip = some ip ∧
      (s.releasePreRegisteredIp d ip randomId).1.table = s.table.revoke d) ∨
    (s.releasePreRegisteredIp d ip randomId).1 = s := by
  unfold releasePreRegisteredIp
  cases h : s.deviceMap.lookup d with
  | none => exact .inr rfl
  | some e =>
    by_cases hc : e.randomId = randomId ∧ e.ip = some ip
    · simp only [hc, and_self, if_true]
      exact .inl ⟨e, rfl, hc.1, hc.2, table_remove h rfl (by rw [hc.2]; rfl)⟩
    · refine .inr ?_
      simp only [hc, if_false]

theorem table_offlineIp (networkCode d : String) (ip : Ipv4Addr) (randomId : BitVec 64)
    (now : SystemTime) : (s.offlineIp networkCode d ip randomId now).1.table = s.table := by
  unfold offlineIp
  cases h : s.deviceMap.lookup d with
  | none => rfl
  | some e =>
    simp only
    split
    · rfl
    · split
      · rfl
      · ext1
        · exact leaseOf_add_same h rfl rfl
        · rfl

/-- A session that goes offline is at its device's address. -/
theorem offlineIp_some {s : NetworkStateInner} {networkCode : String}
    {randomId : BitVec 64} {now : SystemTime} {r : DeviceRecord}
    (h : s.offlineIp networkCode d ip randomId now = (s', some r)) :
    s.leaseOf d = some ip ∧ s'.dataVersion = s.dataVersion + 1 := by
  unfold offlineIp at h
  split at h
  · cases h
  · rename_i e he
    split at h
    · cases h
    · split at h
      · cases h
      · rename_i hip
        cases h
        exact ⟨(leaseOf_of_lookup he).trans (by simpa using hip), rfl⟩

theorem releasePreRegisteredIp_true {s : NetworkStateInner}
    {randomId : BitVec 64} (h : s.releasePreRegisteredIp d ip randomId = (s', true)) :
    s.leaseOf d = some ip ∧ s'.dataVersion = s.dataVersion + 1 := by
  unfold releasePreRegisteredIp at h
  split at h
  · cases h
  · rename_i e he
    split at h
    · rename_i hc
      cases h
      exact ⟨(leaseOf_of_lookup he).trans hc.2, rfl⟩
    · cases h

/-- A reservation that is granted finds the address free of devices and of other peers, blocks
it for the peer, and touches nothing else. -/
theorem prepare_ok {s : NetworkStateInner} {peerId : String} {previous : Option Ipv4Addr}
    (h : s.prepareWireguardPeerIpReservation peerId ip = .ok (s', previous)) :
    s.deviceIpMap.lookup ip = none ∧ (∀ q, s.wireguardPeerIpMap.lookup ip = some q → q = peerId) ∧
    previous = s.wireguardPeerIp peerId ∧
    s' = { s with wireguardPeerIpMap := s.wireguardPeerIpMap.insert ip peerId } := by
  unfold prepareWireguardPeerIpReservation at h
  cases hd : s.deviceIpMap.lookup ip with
  | some d => rw [hd] at h; cases h
  | none =>
    rw [hd] at h
    cases hw : s.wireguardPeerIpMap.lookup ip with
    | none =>
      rw [hw] at h; cases h
      exact ⟨rfl, by simp, rfl, rfl⟩
    | some q =>
      rw [hw] at h
      by_cases hq : q = peerId
      · simp only [hq, ne_eq, not_true_eq_false, if_false] at h
        cases h
        exact ⟨rfl, by simp [hq], rfl, rfl⟩
      · simp [hq] at h

theorem table_commit (peerId : String) (ip : Ipv4Addr) (previous : Option Ipv4Addr) :
    (s.commitWireguardPeerIpReservation peerId ip previous).table = s.table := by
  unfold commitWireguardPeerIpReservation
  cases previous with
  | none => rfl
  | some p => simp only; split <;> rfl

theorem table_rollback (peerId : String) (ip : Ipv4Addr) (previous : Option Ipv4Addr) :
    (s.rollbackWireguardPeerIpReservation peerId ip previous).table = s.table := by
  unfold rollbackWireguardPeerIpReservation
  split <;> rfl

end NetworkStateInner

/-- The gateway that `new_from_db` gives a network: its first address after the network address,
as a 32-bit sum. -/
def gatewayOf (net : Ipv4Net) : Ipv4Addr := net.network + 1#32

/-- An address of the default network. -/
def homeIp (host : Nat) : Ipv4Addr := Ipv4Addr.new 10 26 0 host

/-- The network of the default configuration. -/
def defaultNet : Ipv4Net := ⟨homeIp 0, 24, by decide⟩

end Vntc
