import Vntc.Lib.Bytes
import Vntc.Lib.Table
import Vntc.Server.Lease.State

/-!
# The tables of the database

The tables of `server/control_server/db.rs` and `db/migrations.rs` that say who has which address,
with their checks, primary keys and uniqueness rules. Addresses are stored as texts. A column with a
list of allowed values has a type of these values.
-/

namespace Vntc

open Lib

/-- The greatest `i64`. -/
def i64Max : Nat := 2 ^ 63 - 1

/-- The `length` of a text in SQLite: its characters before the first NUL. -/
def sqlLength (s : String) : Nat := (s.toList.takeWhile fun c => c.toNat ≠ 0).length

inductive OwnerType
  | vntDevice
  | wireguardPeer
  deriving DecidableEq

namespace OwnerType

def text : OwnerType → String
  | vntDevice => "vnt_device"
  | wireguardPeer => "wireguard_peer"

def ofText (s : String) : Option OwnerType :=
  if s = "vnt_device" then some vntDevice
  else if s = "wireguard_peer" then some wireguardPeer
  else none

theorem ofText_eq_some {s : String} {o : OwnerType} : ofText s = some o ↔ s = o.text := by
  unfold ofText
  split
  · rename_i h
    subst h
    cases o <;> simp [text]
  · split
    · rename_i h
      subst h
      cases o <;> simp [text]
    · cases o <;> simp_all [text]

theorem text_injective : Function.Injective text := fun _ _ h =>
  Option.some.inj ((ofText_eq_some.mpr rfl).symm.trans (ofText_eq_some.mpr h))

end OwnerType

/-- A row of `ip_allocations`. -/
structure IpAllocation where
  networkCode : String
  ip : String
  ownerType : OwnerType
  ownerId : String
  deriving DecidableEq

namespace IpAllocation

/-- The primary key. -/
def isOwner (networkCode : String) (ownerType : OwnerType) (ownerId : String) (r : IpAllocation) :
    Bool :=
  r.networkCode == networkCode && r.ownerType == ownerType && r.ownerId == ownerId

/-- The other unique key. -/
def isAt (networkCode ip : String) (r : IpAllocation) : Bool :=
  r.networkCode == networkCode && r.ip == ip

theorem isOwner_iff {n : String} {t : OwnerType} {d : String} {r : IpAllocation} :
    r.isOwner n t d = true ↔ r.networkCode = n ∧ r.ownerType = t ∧ r.ownerId = d := by
  simp [isOwner, and_assoc]

theorem isAt_iff {n a : String} {r : IpAllocation} :
    r.isAt n a = true ↔ r.networkCode = n ∧ r.ip = a := by
  simp [isAt]

end IpAllocation

def ipAllocations : Schema IpAllocation where
  check r := 0 < sqlLength r.ownerId
  clash r x := r.isOwner x.networkCode x.ownerType x.ownerId || r.isAt x.networkCode x.ip
  clash_comm r x := by
    unfold IpAllocation.isOwner IpAllocation.isAt
    rw [Bool.eq_iff_iff]
    simp only [Bool.or_eq_true, Bool.and_eq_true, beq_iff_eq]
    tauto

/-! ## Devices -/

namespace DeviceRecord

/-- The unique key. -/
def isDevice (networkCode deviceId : String) (r : DeviceRecord) : Bool :=
  r.networkCode == networkCode && r.deviceId == deviceId

theorem isDevice_iff {n d : String} {r : DeviceRecord} :
    r.isDevice n d = true ↔ r.networkCode = n ∧ r.deviceId = d := by
  simp [isDevice]

/-- The allocation of a device with an address. -/
def allocation (r : DeviceRecord) : Option IpAllocation :=
  r.ip.map fun ip => ⟨r.networkCode, ip, .vntDevice, r.deviceId⟩

theorem allocation_eq_some {r : DeviceRecord} {a : IpAllocation} :
    r.allocation = some a ↔ r.networkCode = a.networkCode ∧ r.ip = some a.ip ∧
      a.ownerType = .vntDevice ∧ r.deviceId = a.ownerId := by
  unfold allocation
  rw [Option.map_eq_some_iff]
  constructor
  · rintro ⟨ip, hip, rfl⟩
    exact ⟨rfl, hip, rfl, rfl⟩
  · rintro ⟨hn, hip, ht, hd⟩
    refine ⟨a.ip, hip, ?_⟩
    cases a
    simp_all

end DeviceRecord

def devices : Schema DeviceRecord where
  check _ := true
  clash r x := r.isDevice x.networkCode x.deviceId
  clash_comm r x := by
    rw [Bool.eq_iff_iff, DeviceRecord.isDevice_iff, DeviceRecord.isDevice_iff]
    exact and_congr eq_comm eq_comm

theorem devices_clash {r x : DeviceRecord} : devices.clash r x = true ↔
    r.networkCode = x.networkCode ∧ r.deviceId = x.deviceId := DeviceRecord.isDevice_iff

/-! ## WireGuard peers -/

/-- A row of `wireguard_peers`. -/
structure WireGuardPeerRecord where
  networkCode : String
  peerId : String
  publicKey : Bytes
  enabled : Bool
  createdAt : Int
  updatedAt : Int
  deriving DecidableEq

/-- The primary key. -/
def WireGuardPeerRecord.isPeer (networkCode peerId : String) (r : WireGuardPeerRecord) : Bool :=
  r.networkCode == networkCode && r.peerId == peerId

def wireguardPeers : Schema WireGuardPeerRecord where
  check r := 0 < sqlLength r.peerId && r.publicKey.length == 32
  clash r x := r.isPeer x.networkCode x.peerId || r.publicKey == x.publicKey
  clash_comm r x := by
    unfold WireGuardPeerRecord.isPeer
    rw [Bool.eq_iff_iff]
    simp only [Bool.or_eq_true, Bool.and_eq_true, beq_iff_eq]
    tauto

end Vntc
