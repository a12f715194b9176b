import Vntc.Lib.Sys
import Vntc.Server.Db.Schema

/-!
# Who occupies an address in the database

`ip_allocations` has one row for each address that a device or a WireGuard peer has. The rows of the
devices are kept by the triggers that `migrations::apply` installs on `devices`; the rows of the
WireGuard peers are written by `server/control_server/db.rs`. A statement works row by row, and the
trigger of a row runs right after the row is written. A statement or transaction that breaks a rule
has no effect.
-/

namespace Vntc

open Lib IpAllocation

/-- A migrated database. -/
@[ext] structure Database where
  networks : List String
  devices : Table devices
  peers : Table wireguardPeers
  allocations : Table ipAllocations

/-- A database before the migration, which may lack the newer tables. -/
structure DbFile where
  networks : List String
  devices : Table devices
  peers : Option (Table wireguardPeers)
  allocations : Option (Table ipAllocations)

/-- The allocations of the devices. -/
def deviceAllocations (t : Table devices) : List IpAllocation :=
  t.rows.filterMap DeviceRecord.allocation

theorem mem_deviceAllocations {t : Table devices} {a : IpAllocation} :
    a ∈ deviceAllocations t ↔ ∃ r ∈ t.rows, r.allocation = some a := List.mem_filterMap

/-- The rows that the migration does not drop. -/
def DbFile.kept (file : DbFile) : Table ipAllocations :=
  (file.allocations.getD Table.empty).delete fun r => r.ownerType == .vntDevice

/-- `migrations::apply`: the rows of the devices are dropped and filled in again. -/
def DbFile.migrate (file : DbFile) : Option Database := do
  let allocations ← file.kept.insertAll (deviceAllocations file.devices)
  return { networks := file.networks, devices := file.devices
           peers := file.peers.getD Table.empty, allocations }

namespace Database

variable (db : Database)

/-- The migration of a migrated database starts from its tables. -/
def file : DbFile := ⟨db.networks, db.devices, some db.peers, some db.allocations⟩

/-! ## Triggers and rows -/

/-- `devices_ip_allocation_insert`. -/
def onInsert (new : DeviceRecord) : Option Database :=
  match new.allocation with
  | none => some db
  | some r => do
    let allocations ← db.allocations.insert r
    return { db with allocations }

/-- `devices_ip_allocation_delete`. -/
def onDelete (old : DeviceRecord) : Database :=
  { db with allocations :=
      db.allocations.delete (IpAllocation.isOwner old.networkCode .vntDevice old.deviceId) }

/-- `devices_ip_allocation_update`. -/
def onUpdate (old new : DeviceRecord) : Option Database := (db.onDelete old).onInsert new

def insertRow (new : DeviceRecord) : Option Database := do
  let devices ← db.devices.insert new
  onInsert { db with devices } new

/-- Overwrite a row; `fires` says whether the statement sets a column that the trigger is on. -/
def updateRow (fires : Bool) (old new : DeviceRecord) : Option Database := do
  let devices ← db.devices.replace (· == old) new
  if fires then onUpdate { db with devices } old new else some { db with devices }

def deleteRow (old : DeviceRecord) : Database :=
  onDelete { db with devices := db.devices.delete (· == old) } old

/-! ## Statements on devices -/

/-- `SET` of an update of `devices`. -/
structure Assignments where
  set : DeviceRecord → DeviceRecord
  /-- It sets `device_id`, `network_code` or `ip`. -/
  fires : Bool
  keeps : fires = false → ∀ r, (set r).deviceId = r.deviceId ∧
    (set r).networkCode = r.networkCode ∧ (set r).ip = r.ip

/-- `INSERT`. -/
def insertDevice (r : DeviceRecord) : Option Database := db.insertRow r

/-- `UPDATE … SET … WHERE p`. -/
def updateDevices (set : Assignments) (p : DeviceRecord → Bool) : Option Database :=
  (db.devices.rows.filter p).foldlM (fun db old => db.updateRow set.fires old (set.set old)) db

/-- `DELETE … WHERE p`. -/
def deleteDevices (p : DeviceRecord → Bool) : Database :=
  (db.devices.rows.filter p).foldl deleteRow db

def saveOrUpdateDevice (r : DeviceRecord) : Option Database :=
  match db.devices.find (DeviceRecord.isDevice r.networkCode r.deviceId) with
  | some old => db.updateRow true old r
  | none => db.insertRow r

def releaseDeviceIp (networkCode deviceId : String) : Option Database :=
  db.updateDevices ⟨fun r => { r with ip := none }, true, nofun⟩
    (DeviceRecord.isDevice networkCode deviceId)

def deleteDevice (networkCode deviceId : String) : Database :=
  db.deleteDevices (DeviceRecord.isDevice networkCode deviceId)

def deleteDevicesByNetwork (networkCode : String) : Database :=
  db.deleteDevices fun r => r.networkCode == networkCode

/-! ## Statements on WireGuard peers -/

def reserveWireguardPeerIp (networkCode peerId : String) (ip : Ipv4Addr) : Option Database := do
  let allocations ← db.allocations.put (IpAllocation.isOwner networkCode .wireguardPeer peerId)
    ⟨networkCode, ip.toText, .wireguardPeer, peerId⟩
  return { db with allocations }

def releaseWireguardPeerIp (networkCode peerId : String) : Database :=
  { db with allocations :=
      db.allocations.delete (IpAllocation.isOwner networkCode .wireguardPeer peerId) }

def insertWireguardPeer (record : WireGuardPeerRecord) : Option Database := do
  guard (isBlank record.peerId = false)
  guard (record.networkCode ∈ db.networks)
  let peers ← db.peers.insert record
  return { db with peers }

def insertWireguardPeerWithIp (record : WireGuardPeerRecord) (ip : Ipv4Addr) :
    Option Database := do
  let db ← db.insertWireguardPeer record
  let allocations ← db.allocations.insert
    ⟨record.networkCode, ip.toText, .wireguardPeer, record.peerId⟩
  return { db with allocations }

def deleteWireguardPeer (networkCode peerId : String) : Database :=
  releaseWireguardPeerIp
    { db with peers := db.peers.delete (WireGuardPeerRecord.isPeer networkCode peerId) }
    networkCode peerId

theorem insertWireguardPeerWithIp_eq_some {db db' : Database} {record : WireGuardPeerRecord}
    {ip : Ipv4Addr} : db.insertWireguardPeerWithIp record ip = some db' ↔
      isBlank record.peerId = false ∧ record.networkCode ∈ db.networks ∧
      ∃ peers, db.peers.insert record = some peers ∧ ∃ allocations, db.allocations.insert
        ⟨record.networkCode, ip.toText, .wireguardPeer, record.peerId⟩ = some allocations ∧
      { db with peers, allocations } = db' := by
  simp only [insertWireguardPeerWithIp, insertWireguardPeer, Option.bind_eq_bind,
    Option.bind_eq_some_iff, Option.guard_eq_some', Option.pure_def, Option.some.injEq]
  constructor
  · rintro ⟨_, ⟨_, hb, _, hn, peers, hp, rfl⟩, allocations, ha, rfl⟩
    exact ⟨hb, hn, peers, hp, allocations, ha, rfl⟩
  · rintro ⟨hb, hn, peers, hp, allocations, ha, rfl⟩
    exact ⟨_, ⟨(), hb, (), hn, peers, hp, rfl⟩, allocations, ha, rfl⟩

end Database

/-- The writes of a server, and any other statement on `devices`. -/
inductive DbOp
  | insertDevice (r : DeviceRecord)
  | updateDevices (set : Database.Assignments) (p : DeviceRecord → Bool)
  | deleteDevices (p : DeviceRecord → Bool)
  | saveOrUpdateDevice (r : DeviceRecord)
  | releaseDeviceIp (networkCode deviceId : String)
  | deleteDevice (networkCode deviceId : String)
  | deleteDevicesByNetwork (networkCode : String)
  | reserveWireguardPeerIp (networkCode peerId : String) (ip : Ipv4Addr)
  | releaseWireguardPeerIp (networkCode peerId : String)
  | insertWireguardPeer (record : WireGuardPeerRecord)
  | insertWireguardPeerWithIp (record : WireGuardPeerRecord) (ip : Ipv4Addr)
  | deleteWireguardPeer (networkCode peerId : String)

namespace Database

/-- The database after a write that is accepted. -/
def exec (db : Database) : DbOp → Option Database
  | .insertDevice r => db.insertDevice r
  | .updateDevices set p => db.updateDevices set p
  | .deleteDevices p => some (db.deleteDevices p)
  | .saveOrUpdateDevice r => db.saveOrUpdateDevice r
  | .releaseDeviceIp n d => db.releaseDeviceIp n d
  | .deleteDevice n d => some (db.deleteDevice n d)
  | .deleteDevicesByNetwork n => some (db.deleteDevicesByNetwork n)
  | .reserveWireguardPeerIp n d ip => db.reserveWireguardPeerIp n d ip
  | .releaseWireguardPeerIp n d => some (db.releaseWireguardPeerIp n d)
  | .insertWireguardPeer record => db.insertWireguardPeer record
  | .insertWireguardPeerWithIp record ip => db.insertWireguardPeerWithIp record ip
  | .deleteWireguardPeer n d => some (db.deleteWireguardPeer n d)

/-- A write that is rejected has no effect. -/
def write (db : Database) (op : DbOp) : Database := (db.exec op).getD db

/-- The writes on a migrated database. -/
def dbSys : Sys Database DbOp := Sys.ofFun (fun db => ∃ file : DbFile, file.migrate = some db) write

/-- The allocations of devices are those of the devices with an address. -/
def Mirrors (db : Database) : Prop :=
  ∀ a : IpAllocation, a.ownerType = .vntDevice →
    (a ∈ db.allocations.rows ↔ ∃ r ∈ db.devices.rows, r.allocation = some a)

/-! ## What a row does -/

variable {db db' : Database} {old new : DeviceRecord}

theorem onInsert_some (h : db.onInsert new = some db') : db'.devices = db.devices ∧
    ∀ a, a ∈ db'.allocations.rows ↔ a ∈ db.allocations.rows ∨ new.allocation = some a := by
  unfold onInsert at h
  split at h
  · rename_i hn
    cases h
    simp [hn]
  · rename_i r hr
    obtain ⟨t, ht, e⟩ := Option.bind_eq_some_iff.mp h
    cases e
    refine ⟨rfl, fun a => ?_⟩
    rw [Table.insert_eq_some.mp ht, List.mem_append, List.mem_singleton, hr, Option.some_inj,
      eq_comm (a := r)]

variable {a : IpAllocation} {fires : Bool} {l : List DeviceRecord} {set : Assignments}

theorem mem_onDelete : a ∈ (db.onDelete old).allocations.rows ↔
    a ∈ db.allocations.rows ∧ a.isOwner old.networkCode .vntDevice old.deviceId = false :=
  Table.mem_delete

/-- The owner of a device's allocation is that device. -/
theorem isOwner_allocation {r : DeviceRecord} (hr : r ∈ db.devices.rows)
    (ho : old ∈ db.devices.rows) (ha : r.allocation = some a) :
    a.isOwner old.networkCode .vntDevice old.deviceId = true ↔ r = old := by
  obtain ⟨hn, -, ht, hd⟩ := DeviceRecord.allocation_eq_some.mp ha
  rw [isOwner_iff]
  constructor
  · rintro ⟨hn', -, hd'⟩
    exact db.devices.eq_of_clash hr ho (devices_clash.mpr ⟨hn.trans hn', hd.trans hd'⟩)
  · rintro rfl
    exact ⟨hn.symm, ht, hd.symm⟩

/-- The allocations of the other devices. -/
theorem Mirrors.others (h : db.Mirrors) (ho : old ∈ db.devices.rows)
    (ha : a.ownerType = .vntDevice) :
    (a ∈ db.allocations.rows ∧ a.isOwner old.networkCode .vntDevice old.deviceId = false) ↔
      ∃ r ∈ db.devices.rows, r ≠ old ∧ r.allocation = some a := by
  rw [h a ha]
  constructor
  · rintro ⟨⟨r, hr, hra⟩, hno⟩
    refine ⟨r, hr, fun e => ?_, hra⟩
    rw [(isOwner_allocation hr ho hra).mpr e] at hno
    cases hno
  · rintro ⟨r, hr, hne, hra⟩
    exact ⟨⟨r, hr, hra⟩, Bool.eq_false_iff.mpr fun e => hne ((isOwner_allocation hr ho hra).mp e)⟩

theorem Mirrors.insertRow (h : db.Mirrors) (hi : db.insertRow new = some db') : db'.Mirrors := by
  obtain ⟨t, ht, hi⟩ := Option.bind_eq_some_iff.mp hi
  obtain ⟨hdev, halloc⟩ := onInsert_some hi
  intro a ha
  rw [halloc, hdev, h a ha, Table.insert_eq_some.mp ht]
  simp [or_and_right, exists_or]

theorem mem_updateRow (hu : db.updateRow fires old new = some db')
    (ho : old ∈ db.devices.rows) (x : DeviceRecord) :
    x ∈ db'.devices.rows ↔ (x ∈ db.devices.rows ∧ x ≠ old) ∨ x = new := by
  obtain ⟨t, ht, hu⟩ := Option.bind_eq_some_iff.mp hu
  have hdev : db'.devices = t := by
    split at hu
    · exact (onInsert_some hu).1
    · cases hu; rfl
  rw [hdev, Table.mem_replace ht]
  simp [ho]

theorem Mirrors.updateRow (h : db.Mirrors)
    (hu : db.updateRow fires old new = some db') (ho : old ∈ db.devices.rows)
    (hk : fires = false → new.allocation = old.allocation) : db'.Mirrors := by
  have hdev := mem_updateRow hu ho
  obtain ⟨t, ht, hu⟩ := Option.bind_eq_some_iff.mp hu
  intro a ha
  have hrows : (∃ r ∈ db'.devices.rows, r.allocation = some a) ↔
      (∃ r ∈ db.devices.rows, r ≠ old ∧ r.allocation = some a) ∨ new.allocation = some a := by
    simp only [hdev, or_and_right, exists_or, exists_eq_left, and_assoc]
  rw [hrows]
  split at hu
  · rw [(onInsert_some hu).2, ← h.others ho ha]
    exact or_congr_left mem_onDelete
  · rename_i hf
    cases hu
    rw [h a ha, hk (by simpa using hf)]
    constructor
    · rintro ⟨r, hr, hra⟩
      by_cases e : r = old
      · exact .inr (e ▸ hra)
      · exact .inl ⟨r, hr, e, hra⟩
    · rintro (⟨r, hr, -, hra⟩ | hra)
      · exact ⟨r, hr, hra⟩
      · exact ⟨old, ho, hra⟩

theorem Mirrors.deleteRow (h : db.Mirrors) (ho : old ∈ db.devices.rows) :
    (db.deleteRow old).Mirrors := by
  intro a ha
  have hrows : ∀ r, r ∈ (db.deleteRow old).devices.rows ↔ r ∈ db.devices.rows ∧ r ≠ old :=
    fun r => Table.mem_delete.trans (by simp)
  simp only [hrows, and_assoc]
  exact mem_onDelete.trans (h.others ho ha)

/-! ## What a statement does -/

theorem filter_nodup (db : Database) (p : DeviceRecord → Bool) : (db.devices.rows.filter p).Nodup :=
  (db.devices.rows_nodup fun _ => devices_clash.mpr ⟨rfl, rfl⟩).filter p

section

variable (h : db.Mirrors)

include h

/-- An update, row by row. -/
theorem Mirrors.updateRows (hl : l.Nodup) (hm : ∀ x ∈ l, x ∈ db.devices.rows)
    (hu : l.foldlM (fun db old => db.updateRow set.fires old (set.set old)) db = some db') :
    db'.Mirrors := by
  induction l generalizing db with
  | nil => cases hu; exact h
  | cons x l ih =>
    obtain ⟨db₁, h₁, hu⟩ := Option.bind_eq_some_iff.mp hu
    have hx := hm x List.mem_cons_self
    refine ih (h.updateRow h₁ hx fun hf => ?_) hl.of_cons (fun y hy => ?_) hu
    · obtain ⟨hd, hn, hip⟩ := set.keeps hf x
      rw [DeviceRecord.allocation, DeviceRecord.allocation, hd, hn, hip]
    · -- The rows that are still to come are not touched.
      refine (mem_updateRow h₁ hx y).mpr (.inl ⟨hm y (List.mem_cons_of_mem _ hy), fun e => ?_⟩)
      exact (List.nodup_cons.mp hl).1 (e ▸ hy)

theorem Mirrors.updateDevices {p : DeviceRecord → Bool}
    (hu : db.updateDevices set p = some db') : db'.Mirrors :=
  h.updateRows (db.filter_nodup p) (fun _ hx => (List.mem_filter.mp hx).1) hu

/-- A deletion, row by row. -/
theorem Mirrors.deleteRows (hl : l.Nodup)
    (hm : ∀ x ∈ l, x ∈ db.devices.rows) : (l.foldl Database.deleteRow db).Mirrors := by
  induction l generalizing db with
  | nil => exact h
  | cons x l ih =>
    refine ih (h.deleteRow (hm x List.mem_cons_self)) hl.of_cons fun y hy => ?_
    refine Table.mem_delete.mpr ⟨hm y (List.mem_cons_of_mem _ hy), beq_false_of_ne fun e => ?_⟩
    exact (List.nodup_cons.mp hl).1 (e ▸ hy)

theorem Mirrors.deleteDevices (p : DeviceRecord → Bool) : (db.deleteDevices p).Mirrors :=
  h.deleteRows (db.filter_nodup p) fun _ hx => (List.mem_filter.mp hx).1

/-- A write that only concerns the rows of WireGuard peers. -/
theorem Mirrors.of_peers (hd : db'.devices = db.devices)
    (ha : ∀ a : IpAllocation, a.ownerType = .vntDevice →
      (a ∈ db'.allocations.rows ↔ a ∈ db.allocations.rows)) : db'.Mirrors := by
  intro a hv
  rw [ha a hv, hd]
  exact h a hv

theorem Mirrors.insertWireguardPeer {record : WireGuardPeerRecord}
    (hi : db.insertWireguardPeer record = some db') : db'.Mirrors := by
  simp only [Database.insertWireguardPeer, Option.bind_eq_bind, Option.bind_eq_some_iff] at hi
  obtain ⟨-, -, -, -, peers, -, e⟩ := hi
  cases e
  exact h

theorem Mirrors.releaseWireguardPeerIp (n d : String) :
    (db.releaseWireguardPeerIp n d).Mirrors := by
  refine h.of_peers rfl fun a hv => Table.mem_delete.trans (and_iff_left ?_)
  exact Bool.eq_false_iff.mpr fun e => by
    rw [(isOwner_iff.mp e).2.1] at hv
    cases hv

theorem Mirrors.exec {op : DbOp} (he : db.exec op = some db') : db'.Mirrors := by
  cases op with
  | insertDevice r => exact h.insertRow he
  | updateDevices set p | releaseDeviceIp n d => exact h.updateDevices he
  | deleteDevices p => cases he; exact h.deleteDevices p
  | saveOrUpdateDevice r =>
    simp only [Database.exec, saveOrUpdateDevice] at he
    split at he
    · rename_i old hf
      exact h.updateRow he (List.mem_of_find?_eq_some hf) nofun
    · exact h.insertRow he
  | deleteDevice n d | deleteDevicesByNetwork n => cases he; exact h.deleteDevices _
  | reserveWireguardPeerIp n d ip =>
    obtain ⟨t, ht, e⟩ := Option.bind_eq_some_iff.mp he
    cases e
    refine h.of_peers rfl fun a hv => (Table.mem_put ht a).trans ?_
    constructor
    · rintro (⟨ha, -⟩ | rfl)
      · exact ha
      · cases hv
    · refine fun ha => .inl ⟨ha, Bool.eq_false_iff.mpr fun e => ?_⟩
      rw [(isOwner_iff.mp e).2.1] at hv
      cases hv
  | releaseWireguardPeerIp n d => cases he; exact h.releaseWireguardPeerIp n d
  | insertWireguardPeer record => exact h.insertWireguardPeer he
  | insertWireguardPeerWithIp record ip =>
    obtain ⟨db₁, h₁, he⟩ := Option.bind_eq_some_iff.mp he
    obtain ⟨t, ht, e⟩ := Option.bind_eq_some_iff.mp he
    cases e
    refine (h.insertWireguardPeer h₁).of_peers rfl fun a hv => ?_
    rw [Table.insert_eq_some.mp ht, List.mem_append, List.mem_singleton]
    exact or_iff_left fun e => by rw [e] at hv; cases hv
  | deleteWireguardPeer n d =>
    cases he
    exact Mirrors.releaseWireguardPeerIp (show Mirrors { db with peers := _ } from h) n d

end

end Database

/-! ## The migration -/

namespace DbFile

variable {file : DbFile} {db : Database}

theorem migrate_eq_some : file.migrate = some db ↔
    db.networks = file.networks ∧ db.devices = file.devices ∧
      db.peers = file.peers.getD Table.empty ∧
      db.allocations.rows = file.kept.rows ++ deviceAllocations file.devices := by
  unfold migrate
  rw [Option.bind_eq_bind, Option.bind_eq_some_iff]
  simp only [Table.insertAll_eq_some]
  constructor
  · rintro ⟨t, ht, e⟩
    cases e
    exact ⟨rfl, rfl, rfl, ht⟩
  · rintro ⟨hn, hd, hp, ha⟩
    exact ⟨db.allocations, ha, by rw [← hn, ← hd, ← hp]; rfl⟩

variable {a : IpAllocation}

theorem mem_kept : a ∈ file.kept.rows ↔
    (∃ t, file.allocations = some t ∧ a ∈ t.rows) ∧ a.ownerType ≠ .vntDevice := by
  unfold kept
  rw [Table.mem_delete, beq_eq_false_iff_ne]
  cases file.allocations with
  | none => simp [Table.empty]
  | some t => simp

/-- A migrated database has the rows of its devices. -/
theorem mirrors_of_migrate (h : file.migrate = some db) : db.Mirrors := by
  obtain ⟨-, hd, -, ha⟩ := migrate_eq_some.mp h
  intro a hv
  rw [ha, hd, List.mem_append, mem_kept, mem_deviceAllocations]
  exact or_iff_right fun hk => hk.2 hv

/-- What the migration needs of the devices and the other rows. -/
structure Fits (file : DbFile) : Prop where
  named : ∀ r ∈ file.devices.rows, r.ip ≠ none → 0 < sqlLength r.deviceId
  distinct : ∀ r ∈ file.devices.rows, ∀ x ∈ file.devices.rows,
    r.networkCode = x.networkCode → r.ip = x.ip → r.ip ≠ none → r = x
  peers : ∀ a ∈ file.kept.rows, ∀ r ∈ file.devices.rows,
    r.networkCode = a.networkCode → r.ip ≠ some a.ip

theorem Fits.clash {r x : DeviceRecord} (h : file.Fits) (hr : r ∈ file.devices.rows)
    (hx : x ∈ file.devices.rows) {b : IpAllocation} (ha : r.allocation = some a)
    (hb : x.allocation = some b) (hc : ipAllocations.clash a b = true) : r = x := by
  obtain ⟨hn, hip, -, hd⟩ := DeviceRecord.allocation_eq_some.mp ha
  obtain ⟨hn', hip', -, hd'⟩ := DeviceRecord.allocation_eq_some.mp hb
  rcases Bool.or_eq_true_iff.mp hc with hc | hc
  · obtain ⟨e, -, e'⟩ := isOwner_iff.mp hc
    exact file.devices.eq_of_clash hr hx
      (devices_clash.mpr ⟨hn.trans (e.trans hn'.symm), hd.trans (e'.trans hd'.symm)⟩)
  · obtain ⟨e, e'⟩ := isAt_iff.mp hc
    exact h.distinct r hr x hx (hn.trans (e.trans hn'.symm)) (by rw [hip, hip', e'])
      (by rw [hip]; nofun)

theorem Fits.migrate (h : file.Fits) : ∃ db, file.migrate = some db := by
  have hsome : (file.kept.insertAll (deviceAllocations file.devices)).isSome := by
    refine Table.insertAll_isSome.mpr ⟨fun a hm => ?_, List.pairwise_append.mpr
      ⟨file.kept.valid.2, ?_, fun a hk b hm => ?_⟩⟩
    · rcases List.mem_append.mp hm with hm | hm
      · exact file.kept.valid.1 a hm
      · obtain ⟨r, hr, hra⟩ := mem_deviceAllocations.mp hm
        obtain ⟨-, hip, -, hd⟩ := DeviceRecord.allocation_eq_some.mp hra
        have := h.named r hr (by rw [hip]; nofun)
        rw [hd] at this
        simpa [ipAllocations] using this
    · refine List.pairwise_filterMap.mpr (file.devices.valid.2.imp_of_mem ?_)
      intro r x hr hx hrx a ha b hb
      refine Bool.eq_false_iff.mpr fun hc => ?_
      rw [h.clash hr hx ha hb hc, devices_clash.mpr ⟨rfl, rfl⟩] at hrx
      cases hrx
    · obtain ⟨r, hr, hra⟩ := mem_deviceAllocations.mp hm
      obtain ⟨hn, hip, ht, -⟩ := DeviceRecord.allocation_eq_some.mp hra
      refine Bool.eq_false_iff.mpr fun hc => ?_
      rcases Bool.or_eq_true_iff.mp hc with hc | hc
      · exact (mem_kept.mp hk).2 ((isOwner_iff.mp hc).2.1.trans ht)
      · obtain ⟨e, e'⟩ := isAt_iff.mp hc
        exact h.peers a hk r hr (hn.trans e.symm) (by rw [hip, e'])
  obtain ⟨t, ht⟩ := Option.isSome_iff_exists.mp hsome
  exact ⟨⟨file.networks, file.devices, file.peers.getD Table.empty, t⟩,
    migrate_eq_some.mpr ⟨rfl, rfl, rfl, Table.insertAll_eq_some.mp ht⟩⟩

/-- The rows of the devices are there already. -/
def Mirrored (file : DbFile) : Prop :=
  ∃ t, file.allocations = some t ∧ ∀ a : IpAllocation, a.ownerType = .vntDevice →
    (a ∈ t.rows ↔ ∃ r ∈ file.devices.rows, r.allocation = some a)

/-- An older database: its devices have ids, and no two devices of a network have an address, nor
has a WireGuard peer, if there are any, the address of a device. -/
structure Legacy (file : DbFile) : Prop where
  named : ∀ r ∈ file.devices.rows, 0 < sqlLength r.deviceId
  distinct : ∀ r ∈ file.devices.rows, ∀ x ∈ file.devices.rows,
    r.networkCode = x.networkCode → r.ip = x.ip → r.ip ≠ none → r = x
  peers : ∀ t, file.allocations = some t → ∀ a ∈ t.rows, a.ownerType = .wireguardPeer →
    ∀ r ∈ file.devices.rows, r.networkCode = a.networkCode → r.ip ≠ some a.ip

theorem Legacy.fits (h : file.Legacy) : file.Fits where
  named r hr _ := h.named r hr
  distinct := h.distinct
  peers a hk := by
    obtain ⟨⟨t, ht, ha⟩, hne⟩ := mem_kept.mp hk
    refine h.peers t ht a ha ?_
    cases hw : a.ownerType with
    | vntDevice => exact (hne hw).elim
    | wireguardPeer => rfl

/-- The table rejected everything that the migration cannot do. -/
theorem Mirrored.fits (h : file.Mirrored) : file.Fits := by
  obtain ⟨t, ht, hm⟩ := h
  -- The row of a device with an address.
  have hrow : ∀ r ∈ file.devices.rows, ∀ ip, r.ip = some ip →
      (⟨r.networkCode, ip, .vntDevice, r.deviceId⟩ : IpAllocation) ∈ t.rows := fun r hr ip hip =>
    (hm _ rfl).mpr ⟨r, hr, DeviceRecord.allocation_eq_some.mpr ⟨rfl, hip, rfl, rfl⟩⟩
  -- Two rows of an address are one row.
  have huniq : ∀ a ∈ t.rows, ∀ b ∈ t.rows, a.networkCode = b.networkCode → a.ip = b.ip → a = b :=
    fun a ha b hb hn hip => t.eq_of_clash ha hb
      (Bool.or_eq_true_iff.mpr (.inr (isAt_iff.mpr ⟨hn, hip⟩)))
  refine ⟨fun r hr hne => ?_, fun r hr x hx hn hip hne => ?_, fun a hk r hr hn hip => ?_⟩
  · obtain ⟨ip, hip⟩ := Option.ne_none_iff_exists'.mp hne
    simpa [ipAllocations] using t.valid.1 _ (hrow r hr ip hip)
  · obtain ⟨ip, hr'⟩ := Option.ne_none_iff_exists'.mp hne
    have e := huniq _ (hrow r hr ip hr') _ (hrow x hx ip (hip ▸ hr')) hn rfl
    exact file.devices.eq_of_clash hr hx (devices_clash.mpr ⟨hn, congrArg ownerId e⟩)
  · obtain ⟨⟨t', ht', ha⟩, hne⟩ := mem_kept.mp hk
    rw [ht] at ht'
    cases ht'
    have e := huniq _ (hrow r hr a.ip hip) a ha hn rfl
    exact hne (congrArg ownerType e).symm

end DbFile

namespace Database

theorem mirrors_of_reach {db : Database} (h : dbSys.Reach db) : db.Mirrors := by
  refine Sys.Reach.invariant (fun db hdb => ?_) (fun db op db' hm hst => ?_) h
  · obtain ⟨file, hf⟩ := hdb
    exact DbFile.mirrors_of_migrate hf
  · obtain rfl := hst
    unfold write
    cases he : db.exec op with
    | none => exact hm
    | some db' => exact hm.exec he

end Database

end Vntc
