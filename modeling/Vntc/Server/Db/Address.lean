import Vntc.Lib.Checks
import Vntc.Server.Db.Occupancy
import Vntc.Server.Lease.Index

/-!
# The address of a device in the database

What the three statements that a server runs on `devices` do to the address of each device, and when
a save is accepted.
-/

namespace Vntc

open Lib DeviceRecord

namespace Database

variable (db : Database)

/-- The address in a device's row, as it is stored. -/
def addressOf (networkCode deviceId : String) : Option String :=
  (db.devices.find (DeviceRecord.isDevice networkCode deviceId)).bind (·.ip)

def loadAllDevices (networkCode : String) : List DeviceRecord :=
  db.devices.rows.filter fun r => r.networkCode == networkCode

/-- The order of the rows is left out: no two of them have one address. -/
def loadWireguardPeerIpAllocations (networkCode : String) : Option (List WireGuardPeerIpAllocation) :=
  (db.allocations.rows.filter fun a =>
    a.networkCode == networkCode && a.ownerType == .wireguardPeer).mapM
      fun a => (Ipv4Addr.parse a.ip).map fun ip => ⟨a.ownerId, ip⟩

/-- A WireGuard peer of the network has the address. -/
def PeerAt (networkCode ip : String) : Prop :=
  ∃ a ∈ db.allocations.rows, a.ownerType = .wireguardPeer ∧ a.networkCode = networkCode ∧ a.ip = ip

variable {db} {db' : Database} {n d : String} {r old : DeviceRecord}

theorem isDevice_clash (x y : DeviceRecord) (hx : x.isDevice n d = true)
    (hy : y.isDevice n d = true) : Vntc.devices.clash x y = true := by
  obtain ⟨hn, hd⟩ := isDevice_iff.mp hx
  obtain ⟨hn', hd'⟩ := isDevice_iff.mp hy
  exact devices_clash.mpr ⟨hn.trans hn'.symm, hd.trans hd'.symm⟩

theorem find_device : db.devices.find (isDevice n d) = some r ↔
    r ∈ db.devices.rows ∧ r.networkCode = n ∧ r.deviceId = d := by
  rw [Table.find_eq_some isDevice_clash, isDevice_iff]

theorem addressOf_eq_some {t : String} : db.addressOf n d = some t ↔
    ∃ r ∈ db.devices.rows, r.networkCode = n ∧ r.deviceId = d ∧ r.ip = some t := by
  unfold addressOf
  simp only [Option.bind_eq_some_iff, find_device, and_assoc]

/-- The address in a table that has the rows of `db` except for those of one device, which has the
row `new` or none. -/
theorem addressOf_of_rows {n' d' : String} (new : Option DeviceRecord)
    (hnew : ∀ r, new = some r → r.networkCode = n ∧ r.deviceId = d)
    (hrows : ∀ x, x ∈ db'.devices.rows ↔
      (x ∈ db.devices.rows ∧ x.isDevice n d = false) ∨ new = some x) :
    db'.addressOf n' d' = if n' = n ∧ d' = d then new.bind (·.ip) else db.addressOf n' d' := by
  apply Option.ext
  intro t
  rw [addressOf_eq_some]
  split
  · rename_i he
    obtain ⟨rfl, rfl⟩ := he
    constructor
    · rintro ⟨x, hx, hn, hd, ht⟩
      rcases (hrows x).mp hx with ⟨-, hno⟩ | h
      · rw [isDevice_iff.mpr ⟨hn, hd⟩] at hno
        cases hno
      · exact Option.bind_eq_some_iff.mpr ⟨x, h, ht⟩
    · intro h
      obtain ⟨x, hx, ht⟩ := Option.bind_eq_some_iff.mp h
      exact ⟨x, (hrows x).mpr (.inr hx), (hnew x hx).1, (hnew x hx).2, ht⟩
  · rename_i he
    rw [addressOf_eq_some]
    refine exists_congr fun x => and_congr_left fun ⟨hn, hd, _⟩ => ?_
    have hno : x.isDevice n d = false := Bool.eq_false_iff.mpr fun h => he (by
      obtain ⟨h1, h2⟩ := isDevice_iff.mp h
      exact ⟨hn.symm.trans h1, hd.symm.trans h2⟩)
    rw [hrows]
    constructor
    · rintro (⟨hx, -⟩ | h)
      · exact hx
      · exact absurd ⟨hn.symm.trans (hnew x h).1, hd.symm.trans (hnew x h).2⟩ he
    · exact fun hx => .inl ⟨hx, hno⟩

/-- The other rows are those without the key. -/
theorem ne_iff_isDevice (ho : old ∈ db.devices.rows) (hn : old.networkCode = n)
    (hd : old.deviceId = d) {x : DeviceRecord} (hx : x ∈ db.devices.rows) :
    x ≠ old ↔ x.isDevice n d = false := by
  rw [ne_eq, ← Bool.not_eq_true, not_iff_not]
  constructor
  · rintro rfl
    exact isDevice_iff.mpr ⟨hn, hd⟩
  · intro h
    exact db.devices.eq_of_clash hx ho
      (isDevice_clash x old h (isDevice_iff.mpr ⟨hn, hd⟩))

/-! ## A save -/

theorem mem_save (h : db.saveOrUpdateDevice r = some db') (x : DeviceRecord) :
    x ∈ db'.devices.rows ↔
      (x ∈ db.devices.rows ∧ x.isDevice r.networkCode r.deviceId = false) ∨ some r = some x := by
  rw [Option.some_inj, eq_comm (a := r)]
  unfold saveOrUpdateDevice at h
  split at h
  · rename_i old hf
    obtain ⟨ho, hn, hd⟩ := find_device.mp hf
    rw [mem_updateRow h ho]
    exact or_congr_left (and_congr_right fun hx => ne_iff_isDevice ho hn hd hx)
  · rename_i hf
    obtain ⟨t, ht, hi⟩ := Option.bind_eq_some_iff.mp h
    rw [(onInsert_some hi).1, Table.insert_eq_some.mp ht, List.mem_append, List.mem_singleton]
    exact or_congr_left ⟨fun hx => ⟨hx, Table.find_eq_none.mp hf x hx⟩, And.left⟩

theorem addressOf_save (h : db.saveOrUpdateDevice r = some db') (n d : String) :
    db'.addressOf n d = if n = r.networkCode ∧ d = r.deviceId then r.ip else db.addressOf n d :=
  addressOf_of_rows (some r) (fun x hx => by cases hx; exact ⟨rfl, rfl⟩) (mem_save h)

/-- The allocation of a row is accepted: the device has no other, and its address is free. -/
theorem onInsert_isSome (hlen : r.ip ≠ none → 0 < sqlLength r.deviceId)
    (hown : ∀ a ∈ db.allocations.rows, a.isOwner r.networkCode .vntDevice r.deviceId = false)
    (hat : ∀ t, r.ip = some t → ∀ a ∈ db.allocations.rows, a.isAt r.networkCode t = false) :
    (db.onInsert r).isSome := by
  unfold onInsert
  split
  · rfl
  · rename_i a ha
    obtain ⟨hn, hip, ht, hd⟩ := allocation_eq_some.mp ha
    have hins : (db.allocations.insert a).isSome := by
      refine Table.insert_isSome.mpr ⟨?_, fun b hb => ?_⟩
      · have := hlen (by rw [hip]; nofun)
        rw [hd] at this
        simpa [ipAllocations] using this
      · have h1 := hown b hb
        have h2 := hat a.ip hip b hb
        rw [hn, hd, ← ht] at h1
        rw [hn] at h2
        exact Bool.or_eq_false_iff.mpr ⟨h1, h2⟩
    obtain ⟨t', ht'⟩ := Option.isSome_iff_exists.mp hins
    rw [ht']
    rfl

/-- An allocation at the address would be another device's or a peer's. -/
theorem Mirrors.free (hm : db.Mirrors) {t : String}
    (hdev : ∀ d, d ≠ r.deviceId → db.addressOf r.networkCode d ≠ some t)
    (hpeer : ¬ db.PeerAt r.networkCode t) {a : IpAllocation} (ha : a ∈ db.allocations.rows)
    (hown : a.isOwner r.networkCode .vntDevice r.deviceId = false) :
    a.isAt r.networkCode t = false := by
  refine Bool.eq_false_iff.mpr fun h => ?_
  obtain ⟨hn, hip⟩ := IpAllocation.isAt_iff.mp h
  cases ht : a.ownerType with
  | wireguardPeer => exact hpeer ⟨a, ha, ht, hn, hip⟩
  | vntDevice =>
    obtain ⟨x, hx, hxa⟩ := (hm a ht).mp ha
    obtain ⟨hxn, hxip, -, hxd⟩ := allocation_eq_some.mp hxa
    refine hdev a.ownerId (fun hd => ?_) (addressOf_eq_some.mpr
      ⟨x, hx, hxn.trans hn, hxd, by rw [hxip, hip]⟩)
    rw [IpAllocation.isOwner_iff.mpr ⟨hn, ht, hd⟩] at hown
    cases hown

/-- A row may be overwritten by one with the same key. -/
theorem replace_isSome (hn : old.networkCode = r.networkCode) (hd : old.deviceId = r.deviceId) :
    (db.devices.replace (· == old) r).isSome := by
  refine Table.ofRows?_isSome.mpr ⟨fun _ _ => rfl, List.pairwise_map.mpr ?_⟩
  have hkey : ∀ z, Vntc.devices.clash (if (z == old) = true then r else z) =
      Vntc.devices.clash z := by
    intro z
    funext w
    split
    · rename_i hz
      rw [eq_of_beq hz, Bool.eq_iff_iff, devices_clash, devices_clash, hn, hd]
    · rfl
  refine db.devices.valid.2.imp fun {x y} hxy => ?_
  rw [hkey, Vntc.devices.clash_comm, hkey, Vntc.devices.clash_comm]
  exact hxy

/-- A save is accepted if no other device and no WireGuard peer of the network has the address; with
`Mirrors` the rows of the devices say so. -/
theorem save_isSome (hm : db.Mirrors) (hlen : r.ip ≠ none → 0 < sqlLength r.deviceId)
    (hdev : ∀ t, r.ip = some t → ∀ d, d ≠ r.deviceId → db.addressOf r.networkCode d ≠ some t)
    (hpeer : ∀ t, r.ip = some t → ¬ db.PeerAt r.networkCode t) :
    (db.saveOrUpdateDevice r).isSome := by
  unfold saveOrUpdateDevice
  split
  · rename_i old hf
    obtain ⟨ho, hn, hd⟩ := find_device.mp hf
    have hrep : (db.devices.replace (· == old) r).isSome := replace_isSome hn hd
    obtain ⟨t, ht⟩ := Option.isSome_iff_exists.mp hrep
    unfold updateRow
    rw [ht]
    refine onInsert_isSome hlen (fun a ha => ?_) fun t' ht' a ha => ?_
    · have hno := (mem_onDelete.mp ha).2
      rwa [hn, hd] at hno
    · obtain ⟨ha, hno⟩ := mem_onDelete.mp ha
      rw [hn, hd] at hno
      exact hm.free (hdev t' ht') (hpeer t' ht') ha hno
  · rename_i hf
    have hnone := Table.find_eq_none.mp hf
    have hown : ∀ a ∈ db.allocations.rows,
        a.isOwner r.networkCode .vntDevice r.deviceId = false := by
      refine fun a ha => Bool.eq_false_iff.mpr fun h => ?_
      obtain ⟨hn, ht, hd⟩ := IpAllocation.isOwner_iff.mp h
      obtain ⟨x, hx, hxa⟩ := (hm a ht).mp ha
      obtain ⟨hxn, -, -, hxd⟩ := allocation_eq_some.mp hxa
      have := hnone x hx
      rw [isDevice_iff.mpr ⟨hxn.trans hn, hxd.trans hd⟩] at this
      cases this
    have hins : (db.devices.insert r).isSome := Table.insert_isSome.mpr ⟨rfl, hnone⟩
    obtain ⟨t, ht⟩ := Option.isSome_iff_exists.mp hins
    unfold insertRow
    rw [ht]
    exact onInsert_isSome hlen hown fun t' ht' a ha =>
      hm.free (hdev t' ht') (hpeer t' ht') ha (hown a ha)

/-! ## A release and a deletion -/

/-- A row that gives its address up. -/
theorem releaseDeviceIp_eq : db.releaseDeviceIp n d =
    match db.devices.find (isDevice n d) with
    | none => some db
    | some old => db.updateRow true old { old with ip := none } := by
  unfold releaseDeviceIp updateDevices
  rw [Table.filter_eq_find isDevice_clash]
  cases db.devices.find (isDevice n d) with
  | none => rfl
  | some old =>
    exact bind_pure _

theorem deleteDevice_eq : db.deleteDevice n d =
    match db.devices.find (isDevice n d) with
    | none => db
    | some old => db.deleteRow old := by
  unfold deleteDevice deleteDevices
  rw [Table.filter_eq_find isDevice_clash]
  cases db.devices.find (isDevice n d) <;> rfl

/-- A release is always accepted. -/
theorem release_isSome (db : Database) (n d : String) : ∃ db', db.releaseDeviceIp n d = some db' ∧
    ∀ n' d', db'.addressOf n' d' = if n' = n ∧ d' = d then none else db.addressOf n' d' := by
  rw [releaseDeviceIp_eq]
  cases hf : db.devices.find (isDevice n d) with
  | none =>
    refine ⟨db, rfl, fun n' d' => ?_⟩
    split
    · rename_i h
      rw [h.1, h.2, addressOf, hf]
      rfl
    · rfl
  | some old =>
    obtain ⟨ho, hn, hd⟩ := find_device.mp hf
    -- The row keeps its key and needs no allocation.
    have hsave : db.saveOrUpdateDevice { old with ip := none } =
        db.updateRow true old { old with ip := none } := by
      unfold saveOrUpdateDevice
      rw [hn, hd, hf]
    have hsome : (db.updateRow true old { old with ip := none }).isSome := by
      unfold updateRow
      have hrep : (db.devices.replace (· == old) { old with ip := none }).isSome :=
        replace_isSome rfl rfl
      obtain ⟨t, ht⟩ := Option.isSome_iff_exists.mp hrep
      rw [ht]
      rfl
    obtain ⟨db', h'⟩ := Option.isSome_iff_exists.mp hsome
    refine ⟨db', h', fun n' d' => ?_⟩
    have := addressOf_save (hsave.trans h') n' d'
    rwa [hn, hd] at this

theorem addressOf_delete (n d n' d' : String) : (db.deleteDevice n d).addressOf n' d' =
    if n' = n ∧ d' = d then none else db.addressOf n' d' := by
  refine addressOf_of_rows none nofun fun x => ?_
  rw [deleteDevice_eq]
  cases hf : db.devices.find (isDevice n d) with
  | none =>
    simp only [reduceCtorEq, or_false]
    exact ⟨fun hx => ⟨hx, Table.find_eq_none.mp hf x hx⟩, And.left⟩
  | some old =>
    obtain ⟨ho, hn, hd⟩ := find_device.mp hf
    simp only [reduceCtorEq, or_false]
    refine Table.mem_delete.trans (and_congr_right fun hx => ?_)
    rw [beq_eq_false_iff_ne]
    exact ne_iff_isDevice ho hn hd hx

/-! ## The rows of the peers -/

theorem peerAt_onInsert (h : db.onInsert r = some db') {t : String} :
    db'.PeerAt n t ↔ db.PeerAt n t := by
  unfold PeerAt
  simp only [(onInsert_some h).2]
  refine exists_congr fun a => and_congr_left fun ⟨hw, _⟩ => or_iff_left fun ha => ?_
  rw [(allocation_eq_some.mp ha).2.2.1] at hw
  cases hw

theorem peerAt_onDelete {t : String} : (db.onDelete old).PeerAt n t ↔ db.PeerAt n t := by
  unfold PeerAt
  simp only [mem_onDelete]
  refine exists_congr fun a => and_congr_left fun ⟨hw, _⟩ => and_iff_left ?_
  refine Bool.eq_false_iff.mpr fun h => ?_
  rw [(IpAllocation.isOwner_iff.mp h).2.1] at hw
  cases hw

theorem peerAt_updateRow (h : db.updateRow true old r = some db') {t : String} :
    db'.PeerAt n t ↔ db.PeerAt n t := by
  obtain ⟨devices, -, h⟩ := Option.bind_eq_some_iff.mp h
  exact (peerAt_onInsert h).trans peerAt_onDelete

theorem peerAt_save (h : db.saveOrUpdateDevice r = some db') {t : String} :
    db'.PeerAt n t ↔ db.PeerAt n t := by
  unfold saveOrUpdateDevice at h
  split at h
  · exact peerAt_updateRow h
  · obtain ⟨devices, -, h⟩ := Option.bind_eq_some_iff.mp h
    exact peerAt_onInsert h

theorem peerAt_release (h : db.releaseDeviceIp n d = some db') {m t : String} :
    db'.PeerAt m t ↔ db.PeerAt m t := by
  rw [releaseDeviceIp_eq] at h
  split at h
  · cases h
    rfl
  · exact peerAt_updateRow h

theorem peerAt_delete {m t : String} : (db.deleteDevice n d).PeerAt m t ↔ db.PeerAt m t := by
  rw [deleteDevice_eq]
  split
  · rfl
  · exact peerAt_onDelete

/-! ## Loading -/

variable {t : String}

theorem find_loadAllDevices : (db.loadAllDevices n).find? (·.deviceId == d) =
    db.devices.find (isDevice n d) := by
  unfold loadAllDevices Table.find isDevice
  rw [List.find?_filter]
  congr 1
  funext r
  rw [Bool.eq_iff_iff]
  simp

/-- The allocation of a device with an address. -/
theorem Mirrors.allocation (hm : db.Mirrors) (h : db.addressOf n d = some t) :
    (⟨n, t, .vntDevice, d⟩ : IpAllocation) ∈ db.allocations.rows := by
  obtain ⟨r, hr, hn, hd, ht⟩ := addressOf_eq_some.mp h
  exact (hm _ rfl).mpr ⟨r, hr, allocation_eq_some.mpr ⟨hn, ht, rfl, hd⟩⟩

theorem eq_of_isAt {a b : IpAllocation} (ha : a ∈ db.allocations.rows)
    (hb : b ∈ db.allocations.rows) (hn : a.networkCode = b.networkCode) (hip : a.ip = b.ip) : a = b :=
  db.allocations.eq_of_clash ha hb
    (Bool.or_eq_true_iff.mpr (.inr (IpAllocation.isAt_iff.mpr ⟨hn, hip⟩)))

/-- No two devices of a network have one address. -/
theorem Mirrors.device_unique (hm : db.Mirrors) {k : String} (h : db.addressOf n d = some t)
    (hk : db.addressOf n k = some t) : k = d :=
  congrArg IpAllocation.ownerId (eq_of_isAt (hm.allocation hk) (hm.allocation h) rfl rfl)

/-- A device's address is no peer's. -/
theorem Mirrors.not_peerAt (hm : db.Mirrors) (h : db.addressOf n d = some t) : ¬ db.PeerAt n t := by
  rintro ⟨a, ha, hw, hn, hip⟩
  rw [eq_of_isAt ha (hm.allocation h) hn hip] at hw
  cases hw

theorem ids_loadAllDevices :
    (db.loadAllDevices n).Pairwise fun r r' => r.deviceId ≠ r'.deviceId := by
  refine List.Pairwise.imp_of_mem (fun {r r'} hr hr' h hd => ?_) (db.devices.valid.2.filter _)
  have hn : r.networkCode = n := by simpa using (List.mem_filter.mp hr).2
  have hn' : r'.networkCode = n := by simpa using (List.mem_filter.mp hr').2
  rw [devices_clash.mpr ⟨hn.trans hn'.symm, hd⟩] at h
  cases h

/-- The rows that a network is loaded from have distinct ids and addresses. -/
theorem Mirrors.distinctDevices (hm : db.Mirrors) : DistinctDevices (db.loadAllDevices n) := by
  refine List.Pairwise.imp_of_mem (fun {r r'} hr hr' h => ⟨h, fun t ht ht' => h ?_⟩)
    ids_loadAllDevices
  have row : ∀ x ∈ db.loadAllDevices n, x.ip = some t → db.addressOf n x.deviceId = some t := by
    intro x hx hxt
    obtain ⟨hx, hn⟩ := List.mem_filter.mp hx
    exact addressOf_eq_some.mpr ⟨x, hx, by simpa using hn, rfl, hxt⟩
  exact hm.device_unique (row r' hr' ht') (row r hr ht)

theorem mem_loadWireguardPeerIpAllocations {l : List WireGuardPeerIpAllocation}
    (h : db.loadWireguardPeerIpAllocations n = some l) {ip : Ipv4Addr} :
    (∃ p, ⟨p, ip⟩ ∈ l) ↔ db.PeerAt n ip.toText := by
  constructor
  · rintro ⟨p, hp⟩
    obtain ⟨a, ha, hf⟩ := exists_of_mem_mapM h hp
    obtain ⟨ip', hip, he⟩ := Option.map_eq_some_iff.mp hf
    cases he
    obtain ⟨ha, hk⟩ := List.mem_filter.mp ha
    simp only [Bool.and_eq_true, beq_iff_eq] at hk
    exact ⟨a, ha, hk.2, hk.1, Ipv4Addr.parse_eq_some_iff.mp hip⟩
  · rintro ⟨a, ha, hw, hn, hip⟩
    obtain ⟨b, hb, hf⟩ := (exists_of_forall₂ (mapM_eq_some.mp h)).1 a
      (List.mem_filter.mpr ⟨ha, by simp [hn, hw]⟩)
    rw [hip, Ipv4Addr.parse_toText] at hf
    cases hf
    exact ⟨_, hb⟩

end Database

end Vntc
