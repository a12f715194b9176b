import Vntc.Server.Run

/-!
# Client lists

A client keeps a list of the other clients of its network, with the version of the server's state
that it was built from. It asks for the changes since that version; the server answers with
nothing, with the complete list, or with the devices that are newer (`changed_client_simple_list`),
and the client replaces its list or merges the devices into it (`update_client_simple_list` of the
client library).

A device that was removed, or that moved to another address, is in no answer of the last kind. So a
client with a list that was complete at its version (`Synced`) has the complete list after the next
answer exactly if the answer is complete or no listed address was given up (`SyncSafe`).
-/

namespace Vntc

open Lib NetworkState NetworkStateInner

inductive NodeType
  | vnt
  | wireguard
  deriving DecidableEq

/-- A client as others are told about it. The server sends no names; a client may know one. -/
structure ClientSimpleInfo where
  ip : Ipv4Addr
  online : Bool
  nodeType : NodeType
  name : String
  deriving DecidableEq

/-- What the comparison of two lists looks at. -/
def ClientSimpleInfo.kind (i : ClientSimpleInfo) : Bool × NodeType := (i.online, i.nodeType)

structure ClientSimpleInfoList where
  dataVersion : Nat
  list : List ClientSimpleInfo
  isAll : Bool

/-! ## The server's answer -/

namespace NetworkState

variable (st : NetworkState)

/-- The devices with an address other than `excludeIp` that satisfy `p`. -/
def deviceInfos (excludeIp : Ipv4Addr) (p : DeviceEntry → Bool) : List ClientSimpleInfo :=
  st.leaseState.deviceMap.values.filterMap fun v =>
    match v.ip with
    | some ip => if ip ≠ excludeIp ∧ p v = true then some ⟨ip, v.isConnected, .vnt, ""⟩ else none
    | none => none

/-- The WireGuard peers that are online here. -/
def wireguardInfos : List ClientSimpleInfo :=
  st.onlineEndpoints.entries.filterMap fun e =>
    if e.2.isWireGuard then some ⟨e.1, true, .wireguard, ""⟩ else none

/-- The addresses that other servers report. -/
def remoteIps : List Ipv4Addr :=
  ((HashMap.values st.leaseState.remoteWireguardSources).flatMap AList.keys).dedup

/-- The complete list. -/
def completeList (excludeIp : Ipv4Addr) (includeWireguard : Bool) : List ClientSimpleInfo :=
  let devices := st.deviceInfos excludeIp fun _ => true
  if includeWireguard then
    let list := devices ++ st.wireguardInfos
    let localIps := list.map (·.ip)
    list ++ (st.remoteIps.filter fun ip => decide (ip ≠ excludeIp) && !localIps.contains ip).map
      (⟨·, true, .wireguard, ""⟩)
  else devices

/-- The changes since `dataVersion`. -/
def changedClientSimpleList (excludeIp : Ipv4Addr) (dataVersion : Nat) (includeWireguard : Bool) :
    Option ClientSimpleInfoList :=
  if dataVersion = st.leaseState.dataVersion then none
  else if dataVersion > st.leaseState.dataVersion ∨
      (includeWireguard = true ∧ dataVersion < st.leaseState.lastWireguardChangeVersion) then
    some ⟨st.leaseState.dataVersion, st.completeList excludeIp includeWireguard, true⟩
  else
    some ⟨st.leaseState.dataVersion,
      st.deviceInfos excludeIp fun v => decide (dataVersion < v.dataVersion), false⟩

end NetworkState

/-! ## The client's list -/

/-- What a client knows from one server. -/
structure ServerNodeInfo where
  dataVersion : Nat
  clientMap : HashMap Ipv4Addr ClientSimpleInfo

namespace ServerNodeInfo

variable (n : ServerNodeInfo)

/-- Keep a name that the client knows. -/
def named (info : ClientSimpleInfo) : ClientSimpleInfo :=
  if info.name = "" then
    match n.clientMap.lookup info.ip with
    | some existing => { info with name := existing.name }
    | none => info
  else info

def updateClientSimpleList (selfIp : Ipv4Addr) (l : ClientSimpleInfoList) : ServerNodeInfo :=
  let map := HashMap.ofPairs
    ((l.list.filter fun v => v.ip ≠ selfIp).map fun info => (info.ip, n.named info))
  { dataVersion := l.dataVersion
    clientMap := if l.isAll then map else HashMap.extend n.clientMap map }

/-- Ask for the changes and apply the answer. -/
def sync (st : NetworkState) (selfIp : Ipv4Addr) (includeWireguard : Bool) : ServerNodeInfo :=
  match st.changedClientSimpleList selfIp n.dataVersion includeWireguard with
  | none => n
  | some l => n.updateClientSimpleList selfIp l

/-- The list as a function from addresses. -/
def view (a : Ipv4Addr) : Option (Bool × NodeType) :=
  (n.clientMap.lookup a).map ClientSimpleInfo.kind

end ServerNodeInfo

/-- The map that a client builds from a list. -/
def listView (selfIp : Ipv4Addr) (l : List ClientSimpleInfo) (a : Ipv4Addr) :
    Option (Bool × NodeType) :=
  (ServerNodeInfo.updateClientSimpleList ⟨0, ∅⟩ selfIp ⟨0, l, true⟩).view a

/-- The map of the complete list. -/
def NetworkState.completeMap (st : NetworkState) (selfIp : Ipv4Addr) (includeWireguard : Bool) :
    Ipv4Addr → Option (Bool × NodeType) :=
  listView selfIp (st.completeList selfIp includeWireguard)

/-! ## Lists as maps -/

namespace ServerNodeInfo

variable {n : ServerNodeInfo} {selfIp a : Ipv4Addr} {l : ClientSimpleInfoList}

theorem kind_named (info : ClientSimpleInfo) : (n.named info).kind = info.kind := by
  unfold named
  split
  · split <;> rfl
  · rfl

/-- What the map of an answer has at an address. -/
theorem lookup_answer {selfIp : Ipv4Addr} {list : List ClientSimpleInfo} {a : Ipv4Addr}
    {x : Bool × NodeType} (hc : a ≠ selfIp → ∀ i ∈ list, i.ip = a → i.kind = x) :
    ((HashMap.ofPairs ((list.filter fun v => v.ip ≠ selfIp).map
      fun info => (info.ip, n.named info))).lookup a).map ClientSimpleInfo.kind =
      if a ≠ selfIp ∧ ∃ i ∈ list, i.ip = a then some x else none := by
  generalize hl : (list.filter fun v => v.ip ≠ selfIp).map
    (fun info => (info.ip, n.named info)) = pairs
  have hmem : ∀ b v, (b, v) ∈ pairs ↔
      ∃ i ∈ list, i.ip ≠ selfIp ∧ i.ip = b ∧ n.named i = v := by
    intro b v
    rw [← hl, List.mem_map]
    constructor
    · rintro ⟨i, hi, he⟩
      cases he
      rw [List.mem_filter, decide_eq_true_eq] at hi
      exact ⟨i, hi.1, hi.2, rfl, rfl⟩
    · rintro ⟨i, hi, hs, rfl, rfl⟩
      exact ⟨i, List.mem_filter.mpr ⟨hi, by simpa using hs⟩, rfl⟩
  split
  · rename_i h
    obtain ⟨hs, i, hi, rfl⟩ := h
    obtain ⟨v, hv⟩ := Option.isSome_iff_exists.mp
      (HashMap.isSome_lookup_ofPairs ((hmem i.ip (n.named i)).mpr ⟨i, hi, hs, rfl, rfl⟩))
    obtain ⟨j, hj, -, hji, rfl⟩ := (hmem _ _).mp (HashMap.mem_of_lookup_ofPairs hv)
    rw [hv, Option.map_some, kind_named, hc hs j hj hji]
  · rename_i h
    cases hv : (HashMap.ofPairs pairs).lookup a with
    | none => rfl
    | some v =>
      obtain ⟨j, hj, hs, hji, -⟩ := (hmem _ _).mp (HashMap.mem_of_lookup_ofPairs hv)
      exact (h ⟨hji ▸ hs, j, hj, hji⟩).elim

end ServerNodeInfo

/-- The map of a list whose entries for an address agree. -/
theorem listView_eq {selfIp a : Ipv4Addr} {l : List ClientSimpleInfo} {x : Bool × NodeType}
    (hc : a ≠ selfIp → ∀ i ∈ l, i.ip = a → i.kind = x) :
    listView selfIp l a = if a ≠ selfIp ∧ ∃ i ∈ l, i.ip = a then some x else none :=
  ServerNodeInfo.lookup_answer hc

namespace ServerNodeInfo

variable {n : ServerNodeInfo} {selfIp a : Ipv4Addr} {x : Bool × NodeType}

variable {list : List ClientSimpleInfo} {version : Nat}

/-- A complete answer replaces the list. -/
theorem view_update_all (hc : a ≠ selfIp → ∀ i ∈ list, i.ip = a → i.kind = x) :
    (n.updateClientSimpleList selfIp ⟨version, list, true⟩).view a = listView selfIp list a := by
  rw [listView_eq hc]
  exact lookup_answer hc

/-- A partial answer goes over the list. -/
theorem view_update_some (hc : a ≠ selfIp → ∀ i ∈ list, i.ip = a → i.kind = x) :
    (n.updateClientSimpleList selfIp ⟨version, list, false⟩).view a =
      if a ≠ selfIp ∧ ∃ i ∈ list, i.ip = a then some x else n.view a := by
  have h := @lookup_answer n selfIp _ _ _ hc
  simp only [view, updateClientSimpleList, Bool.false_eq_true, if_false, HashMap.lookup_extend]
  split
  · rename_i hp
    rw [if_pos hp] at h
    obtain ⟨v, hv, hk⟩ := Option.map_eq_some_iff.mp h
    rw [hv, Option.some_or, Option.map_some, hk]
  · rename_i hp
    rw [if_neg hp, Option.map_eq_none_iff] at h
    rw [h, Option.none_or]

end ServerNodeInfo

/-! ## The complete list -/

namespace NetworkState

variable {st : NetworkState} {selfIp a : Ipv4Addr} {includeWireguard : Bool}

/-- A WireGuard peer is online at the address, here or at another server. -/
def WireguardListed (st : NetworkState) (a : Ipv4Addr) : Prop :=
  st.isWireguardEndpoint a = true ∨ a ∈ st.remoteIps

variable {i : ClientSimpleInfo} {p : DeviceEntry → Bool} {d : String} {e : DeviceEntry}

theorem mem_deviceInfos :
    i ∈ st.deviceInfos selfIp p ↔
      ∃ d e, st.leaseState.deviceMap.lookup d = some e ∧ e.ip = some i.ip ∧ i.ip ≠ selfIp ∧
        p e = true ∧ i = ⟨i.ip, e.isConnected, .vnt, ""⟩ := by
  unfold deviceInfos
  rw [List.mem_filterMap]
  constructor
  · rintro ⟨e, he, hi⟩
    cases hip : e.ip with
    | none => rw [hip] at hi; cases hi
    | some ip =>
      rw [hip] at hi
      simp only at hi
      split at hi
      · rename_i hc
        cases hi
        exact ⟨e.deviceId, e, DeviceMap.mem_values.mp he, hip, hc.1, hc.2, rfl⟩
      · cases hi
  · rintro ⟨d, e, he, hip, hs, hp, hi⟩
    refine ⟨e, DeviceMap.mem_values.mpr ?_, ?_⟩
    · rw [DeviceMap.deviceId_of_lookup he]; exact he
    · rw [hip]
      simp only [hs, hp, ne_eq, not_false_eq_true, and_self, if_true]
      rw [← hi]

theorem deviceInfo_mem (ha : a ≠ selfIp)
    (he : st.leaseState.deviceMap.lookup d = some e) (hip : e.ip = some a) (hp : p e = true) :
    (⟨a, e.isConnected, .vnt, ""⟩ : ClientSimpleInfo) ∈ st.deviceInfos selfIp p :=
  mem_deviceInfos.mpr ⟨d, e, he, hip, ha, hp, rfl⟩

theorem mem_wireguardInfos :
    i ∈ st.wireguardInfos ↔
      st.isWireguardEndpoint i.ip = true ∧ i = ⟨i.ip, true, .wireguard, ""⟩ := by
  unfold wireguardInfos
  rw [List.mem_filterMap]
  constructor
  · rintro ⟨⟨k, e⟩, he, hi⟩
    split at hi
    · rename_i hw
      cases hi
      refine ⟨?_, rfl⟩
      unfold isWireguardEndpoint
      rw [HashMap.mem_entries.mp he]
      exact hw
    · cases hi
  · rintro ⟨hw, hi⟩
    obtain ⟨p, c, hp⟩ := isWireguardEndpoint_iff.mp hw
    exact ⟨⟨i.ip, .wireGuard p c⟩, HashMap.mem_entries.mpr hp, by
      simp only [OnlineEndpoint.isWireGuard, if_true]; rw [← hi]⟩

/-- What the complete list has at an address: its devices, and its WireGuard peers if no device is
there. -/
theorem mem_completeList :
    i ∈ st.completeList selfIp includeWireguard ↔ i ∈ st.deviceInfos selfIp (fun _ => true) ∨
      includeWireguard = true ∧ i = ⟨i.ip, true, .wireguard, ""⟩ ∧
        (st.isWireguardEndpoint i.ip = true ∨ i.ip ∈ st.remoteIps ∧ i.ip ≠ selfIp ∧
            (∀ j ∈ st.deviceInfos selfIp (fun _ => true), j.ip ≠ i.ip) ∧
            ¬ st.isWireguardEndpoint i.ip = true) := by
  cases includeWireguard with
  | false => simp [completeList]
  | true =>
    simp only [completeList, if_true, List.mem_append, List.mem_map, List.mem_filter,
      Bool.and_eq_true, Bool.not_eq_true', ← Bool.not_eq_true, List.contains_iff_mem,
      decide_eq_true_eq, true_and, mem_wireguardInfos]
    constructor
    · rintro ((h | ⟨hw, hi⟩) | ⟨b, ⟨hb, hs, hn⟩, rfl⟩)
      · exact .inl h
      · exact .inr ⟨hi, .inl hw⟩
      · refine .inr ⟨rfl, .inr ⟨hb, hs, fun j hj e => hn ⟨j, .inl hj, e⟩, fun hw => ?_⟩⟩
        exact hn ⟨⟨b, true, .wireguard, ""⟩, .inr ⟨hw, rfl⟩, rfl⟩
    · rintro (h | ⟨hi, hw | ⟨hb, hs, hd, hw⟩⟩)
      · exact .inl (.inl h)
      · exact .inl (.inr ⟨hw, hi⟩)
      · refine .inr ⟨i.ip, ⟨hb, hs, ?_⟩, hi.symm⟩
        rintro ⟨j, hj | ⟨hjw, -⟩, e⟩
        · exact hd j hj e
        · exact hw (e ▸ hjw)

/-- The devices of an address agree: there is one at most. -/
theorem kind_of_deviceInfos (h : NetInv st)
    (he : st.leaseState.deviceMap.lookup d = some e) (hip : e.ip = some a)
    (hi : i ∈ st.deviceInfos selfIp p) (ha : i.ip = a) :
    p e = true ∧ i.kind = (e.isConnected, .vnt) := by
  obtain ⟨d', e', he', hip', -, hp, hi⟩ := mem_deviceInfos.mp hi
  have hdd : d' = d := h.lease.unique a d' d
    (leaseOf_eq_some.mpr ⟨e', he', ha ▸ hip'⟩)
    (leaseOf_eq_some.mpr ⟨e, he, hip⟩)
  rw [hdd, he] at he'
  cases he'
  exact ⟨hp, by rw [hi]; rfl⟩

theorem completeMap_self : st.completeMap selfIp includeWireguard selfIp = none := by
  rw [completeMap, listView_eq (x := (true, .vnt)) (fun h => (h rfl).elim)]
  exact if_neg fun h => h.1 rfl

/-- The entries of the complete list for a device's address are the device's. -/
theorem completeList_kind_device (h : NetInv st) (ha : a ≠ selfIp)
    (he : st.leaseState.deviceMap.lookup d = some e) (hip : e.ip = some a) :
    ∀ i ∈ st.completeList selfIp includeWireguard, i.ip = a → i.kind = (e.isConnected, .vnt) := by
  intro i hi hia
  rcases mem_completeList.mp hi with hi | ⟨-, -, hw | ⟨-, -, hd, -⟩⟩
  · exact (kind_of_deviceInfos h he hip hi hia).2
  · exact (h.peers a (hia ▸ hw) d (leaseOf_eq_some.mpr ⟨e, he, hip⟩)).elim
  · exact (hd _ (deviceInfo_mem ha he hip rfl) hia.symm).elim

/-- The entries of the complete list for any other address are WireGuard peers. -/
theorem completeList_kind_other (hno : ∀ d, st.leaseState.leaseOf d ≠ some a) :
    ∀ i ∈ st.completeList selfIp includeWireguard, i.ip = a → i.kind = (true, .wireguard) := by
  intro i hi hia
  rcases mem_completeList.mp hi with hi | ⟨-, hi, -⟩
  · obtain ⟨d, e, he, hip, -⟩ := mem_deviceInfos.mp hi
    exact (hno d (leaseOf_eq_some.mpr ⟨e, he, hia ▸ hip⟩)).elim
  · rw [hi]; rfl

/-- A device is in the complete list as it is. -/
theorem completeMap_device (h : NetInv st) (ha : a ≠ selfIp)
    (he : st.leaseState.deviceMap.lookup d = some e) (hip : e.ip = some a) :
    st.completeMap selfIp includeWireguard a = some (e.isConnected, .vnt) := by
  rw [completeMap, listView_eq fun _ => completeList_kind_device h ha he hip]
  exact if_pos ⟨ha, _, mem_completeList.mpr (.inl (deviceInfo_mem ha he hip rfl)), rfl⟩

/-- An address without a device is in the complete list if a WireGuard peer is there. -/
theorem completeMap_other (hno : ∀ d, st.leaseState.leaseOf d ≠ some a) (ha : a ≠ selfIp)
    (x : Bool × NodeType) :
    st.completeMap selfIp includeWireguard a = some x ↔
      includeWireguard = true ∧ st.WireguardListed a ∧ x = (true, .wireguard) := by
  have hdev : ∀ p, ∀ i ∈ st.deviceInfos selfIp p, i.ip ≠ a := by
    intro p i hi hia
    obtain ⟨d, e, he, hip, -⟩ := mem_deviceInfos.mp hi
    exact hno d (leaseOf_eq_some.mpr ⟨e, he, hia ▸ hip⟩)
  have hlist : (∃ i ∈ st.completeList selfIp includeWireguard, i.ip = a) ↔
      includeWireguard = true ∧ st.WireguardListed a := by
    constructor
    · rintro ⟨i, hi, rfl⟩
      rcases mem_completeList.mp hi with hi | ⟨hw, -, hw' | ⟨hr, -⟩⟩
      · exact (hdev _ i hi rfl).elim
      · exact ⟨hw, .inl hw'⟩
      · exact ⟨hw, .inr hr⟩
    · rintro ⟨hw, hl⟩
      refine ⟨⟨a, true, .wireguard, ""⟩, mem_completeList.mpr (.inr ⟨hw, rfl, ?_⟩), rfl⟩
      by_cases he : st.isWireguardEndpoint a = true
      · exact .inl he
      · exact .inr ⟨hl.resolve_left he, ha, hdev _, he⟩
  rw [completeMap, listView_eq fun _ => completeList_kind_other hno]
  split
  · rename_i hc
    rw [hlist] at hc
    rw [Option.some.injEq]
    exact ⟨fun hx => ⟨hc.2.1, hc.2.2, hx.symm⟩, fun hx => hx.2.2.symm⟩
  · rename_i hc
    rw [hlist] at hc
    exact iff_of_false (by simp) fun hx => hc ⟨ha, hx.1, hx.2.1⟩

/-- The client's map after a complete answer. -/
theorem view_complete (h : NetInv st) (n : ServerNodeInfo) (version : Nat) (a : Ipv4Addr) :
    (n.updateClientSimpleList selfIp
      ⟨version, st.completeList selfIp includeWireguard, true⟩).view a =
      st.completeMap selfIp includeWireguard a := by
  by_cases hd : ∃ d, st.leaseState.leaseOf d = some a
  · obtain ⟨d, hd⟩ := hd
    obtain ⟨e, he, hip⟩ := leaseOf_eq_some.mp hd
    exact ServerNodeInfo.view_update_all fun ha => completeList_kind_device h ha he hip
  · exact ServerNodeInfo.view_update_all fun _ =>
      completeList_kind_other fun d h => hd ⟨d, h⟩

variable {v version : Nat}

/-- The client's map after a partial answer, at a device's address and elsewhere. -/
theorem view_partial_device (h : NetInv st) (n : ServerNodeInfo) (ha : a ≠ selfIp)
     (he : st.leaseState.deviceMap.lookup d = some e) (hip : e.ip = some a) :
    (n.updateClientSimpleList selfIp
      ⟨version, st.deviceInfos selfIp fun w => decide (v < w.dataVersion), false⟩).view a =
      if v < e.dataVersion then some (e.isConnected, .vnt) else n.view a := by
  rw [ServerNodeInfo.view_update_some fun _ i hi hia => (kind_of_deviceInfos h he hip hi hia).2]
  by_cases hv : v < e.dataVersion
  · rw [if_pos hv, if_pos]
    exact ⟨ha, _, deviceInfo_mem ha he hip (by simpa using hv), rfl⟩
  · rw [if_neg hv, if_neg]
    rintro ⟨-, i, hi, hia⟩
    exact hv (by simpa using (kind_of_deviceInfos h he hip hi hia).1)

theorem view_partial_other (n : ServerNodeInfo) (hno : ∀ d, st.leaseState.leaseOf d ≠ some a) :
    (n.updateClientSimpleList selfIp
      ⟨version, st.deviceInfos selfIp fun w => decide (v < w.dataVersion), false⟩).view a =
      n.view a := by
  have hdev : ∀ i ∈ st.deviceInfos selfIp fun w => decide (v < w.dataVersion), i.ip ≠ a := by
    intro i hi hia
    obtain ⟨d, e, he, hip, -⟩ := mem_deviceInfos.mp hi
    exact hno d (leaseOf_eq_some.mpr ⟨e, he, hia ▸ hip⟩)
  rw [ServerNodeInfo.view_update_some (x := (true, .vnt)) fun _ i hi hia => (hdev i hi hia).elim]
  exact if_neg fun ⟨_, i, hi, hia⟩ => hdev i hi hia

end NetworkState

/-! ## Synchronisation -/

section Sync

variable (selfIp : Ipv4Addr) (includeWireguard : Bool)

/-- Every listed address that is no device's any more is still a WireGuard peer's, if the answer is
not complete. -/
def SyncSafe (st : NetworkState) (n : ServerNodeInfo) : Prop :=
  n.dataVersion < st.leaseState.dataVersion →
  (includeWireguard = true → st.leaseState.lastWireguardChangeVersion ≤ n.dataVersion) →
  ∀ a x, n.view a = some x → (∀ d, st.leaseState.leaseOf d ≠ some a) →
    includeWireguard = true ∧ st.WireguardListed a ∧ x = (true, .wireguard)

/-- The list was complete at its version. -/
structure Synced (st : NetworkState) (n : ServerNodeInfo) : Prop where
  version : n.dataVersion ≤ st.leaseState.dataVersion
  current : n.dataVersion = st.leaseState.dataVersion →
    ∀ a, n.view a = st.completeMap selfIp includeWireguard a
  /-- A device that did not change since is in the list as it is. -/
  devices : ∀ d e a, st.leaseState.deviceMap.lookup d = some e → e.ip = some a → a ≠ selfIp →
    e.dataVersion ≤ n.dataVersion → n.view a = some (e.isConnected, .vnt)
  /-- If the WireGuard peers did not change since, they are in the list. -/
  wireguard : includeWireguard = true →
    st.leaseState.lastWireguardChangeVersion ≤ n.dataVersion →
    ∀ a, a ≠ selfIp → st.WireguardListed a → n.view a ≠ none
  self : n.view selfIp = none

variable {selfIp includeWireguard} {st st' : NetworkState} {n : ServerNodeInfo}

/-- A complete list is complete. -/
theorem Synced.of_complete (h : st.NetInv) (hv : n.dataVersion = st.leaseState.dataVersion)
    (hc : ∀ a, n.view a = st.completeMap selfIp includeWireguard a) :
    Synced selfIp includeWireguard st n where
  version := hv.le
  current _ := hc
  devices d e a he hip ha _ := (hc a).trans (completeMap_device h ha he hip)
  wireguard hw _ a ha hl := by
    rw [hc a]
    by_cases hd : ∃ d, st.leaseState.leaseOf d = some a
    · obtain ⟨d, hd⟩ := hd
      obtain ⟨e, he, hip⟩ := leaseOf_eq_some.mp hd
      rw [completeMap_device h ha he hip]
      simp
    · rw [(completeMap_other (fun d hd' => hd ⟨d, hd'⟩) ha (true, .wireguard)).mpr
        ⟨hw, hl, rfl⟩]
      simp
  self := (hc selfIp).trans completeMap_self

theorem remoteIps_eq
    (h : st'.leaseState.remoteWireguardSources = st.leaseState.remoteWireguardSources) :
    st'.remoteIps = st.remoteIps := by
  simp only [remoteIps, h]

/-- The complete list depends on the devices, the endpoints and the reported addresses only. -/
theorem completeMap_congr (hi : st.NetInv) (hi' : st'.NetInv)
    (hd : st'.leaseState.deviceMap = st.leaseState.deviceMap)
    (hr : st'.leaseState.remoteWireguardSources = st.leaseState.remoteWireguardSources)
    (hw : ∀ a, st'.isWireguardEndpoint a = st.isWireguardEndpoint a) (a : Ipv4Addr) :
    st'.completeMap selfIp includeWireguard a = st.completeMap selfIp includeWireguard a := by
  by_cases ha : a = selfIp
  · rw [ha, completeMap_self, completeMap_self]
  have hl : ∀ d, st'.leaseState.leaseOf d = st.leaseState.leaseOf d := fun d => by
    simp only [leaseOf, hd]
  by_cases hdev : ∃ d, st.leaseState.leaseOf d = some a
  · obtain ⟨d, hdev⟩ := hdev
    obtain ⟨e, he, hip⟩ := leaseOf_eq_some.mp hdev
    rw [completeMap_device hi ha he hip,
      completeMap_device hi' ha (by rw [hd]; exact he) hip]
  · have hno : ∀ d, st.leaseState.leaseOf d ≠ some a := fun d h => hdev ⟨d, h⟩
    refine Option.ext fun x => ?_
    rw [completeMap_other hno ha,
      completeMap_other (fun d => by rw [hl]; exact hno d) ha,
      NetworkState.WireguardListed, NetworkState.WireguardListed, hw, remoteIps_eq hr]

/-- A method of the network keeps the list what it was. -/
theorem Synced.server (hi : st.NetInv) (hi' : st'.NetInv) (hs : st.SyncStep st')
    (h : Synced selfIp includeWireguard st n) : Synced selfIp includeWireguard st' n where
  version := le_trans h.version hs.version.le
  current hv := by
    intro a
    have hle := hs.version.le
    have hv0 : n.dataVersion = st.leaseState.dataVersion := le_antisymm h.version (by omega)
    have hidle := hs.idle (by omega)
    have hd : st'.leaseState.deviceMap = st.leaseState.deviceMap := by
      cases hs.version with
      | idle _ hd => exact hd
      | bump hv' _ => omega
    rw [h.current hv0 a, completeMap_congr hi hi' hd hidle.1 hidle.2]
  devices d e a he hip ha hv := by
    refine h.devices d e a ?_ hip ha hv
    cases hs.version with
    | idle _ hd => rw [← hd]; exact he
    | bump hv' hd =>
      refine (hd d e he).resolve_right fun hn => ?_
      have := h.version
      omega
  wireguard hw hv a ha hl := by
    rcases hs.wireguardVersion with hsame | hnew
    · obtain ⟨hr, hep⟩ := hs.wireguard hsame
      refine h.wireguard hw (hsame ▸ hv) a ha ?_
      exact hl.imp (hep a) fun hm => by rwa [remoteIps_eq hr] at hm
    · have := h.version
      omega
  self := h.self

/-- When the list is complete after the next answer. -/
theorem Synced.sync_iff (hi : st.NetInv) (h : Synced selfIp includeWireguard st n) :
    (∀ a, (n.sync st selfIp includeWireguard).view a = st.completeMap selfIp includeWireguard a) ↔
      SyncSafe includeWireguard st n := by
  unfold ServerNodeInfo.sync changedClientSimpleList
  by_cases hv : n.dataVersion = st.leaseState.dataVersion
  · rw [if_pos hv]
    exact iff_of_true (h.current hv) fun hlt => by omega
  rw [if_neg hv]
  by_cases hall : n.dataVersion > st.leaseState.dataVersion ∨
      (includeWireguard = true ∧ n.dataVersion < st.leaseState.lastWireguardChangeVersion)
  · rw [if_pos hall]
    refine iff_of_true (view_complete hi n _) fun hlt hw => ?_
    rcases hall with hgt | ⟨hinc, hlt'⟩
    · omega
    · have := hw hinc; omega
  rw [if_neg hall]
  have hlt : n.dataVersion < st.leaseState.dataVersion := by have := h.version; omega
  have hwv : includeWireguard = true →
      st.leaseState.lastWireguardChangeVersion ≤ n.dataVersion := fun hinc => by
    by_contra hc
    exact hall (.inr ⟨hinc, by omega⟩)
  constructor
  · intro hc _ _ a x hx hno
    have ha : a ≠ selfIp := fun e => by rw [e, h.self] at hx; cases hx
    refine (completeMap_other hno ha x).mp ?_
    rw [← hc a, view_partial_other n hno, hx]
  · intro hsafe a
    by_cases ha : a = selfIp
    · rw [ha, completeMap_self,
        ServerNodeInfo.view_update_some (x := (true, .vnt)) fun hne => (hne rfl).elim,
        if_neg fun hc => hc.1 rfl]
      exact h.self
    by_cases hd : ∃ d, st.leaseState.leaseOf d = some a
    · obtain ⟨d, hd⟩ := hd
      obtain ⟨e, he, hip⟩ := leaseOf_eq_some.mp hd
      rw [completeMap_device hi ha he hip,
        view_partial_device hi n ha he hip]
      split
      · rfl
      · rename_i hle
        exact h.devices d e a he hip ha (by omega)
    · have hno : ∀ d, st.leaseState.leaseOf d ≠ some a := fun d h => hd ⟨d, h⟩
      rw [view_partial_other n hno]
      cases hx : n.view a with
      | some x => exact ((completeMap_other hno ha x).mpr (hsafe hlt hwv a x hx hno)).symm
      | none =>
        cases hm : st.completeMap selfIp includeWireguard a with
        | none => rfl
        | some x =>
          obtain ⟨hinc, hl, -⟩ := (completeMap_other hno ha x).mp hm
          exact (h.wireguard hinc (hwv hinc) a ha hl hx).elim

/-! ## Runs -/

/-- The server works, or the client synchronises. -/
inductive SyncOp
  | server (op : NetworkOp)
  | sync

/-- A client of a network: it starts with the complete list of a state that the network reaches. -/
def syncSys (selfIp : Ipv4Addr) (includeWireguard : Bool) :
    Sys (NetworkState × ServerNodeInfo) SyncOp where
  init s := NetworkState.networkSys.Reach s.1 ∧ ∃ n : ServerNodeInfo,
    s.2 = n.updateClientSimpleList selfIp
      ⟨s.1.leaseState.dataVersion, s.1.completeList selfIp includeWireguard, true⟩
  step s op s' := match op with
    | .server op => s' = (s.1.apply op, s.2)
    | .sync => s' = (s.1, s.2.sync s.1 selfIp includeWireguard)

/-- The client synchronises only when it is `SyncSafe`. -/
def SyncsSafely (includeWireguard : Bool) (s : NetworkState × ServerNodeInfo) : SyncOp → Prop
  | .server _ => True
  | .sync => SyncSafe includeWireguard s.1 s.2

theorem dataVersion_sync (n : ServerNodeInfo) :
    (n.sync st selfIp includeWireguard).dataVersion = st.leaseState.dataVersion := by
  unfold ServerNodeInfo.sync changedClientSimpleList
  by_cases hv : n.dataVersion = st.leaseState.dataVersion
  · rw [if_pos hv]; exact hv
  · rw [if_neg hv]
    split <;> rename_i h
    · split at h <;> cases h
    · split at h <;> cases h <;> rfl

theorem synced_of_reachWith {s : NetworkState × ServerNodeInfo}
    (h : (syncSys selfIp includeWireguard).ReachWith (SyncsSafely includeWireguard) s)
    (hnet : s.1.net.network ≠ Ipv4Addr.broadcast) :
    s.1.NetInv ∧ Synced selfIp includeWireguard s.1 s.2 := by
  refine Sys.ReachWith.invariant (I := fun s => s.1.net.network ≠ Ipv4Addr.broadcast →
    s.1.NetInv ∧ Synced selfIp includeWireguard s.1 s.2) ?_ ?_ h hnet
  · rintro ⟨st, n⟩ ⟨hr, n0, hn0⟩ hn
    change n = n0.updateClientSimpleList selfIp
      ⟨st.leaseState.dataVersion, st.completeList selfIp includeWireguard, true⟩ at hn0
    subst hn0
    have hi := netInv_of_reach hr hn
    exact ⟨hi, .of_complete hi rfl (view_complete hi n0 _)⟩
  · rintro ⟨st, n⟩ op ⟨st', n'⟩ hI hc hst hn
    cases op with
    | server op =>
      cases hst
      have he := @NetworkState.apply_effect st op
      have hn0 : st.net.network ≠ Ipv4Addr.broadcast := by
        have := net_effect he; rw [← this]; exact hn
      obtain ⟨hi, hs⟩ := hI hn0
      have hi' := hi.effect hn0 he
      exact ⟨hi', hs.server hi hi' (he.syncStep hi)⟩
    | sync =>
      cases hst
      obtain ⟨hi, hs⟩ := hI hn
      exact ⟨hi, .of_complete hi (dataVersion_sync n) ((hs.sync_iff hi).mpr hc)⟩

/-- **When a client's list is complete after a synchronisation.** In every run of a network in which
the client synchronised safely so far, its list after the next answer is the complete one exactly if
it synchronises safely again. -/
theorem sync_complete_iff (selfIp : Ipv4Addr) (includeWireguard : Bool) (st : NetworkState)
    (n : ServerNodeInfo) (hnet : st.net.network ≠ Ipv4Addr.broadcast)
    (h : (syncSys selfIp includeWireguard).ReachWith (SyncsSafely includeWireguard) (st, n)) :
    (∀ a, (n.sync st selfIp includeWireguard).view a = st.completeMap selfIp includeWireguard a) ↔
      SyncSafe includeWireguard st n := by
  obtain ⟨hi, hs⟩ := synced_of_reachWith h hnet
  exact hs.sync_iff hi

/-- A network with one device, at `10.26.0.2`. -/
def oneDevice : NetworkState :=
  (NetworkState.newFromDb "home" defaultNet 0 none none 0).apply
    (.register (anyIpReq "laptop" none) 7 0 0)

/-- A client at `10.26.0.9` with the complete list of `oneDevice`. -/
def oneDeviceList : ServerNodeInfo :=
  ServerNodeInfo.updateClientSimpleList ⟨0, ∅⟩ (homeIp 9)
    ⟨oneDevice.leaseState.dataVersion, oneDevice.completeList (homeIp 9) false, true⟩

theorem oneDevice_init : (syncSys (homeIp 9) false).init (oneDevice, oneDeviceList) :=
  ⟨(Sys.Reach.init (S := networkSys)
    ⟨"home", defaultNet, 0, none, none, 0, List.Pairwise.nil, rfl,
      fun _ => .inl rfl⟩).next (.register (anyIpReq "laptop" none) 7 0 0) rfl,
    ⟨0, ∅⟩, rfl⟩

/-- A second device registers, and the client hears of it. -/
theorem sync_complete_iff_second_device :
    ∃ st n, (syncSys (homeIp 9) false).ReachWith (SyncsSafely false) (st, n) ∧
      st.completeMap (homeIp 9) false (homeIp 3) = some (true, .vnt) ∧
      ∀ a, (n.sync st (homeIp 9) false).view a =
        st.completeMap (homeIp 9) false a := by
  have hr : (syncSys (homeIp 9) false).ReachWith (SyncsSafely false)
      (oneDevice.apply (.register (anyIpReq "phone" none) 8 1 0),
        oneDeviceList) :=
    .step (.server _) (.init oneDevice_init) trivial rfl
  refine ⟨_, _, hr, by decide, ?_⟩
  refine (sync_complete_iff _ _ _ _ (by decide) hr).mpr fun _ _ a x hx hno => ?_
  -- The only listed address is the laptop's, which it still has.
  have hkeys : oneDeviceList.clientMap.keys = [homeIp 2] := by decide
  obtain ⟨info, hinfo, -⟩ := Option.map_eq_some_iff.mp hx
  have ha : a ∈ oneDeviceList.clientMap.keys :=
    AList.mem_keys.mp (AList.lookup_isSome.mp (by rw [hinfo]; rfl))
  rw [hkeys, List.mem_singleton] at ha
  exact absurd (by subst ha; decide) (hno "laptop")

/-- The device is removed, and the client does not hear of it. -/
theorem sync_misses_removal :
    ∃ st n, (syncSys (homeIp 9) false).Reach (st, n) ∧
      (n.sync st (homeIp 9) false).view (homeIp 2) =
        some (true, .vnt) ∧
      st.completeMap (homeIp 9) false (homeIp 2) = none := by
  have hr : (syncSys (homeIp 9) false).Reach
      (oneDevice.apply (.removeDeviceFromMemory "laptop"), oneDeviceList) :=
    (Sys.Reach.init oneDevice_init).next (.server _) rfl
  exact ⟨_, _, hr, by decide, by decide⟩

end Sync

end Vntc
