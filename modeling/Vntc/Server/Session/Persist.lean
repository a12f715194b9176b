import Vntc.Server.Db.Address
import Vntc.Server.Session.State

/-!
# Memory and database

The sessions of a network together with the rows of its devices. A method changes the memory at once
and leaves a write of the row behind, which is made later and in any order with the others:

* a registration in mode `Normal` and the end of a confirmed session save the device's record in a
  task of their own;
* a confirmation saves the record that it has read and confirms the session afterwards;
* the expiry pass releases the rows of the removed devices one after the other;
* the deletion of a device deletes its row.

A write that breaks a rule of the database is logged and has no effect.

-/

namespace Vntc

open Lib SessionState

/-- A write that is still to be made. -/
inductive Write
  | save (record : DeviceRecord)
  /-- The write of a confirmation, with the session that it confirms. -/
  | confirm (n : OpenSession) (record : DeviceRecord)
  /-- The devices that the loop of an expiry pass has not come to. -/
  | release (deviceIds : List String)
  | delete (deviceId : String)
  deriving DecidableEq

namespace Write

/-- The write is about the device's row. -/
def Touches (d : String) : Write → Prop
  | .save r => r.deviceId = d
  | .confirm _ r => r.deviceId = d
  | .release ids => d ∈ ids
  | .delete k => k = d

/-- The statement that the write runs next. -/
def exec (networkCode : String) (db : Database) : Write → Option Database
  | .save r => db.saveOrUpdateDevice r
  | .confirm _ r => db.saveOrUpdateDevice r
  | .release [] => some db
  | .release (d :: _) => db.releaseDeviceIp networkCode d
  | .delete d => some (db.deleteDevice networkCode d)

/-- What is left of the write after that. -/
def rest : Write → List Write
  | .release (_ :: d :: ids) => [.release (d :: ids)]
  | _ => []

end Write

structure Persist where
  mem : SessionState
  db : Database
  writes : List Write

inductive PersistOp
  | method (op : SessionOp)
  | run (w : Write)

namespace SessionState

variable (m : SessionState)

def leaseOf (d : String) : Option Ipv4Addr := m.st.leaseState.leaseOf d

/-- The memory after a method; a confirmation with something to write has to wait. -/
def remember : SessionOp → SessionState
  | .confirm n =>
    if n.session.registrationStatus = .pendingConfirmation ∧
        (m.entryOf n.session.deviceId).isNone then m.confirm n
    else m
  | op => m.apply op

/-- The writes that a method leaves. -/
def spawned : SessionOp → List Write
  | .register req randomId sender now =>
    match m.st.allocateIpAndGetEntry req randomId sender now with
    | .ok (_, _, _, some entry) =>
      if req.registrationMode = .normal then [.save (entry.toRecord m.st.networkCode)] else []
    | _ => []
  | .confirm n =>
    if m.live.contains n ∧ n.session.registrationStatus = .pendingConfirmation then
      match m.entryOf n.session.deviceId with
      | some entry => [.confirm n (entry.toRecord m.st.networkCode)]
      | none => []
    else []
  | .drop n now =>
    if m.live.contains n ∧ n.session.registrationStatus = .confirmed then
      match (m.st.offlineIp n.session.deviceId n.session.ip n.session.randomId now).2 with
      | some record => [.save record]
      | none => []
    else []
  | .removeExpired deviceIds =>
    if m.collected.contains deviceIds ∧ deviceIds ≠ [] then [.release deviceIds] else []
  | .deleteRemove deviceId => if m.deleting.contains deviceId then [.delete deviceId] else []
  | _ => []

/-- The session is still its device's own. -/
def IsOwn (n : OpenSession) : Prop :=
  ∃ e, m.entryOf n.session.deviceId = some e ∧ e.randomId = n.session.randomId ∧
    e.ip = some n.session.ip

/-- The pre-registration of the device is still unconfirmed. -/
def Unconfirmed (d : String) : Prop :=
  ∃ n ∈ m.live, n.session.deviceId = d ∧ n.session.registrationStatus = .pendingConfirmation ∧
    m.IsOwn n

end SessionState

namespace Persist

variable (s : Persist)

/-- The device's address in the database, as it is stored. -/
def rowOf (d : String) : Option String := s.db.addressOf s.mem.st.networkCode d

def method (op : SessionOp) : Persist :=
  { s with mem := s.mem.remember op, writes := s.mem.spawned op ++ s.writes }

def run (w : Write) : Persist :=
  if s.writes.contains w then
    let writes := w.rest ++ s.writes.erase w
    match w.exec s.mem.st.networkCode s.db, w with
    | some db, .confirm n _ => { mem := s.mem.confirm n, db, writes }
    | some db, _ => { s with db, writes }
    | none, _ => { s with writes }
  else s

def apply : PersistOp → Persist
  | .method op => s.method op
  | .run w => s.run w

/-- A network right after it was loaded from a database that the server's statements have made; the
queries of the load succeed. -/
structure Fresh : Prop where
  reach : Database.dbSys.Reach s.db
  loaded : ∃ networkCode net leaseDuration allocations now,
    s.db.loadWireguardPeerIpAllocations networkCode = some allocations ∧
    s.mem.st = .newFromDb networkCode net leaseDuration (some (s.db.loadAllDevices networkCode))
      (some allocations) now
  live : s.mem.live = []
  writes : s.writes = []

/-- Methods and writes, in any order. -/
def sys : Sys Persist PersistOp := .ofFun Fresh apply

/-- Nothing is under way. -/
structure Quiescent : Prop where
  writes : s.writes = []
  dropping : s.mem.dropping = []
  collected : s.mem.collected = []
  deleting : s.mem.deleting = []

/-- Memory and database have the same address for a device. -/
def AgreesOn (d : String) : Prop :=
  ∀ ip, s.mem.leaseOf d = some ip ↔ s.rowOf d = some ip.toText

/-- They agree on every device without an unconfirmed pre-registration. -/
def Agrees : Prop := ∀ d, ¬ s.mem.Unconfirmed d → s.AgreesOn d

/-! ## The condition -/

/-- Nothing is to be written about the device. -/
def Idle (d : String) : Prop := ∀ w ∈ s.writes, ¬ w.Touches d

/-- A registration of a device with a name, which takes a new address only when nothing is to be
written about the device, and no address that a row of another device still has. -/
structure Ordered.Register (req : RegRequestMsg) : Prop where
  named : 0 < sqlLength req.deviceId
  own : ¬ s.Idle req.deviceId →
    (∀ ip, ¬ s.mem.st.leaseState.Grants s.mem.st.net s.mem.st.gateway req ip) ∧
    ¬ s.mem.st.leaseState.Searches s.mem.st.net s.mem.st.gateway req
  others : ∀ d ip, d ≠ req.deviceId → s.rowOf d = some ip.toText → s.mem.leaseOf d ≠ some ip →
    ¬ s.mem.st.leaseState.Grants s.mem.st.net s.mem.st.gateway req ip ∧
    ¬ s.mem.st.leaseState.Searches s.mem.st.net s.mem.st.gateway req

/-- The writes of an address come before the next change of it. -/
def OrderedMethod : SessionOp → Prop
  | .register req _ _ _ => Ordered.Register s req
  | .drop n _ =>
    n.session.registrationStatus = .pendingConfirmation → s.mem.IsOwn n →
      s.Idle n.session.deviceId ∧ ∀ ip : Ipv4Addr, s.rowOf n.session.deviceId ≠ some ip.toText
  | .removeExpired deviceIds => ∀ d ∈ deviceIds, s.mem.leaseOf d ≠ none → s.Idle d
  | .deleteRemove deviceId => s.mem.leaseOf deviceId ≠ none → s.Idle deviceId
  | _ => True

/-- No address changes in memory while a write for it is still to be made, no registration takes an
address that a row of another device still has, and no pre-registration ends unconfirmed while the
device's row has an address. -/
def Ordered : PersistOp → Prop
  | .method op => s.mem.st.net.network ≠ Ipv4Addr.broadcast ∧ s.OrderedMethod op
  | .run _ => True

end Persist

/-! ## The invariant -/

/-- The record is what the memory has. -/
def SessionState.Stores (m : SessionState) (r : DeviceRecord) : Prop :=
  r.networkCode = m.st.networkCode ∧ r.ip = (m.leaseOf r.deviceId).map Ipv4Addr.toText

/-- The write brings the row to what the memory has. -/
def Write.UpToDate (m : SessionState) : Write → Prop
  | .save r => m.Stores r
  | .confirm n r => r.deviceId = n.session.deviceId ∧ m.Stores r
  | .release ids => ∀ d ∈ ids, m.leaseOf d = none
  | .delete d => m.leaseOf d = none

theorem Write.UpToDate.congr {m m' : SessionState} {w : Write} (h : w.UpToDate m)
    (hcode : m'.st.networkCode = m.st.networkCode)
    (hl : ∀ d, w.Touches d → m'.leaseOf d = m.leaseOf d) : w.UpToDate m' := by
  cases w with
  | save r => exact ⟨h.1.trans hcode.symm, by rw [hl _ rfl]; exact h.2⟩
  | confirm n r => exact ⟨h.1, h.2.1.trans hcode.symm, by rw [hl _ rfl]; exact h.2.2⟩
  | release ids => exact fun d hd => (hl d hd).trans (h d hd)
  | delete d => exact (hl d rfl).trans h

namespace Persist

variable (s : Persist)

/-- A save of the device with the address would be accepted. -/
structure MayHold (d : String) (ip : Ipv4Addr) : Prop where
  named : 0 < sqlLength d
  peer : ¬ s.db.PeerAt s.mem.st.networkCode ip.toText
  row : ∀ k, k ≠ d → s.rowOf k ≠ some ip.toText

/-- What is still to be written is what the memory has, and a device with nothing to be written has
the same address in both. -/
structure Inv : Prop where
  lease : s.mem.st.leaseState.LeaseInv s.mem.st.net s.mem.st.gateway
  mirrors : s.db.Mirrors
  held : ∀ d ip, s.mem.leaseOf d = some ip → s.MayHold d ip
  peers : ∀ ip, s.db.PeerAt s.mem.st.networkCode ip.toText →
    Usable s.mem.st.net s.mem.st.gateway ip →
    s.mem.st.leaseState.wireguardPeerIpMap.lookup ip ≠ none
  upToDate : ∀ w ∈ s.writes, w.UpToDate s.mem
  settled : ∀ d, s.Idle d → ¬ s.mem.Unconfirmed d → s.AgreesOn d

/-! ## Methods -/

/-- What a method may do: it changes the address of a device about which nothing is to be written, it
gives out addresses that may be saved, its writes say what the memory has, and a device about which
it writes nothing keeps its address or has none any more. -/
structure Changes (mem : SessionState) (new : List Write) : Prop where
  code : mem.st.networkCode = s.mem.st.networkCode
  net : mem.st.net = s.mem.st.net
  gateway : mem.st.gateway = s.mem.st.gateway
  peers : mem.st.leaseState.wireguardPeerIpMap = s.mem.st.leaseState.wireguardPeerIpMap
  lease : mem.st.leaseState.LeaseInv s.mem.st.net s.mem.st.gateway
  moved : ∀ d, mem.leaseOf d ≠ s.mem.leaseOf d → s.Idle d
  granted : ∀ d ip, mem.leaseOf d = some ip → s.mem.leaseOf d = some ip ∨ s.MayHold d ip
  upToDate : ∀ w ∈ new, w.UpToDate mem
  settled : ∀ d, (∀ w ∈ new, ¬ w.Touches d) → ¬ mem.Unconfirmed d →
    mem.leaseOf d = s.mem.leaseOf d ∧ ¬ s.mem.Unconfirmed d ∨
    mem.leaseOf d = none ∧ ∀ ip : Ipv4Addr, s.rowOf d ≠ some ip.toText

variable {s} {mem : SessionState} {new : List Write}

theorem Inv.changes (hi : s.Inv) (hc : s.Changes mem new) :
    Inv { s with mem, writes := new ++ s.writes } where
  lease := by
    rw [hc.net, hc.gateway]
    exact hc.lease
  mirrors := hi.mirrors
  held d ip h := by
    obtain ⟨h1, h2, h3⟩ : s.MayHold d ip := (hc.granted d ip h).elim (hi.held d ip) id
    refine ⟨h1, ?_, ?_⟩
    · rw [hc.code]
      exact h2
    · unfold rowOf
      rw [hc.code]
      exact h3
  peers := by
    rw [hc.code, hc.net, hc.gateway, hc.peers]
    exact hi.peers
  upToDate w hw := by
    rcases List.mem_append.mp hw with hw | hw
    · exact hc.upToDate w hw
    · refine (hi.upToDate w hw).congr hc.code fun d hd => ?_
      by_contra hne
      exact hc.moved d hne w hw hd
  settled d hidle hun := by
    have hnew : ∀ w ∈ new, ¬ w.Touches d := fun w hw => hidle w (List.mem_append_left _ hw)
    have hold : s.Idle d := fun w hw => hidle w (List.mem_append_right _ hw)
    intro ip
    unfold rowOf
    rw [hc.code]
    rcases hc.settled d hnew hun with ⟨heq, hun⟩ | ⟨hnone, hrow⟩
    · rw [heq]
      exact hi.settled d hold hun ip
    · rw [hnone]
      exact iff_of_false nofun (hrow ip)

namespace Inv

variable (hi : s.Inv)
include hi

/-- The leases stay, and so does every unconfirmed pre-registration. -/
theorem still (hcode : mem.st.networkCode = s.mem.st.networkCode) (hnet : mem.st.net = s.mem.st.net)
    (hgw : mem.st.gateway = s.mem.st.gateway) (hl : mem.st.leaseState = s.mem.st.leaseState)
    (hun : ∀ d, s.mem.Unconfirmed d → mem.Unconfirmed d) (hnew : ∀ w ∈ new, w.UpToDate mem) :
    s.Changes mem new := by
  have hlease : ∀ d, mem.leaseOf d = s.mem.leaseOf d := fun d => by
    unfold leaseOf
    rw [hl]
  exact ⟨hcode, hnet, hgw, by rw [hl], by rw [hl]; exact hi.lease, fun d h => absurd (hlease d) h,
    fun d ip h => .inl ((hlease d).symm.trans h), hnew, fun d _ h => .inl ⟨hlease d, mt (hun d) h⟩⟩

variable {randomId : BitVec 64} {req : RegRequestMsg} {n : OpenSession} {now : SystemTime}

section

variable (hnet : s.mem.st.net.network ≠ Ipv4Addr.broadcast)

include hnet

/-- A new address that a registration gets may be saved. -/
theorem mayHold {lease : NetworkStateInner} {ip : Ipv4Addr} {old : Option Ipv4Addr}
    (hc : Ordered.Register s req)
    (ha : s.mem.st.leaseState.Allocated s.mem.st.net s.mem.st.gateway req randomId lease ip old) :
    s.mem.leaseOf req.deviceId = some ip ∨ s.Idle req.deviceId ∧ s.MayHold req.deviceId ip := by
  have main : (s.mem.st.leaseState.Grants s.mem.st.net s.mem.st.gateway req ip ∨
      s.mem.st.leaseState.Searches s.mem.st.net s.mem.st.gateway req) →
      Usable s.mem.st.net s.mem.st.gateway ip → s.mem.st.leaseState.Free ip →
      s.Idle req.deviceId ∧ s.MayHold req.deviceId ip := by
    intro hway husable hfree
    refine ⟨?_, hc.named, fun hp => hi.peers ip hp husable hfree.2, fun k hk hrow => ?_⟩
    · by_contra hidle
      exact hway.elim ((hc.own hidle).1 ip) (hc.own hidle).2
    · -- A device with the address in memory would be in the index.
      have hne : s.mem.leaseOf k ≠ some ip := fun h => by
        have ho : s.mem.st.leaseState.deviceIpMap.lookup ip = some k :=
          hi.lease.covers ip k h husable
        exact absurd (hfree.1.symm.trans ho) nofun
      exact hway.elim (hc.others k ip hk hrow hne).1 (hc.others k ip hk hrow hne).2
  rcases ha.table_cases with ⟨hk, -⟩ | ⟨hg, -⟩ | ⟨hs, hf, -⟩
  · exact .inl hk.1
  · exact .inr (main (.inl hg) hg.usable.1 hg.usable.2)
  · exact .inr (main (.inr hs) ((NetworkStateInner.usable_findAvailableIp hf).mpr hnet)
      (NetworkStateInner.findAvailableIp_some hf).2.2)

theorem register (hc : Ordered.Register s req) (sender : Channel) (now : SystemTime) :
    s.Changes (s.mem.register req randomId sender now)
      (s.mem.spawned (.register req randomId sender now)) := by
  unfold SessionState.register
  cases h : s.mem.st.allocateIpAndGetEntry req randomId sender now with
  | error e =>
    have hnew : s.mem.spawned (.register req randomId sender now) = [] := by
      simp only [SessionState.spawned, h]
    rw [hnew]
    exact hi.still rfl rfl rfl rfl (fun _ => id) (by simp)
  | ok r =>
    obtain ⟨st', ip, old, entry⟩ := r
    obtain ⟨ha, hst⟩ := NetworkState.allocateIpAndGetEntry_ok h
    obtain ⟨hl, hentry⟩ := NetworkState.allocateIpAndGetEntry_lease h
    obtain ⟨e, hmap, hid, hip, -, hrid, -⟩ := ha.entry
    have he : st'.leaseState.deviceMap.lookup req.deviceId = some e := by
      rw [hmap, DeviceMap.lookup_add, if_pos hid.symm]
    rw [he] at hentry
    subst hentry
    have hnew : s.mem.spawned (.register req randomId sender now) =
        if req.registrationMode = .normal then [.save (e.toRecord s.mem.st.networkCode)] else [] := by
      simp only [SessionState.spawned, h]
    rw [hnew]
    have hself := ha.leaseOf_self
    have hhold := hi.mayHold hnet hc ha
    refine ⟨?_, ?_, ?_, ha.wireguard, ?_, fun d hd => ?_, fun d a hd => ?_, fun w hw => ?_,
      fun d hd hun => ?_⟩
    · rw [hst]
      rfl
    · rw [hst]
      rfl
    · rw [hst]
      rfl
    · rw [hl]
      exact hi.lease.step hnet trivial
    · by_cases hdd : d = req.deviceId
      · subst hdd
        exact (hhold.resolve_left fun h => hd (hself.trans h.symm)).1
      · exact absurd (ha.leaseOf_other hdd) hd
    · by_cases hdd : d = req.deviceId
      · subst hdd
        cases hself.symm.trans hd
        exact hhold.imp id And.right
      · exact .inl ((ha.leaseOf_other hdd).symm.trans hd)
    · split at hw
      · rw [List.mem_singleton] at hw
        subst hw
        refine ⟨?_, ?_⟩
        · change s.mem.st.networkCode = st'.networkCode
          rw [hst]
          rfl
        · change e.ip.map Ipv4Addr.toText = (st'.leaseState.leaseOf e.deviceId).map _
          rw [hid, hself, hip]
      · cases hw
    · by_cases hdd : d = req.deviceId
      · subst hdd
        cases hmode : req.registrationMode with
        | normal =>
          rw [if_pos hmode] at hd
          exact absurd hid (hd _ List.mem_cons_self)
        | preRegister =>
          -- The device's own session is the new one.
          refine absurd ⟨_, List.mem_cons_self, rfl, ?_, e, he, hrid, hip⟩ hun
          unfold NetworkState.registerSession
          rw [hmode]
      · refine .inl ⟨ha.leaseOf_other hdd, fun ⟨n, hn, hnd, hp, e', he', hr⟩ => hun ?_⟩
        refine ⟨n, List.mem_cons_of_mem _ hn, hnd, hp, e', ?_, hr⟩
        change st'.leaseState.deviceMap.lookup n.session.deviceId = some e'
        rw [hmap, DeviceMap.lookup_add, if_neg (by rw [hnd, hid]; exact hdd)]
        exact he'

/-- Devices go from memory: nothing else changes for the others. -/
theorem removed (op : LeaseOp)
    (hop : op.isVnt = true ∧ ∀ req randomId now, op ≠ .allocateIp req randomId now)
    (hcode : mem.st.networkCode = s.mem.st.networkCode) (hn : mem.st.net = s.mem.st.net)
    (hg : mem.st.gateway = s.mem.st.gateway)
    (hl : mem.st.leaseState = s.mem.st.leaseState.applyOp s.mem.st.net s.mem.st.gateway op)
    (gone : String → Prop) (hgone : ∀ d, gone d → mem.leaseOf d = none)
    (hstay : ∀ d, ¬ gone d → mem.entryOf d = s.mem.entryOf d)
    (hidle : ∀ d, gone d → s.mem.leaseOf d ≠ none → s.Idle d)
    (hlive : ∀ n ∈ s.mem.live, ¬ gone n.session.deviceId → n ∈ mem.live)
    (hnew : ∀ w ∈ new, w.UpToDate mem) (hsettled : ∀ d, gone d → (∀ w ∈ new, ¬ w.Touches d) →
      ∀ ip : Ipv4Addr, s.rowOf d ≠ some ip.toText) : s.Changes mem new := by
  have hlease : ∀ d, ¬ gone d → mem.leaseOf d = s.mem.leaseOf d := fun d hd =>
    congrArg (fun e : Option DeviceEntry => e.bind (·.ip)) (hstay d hd)
  have hc : op.Checked s.mem.st.net s.mem.st.gateway := by
    cases op <;> first | trivial | exact nomatch hop.1
  refine ⟨hcode, hn, hg, ?_, ?_, fun d hd => ?_, fun d ip hd => ?_, hnew, fun d hd hun => ?_⟩
  · rw [hl]
    exact (NetworkStateInner.applyOp_step op).1.peers hop.1
  · rw [hl]
    exact hi.lease.step hnet hc
  · by_cases hgd : gone d
    · refine hidle d hgd fun h => hd ?_
      rw [hgone d hgd, h]
    · exact absurd (hlease d hgd) hd
  · by_cases hgd : gone d
    · exact absurd ((hgone d hgd).symm.trans hd) nofun
    · exact .inl ((hlease d hgd).symm.trans hd)
  · by_cases hgd : gone d
    · exact .inr ⟨hgone d hgd, hsettled d hgd hd⟩
    · refine .inl ⟨hlease d hgd, fun ⟨n, hn, hnd, hp, e, he, hr⟩ => hun ?_⟩
      subst hnd
      exact ⟨n, hlive n hn hgd, rfl, hp, e, (hstay _ hgd).trans he, hr⟩

end

theorem dropConfirmed (hn : n ∈ s.mem.live) (hst : n.session.registrationStatus = .confirmed)
    (hnet : s.mem.st.net.network ≠ Ipv4Addr.broadcast) (now : SystemTime) :
    s.Changes
      (({ s.mem with live := s.mem.live.erase n } : SessionState).dropConfirmed n.session now)
      (s.mem.spawned (.drop n now)) := by
  -- A session that is still unconfirmed stays.
  have hlive : ∀ m ∈ s.mem.live, m.session.registrationStatus = .pendingConfirmation →
      m ∈ s.mem.live.erase n := by
    intro m hm hp
    refine (List.mem_erase_of_ne fun h => ?_).mpr hm
    rw [h, hst] at hp
    cases hp
  have hc : s.mem.live.contains n ∧ n.session.registrationStatus = .confirmed :=
    ⟨List.contains_iff_mem.mpr hn, hst⟩
  unfold SessionState.dropConfirmed SessionState.spawned NetworkState.offlineIp
  dsimp only
  rw [if_pos hc]
  rcases offlineIp_cases (l := s.mem.st.leaseState) n.session s.mem.st.networkCode now with
    ⟨e, e', he, hr, hip, hid, -, hr', hip', hmap, hrec⟩ | ⟨-, heq⟩
  · rw [hrec]
    have htable := s.mem.st.leaseState.table_offlineIp s.mem.st.networkCode n.session.deviceId
      n.session.ip n.session.randomId now
    have hlease : ∀ d, (s.mem.st.leaseState.offlineIp s.mem.st.networkCode n.session.deviceId
        n.session.ip n.session.randomId now).1.leaseOf d = s.mem.leaseOf d :=
      fun d => congrFun (congrArg Ownership.held htable) d
    let op : LeaseOp := .offlineIp s.mem.st.networkCode n.session.deviceId n.session.ip
      n.session.randomId now
    have hstep := hi.lease.step hnet (show op.Checked s.mem.st.net s.mem.st.gateway from trivial)
    refine ⟨rfl, rfl, rfl, ?_, hstep, fun d hd => absurd (hlease d) hd,
      fun d ip hd => .inl ((hlease d).symm.trans hd), ?_, fun d _ hun => .inl ⟨hlease d, ?_⟩⟩
    · exact (@NetworkStateInner.applyOp_step s.mem.st.net s.mem.st.gateway s.mem.st.leaseState
        op).1.peers rfl
    · rw [List.forall_mem_singleton]
      refine ⟨rfl, ?_⟩
      refine Eq.trans ?_ (congrArg (Option.map Ipv4Addr.toText) (hlease e'.deviceId).symm)
      change e'.ip.map _ = (s.mem.st.leaseState.leaseOf e'.deviceId).map _
      rw [hid, NetworkStateInner.leaseOf_of_lookup he, hip, hip']
    · rintro ⟨m, hm, hmd, hp, f, hf, hfr, hfip⟩
      refine hun ⟨m, hlive m hm hp, hmd, hp, ?_⟩
      -- The entry of the session's own device keeps its id and its address.
      by_cases hd : m.session.deviceId = n.session.deviceId
      · refine ⟨e', ?_, ?_, ?_⟩
        · unfold entryOf
          rw [hmap, DeviceMap.lookup_add, if_pos (hd.trans hid.symm)]
        · rw [hd] at hf
          cases hf.symm.trans he
          rw [hr', ← hr, hfr]
        · rw [hd] at hf
          cases hf.symm.trans he
          rw [hip', ← hip, hfip]
      · refine ⟨f, ?_, hfr, hfip⟩
        unfold entryOf
        rw [hmap, DeviceMap.lookup_add, if_neg (by rw [hid]; exact hd)]
        exact hf
  · simp only [heq]
    refine hi.still rfl rfl rfl rfl (fun d ⟨m, hm, hmd, hp, hown⟩ => ?_) (by simp)
    exact ⟨m, hlive m hm hp, hmd, hp, hown⟩

theorem dropPending (hst : n.session.registrationStatus = .pendingConfirmation)
    (hnet : s.mem.st.net.network ≠ Ipv4Addr.broadcast) (hc : s.OrderedMethod (.drop n now)) :
    s.Changes (({ s.mem with live := s.mem.live.erase n } : SessionState).dropPending n.session)
      (s.mem.spawned (.drop n now)) := by
  have hnew : s.mem.spawned (.drop n now) = [] := if_neg fun h => by
    rw [hst] at h
    cases h.2
  rw [hnew]
  unfold SessionState.dropPending
  rcases release_cases (l := s.mem.st.leaseState) n.session with
    ⟨e, he, hr, hip, hmap, hfound⟩ | ⟨hstale, heq⟩
  · obtain ⟨hidle, hrow⟩ := hc hst ⟨e, he, hr, hip⟩
    rw [hfound]
    refine hi.removed hnet (.releasePreRegisteredIp n.session.deviceId n.session.ip
      n.session.randomId) ⟨rfl, by simp⟩ rfl rfl rfl rfl (fun d => d = n.session.deviceId)
      (fun d hd => ?_) (fun d hd => ?_) (fun d hd _ => hd ▸ hidle) (fun m hm hd => ?_) (by simp)
      fun d hd _ => hd ▸ hrow
    · refine NetworkStateInner.leaseOf_of_lookup_none ?_
      rw [hmap, DeviceMap.lookup_remove, if_pos hd]
    · unfold entryOf
      rw [hmap, DeviceMap.lookup_remove, if_neg hd]
    · exact (List.mem_erase_of_ne fun h => hd (by rw [h])).mpr hm
  · simp only [heq]
    refine hi.still rfl rfl rfl rfl (fun d ⟨m, hm, hmd, hp, e, he, hr, hip⟩ => ?_) (by simp)
    refine ⟨m, (List.mem_erase_of_ne fun h => ?_).mpr hm, hmd, hp, e, he, hr, hip⟩
    subst h
    exact hstale e he hr hip

theorem drop (hnet : s.mem.st.net.network ≠ Ipv4Addr.broadcast)
    (hc : s.OrderedMethod (.drop n now)) :
    s.Changes (s.mem.drop n now) (s.mem.spawned (.drop n now)) := by
  unfold SessionState.drop
  split
  · rename_i hn
    cases hst : n.session.registrationStatus with
    | confirmed => exact hi.dropConfirmed (List.contains_iff_mem.mp hn) hst hnet now
    | pendingConfirmation => exact hi.dropPending hst hnet hc
  · rename_i hn
    have hnew : s.mem.spawned (.drop n now) = [] := if_neg fun h => hn h.1
    rw [hnew]
    exact hi.still rfl rfl rfl rfl (fun _ => id) (by simp)

theorem dropStep (x : Dropping) : s.Changes (s.mem.dropStep x) [] := by
  unfold SessionState.dropStep
  split
  · cases x.stage <;> exact hi.still rfl rfl rfl rfl (fun _ => id) (by simp)
  · exact hi.still rfl rfl rfl rfl (fun _ => id) (by simp)

theorem removeExpired {ids : List String} (hnet : s.mem.st.net.network ≠ Ipv4Addr.broadcast)
    (hc : s.OrderedMethod (.removeExpired ids)) :
    s.Changes (s.mem.removeExpired ids) (s.mem.spawned (.removeExpired ids)) := by
  unfold SessionState.removeExpired SessionState.spawned
  by_cases hm : s.mem.collected.contains ids = true
  · simp only [hm, true_and, if_true]
    have hgone : ∀ d ∈ ids, (s.mem.st.leaseState.removeDevices ids).leaseOf d = none :=
      fun d hd => NetworkStateInner.leaseOf_of_lookup_none
        ((lookup_removeDevices ids d).trans (if_pos hd))
    refine hi.removed hnet (.removeDevices ids) ⟨rfl, by simp⟩ rfl rfl rfl rfl
      (fun d => d ∈ ids) hgone
      (fun d hd => (lookup_removeDevices ids d).trans (if_neg hd)) hc
      (fun n hn _ => hn) (fun w hw => ?_) (fun d hd hw => ?_)
    · split at hw
      · rw [List.mem_singleton] at hw
        subst hw
        exact hgone
      · cases hw
    · rw [if_pos (List.ne_nil_of_mem hd)] at hw
      exact absurd hd (hw _ List.mem_cons_self)
  · dsimp only
    rw [if_neg hm, if_neg fun h => hm h.1]
    exact hi.still rfl rfl rfl rfl (fun _ => id) (by simp)

theorem deleteRemove {d : String} (hnet : s.mem.st.net.network ≠ Ipv4Addr.broadcast)
    (hc : s.OrderedMethod (.deleteRemove d)) :
    s.Changes (s.mem.deleteRemove d) (s.mem.spawned (.deleteRemove d)) := by
  unfold SessionState.deleteRemove SessionState.spawned
  by_cases hm : s.mem.deleting.contains d = true
  · dsimp only
    rw [if_pos hm, if_pos hm]
    have hgone : (s.mem.st.leaseState.removeDeviceFromMemory d).1.leaseOf d = none :=
      NetworkStateInner.leaseOf_of_lookup_none
        ((lookup_removeDeviceFromMemory d d).trans (if_pos rfl))
    refine hi.removed hnet (.removeDeviceFromMemory d) ⟨rfl, by simp⟩ rfl rfl rfl rfl
      (fun k => k = d) (fun k hk => hk ▸ hgone)
      (fun k hk => (lookup_removeDeviceFromMemory d k).trans (if_neg hk))
      (fun k hk => hk ▸ hc) (fun n hn _ => hn) ?_ (fun k hk hw => ?_)
    · rw [List.forall_mem_singleton]
      exact hgone
    · exact absurd hk.symm (hw _ List.mem_cons_self)
  · dsimp only
    rw [if_neg hm, if_neg hm]
    exact hi.still rfl rfl rfl rfl (fun _ => id) (by simp)

/-- A confirmation without anything to write. -/
theorem confirmNow (he : s.mem.entryOf n.session.deviceId = none) :
    s.Changes (s.mem.confirm n) [] := by
  unfold confirm
  split
  · rw [NetworkState.confirmRegistration_leaseState]
    refine hi.still rfl rfl rfl rfl (fun d ⟨m, hm, hmd, hp, e, hme, hr⟩ => ?_) (by simp)
    refine ⟨m, List.mem_cons_of_mem _ ((List.mem_erase_of_ne fun h => ?_).mpr hm), hmd, hp, e, hme, hr⟩
    rw [h, he] at hme
    cases hme
  · exact hi.still rfl rfl rfl rfl (fun _ => id) (by simp)

theorem confirm (n : OpenSession) :
    s.Changes (s.mem.remember (.confirm n)) (s.mem.spawned (.confirm n)) := by
  unfold SessionState.remember SessionState.spawned
  dsimp only
  cases he : s.mem.entryOf n.session.deviceId with
  | none =>
    simp only [Option.isNone_none, and_true, ite_self]
    split
    · exact hi.confirmNow he
    · exact hi.still rfl rfl rfl rfl (fun _ => id) (by simp)
  | some e =>
    simp only [Option.isNone_some, Bool.false_eq_true, and_false, if_false]
    refine hi.still rfl rfl rfl rfl (fun _ => id) fun w hw => ?_
    split at hw
    · rw [List.mem_singleton] at hw
      subst hw
      have hid : e.deviceId = n.session.deviceId := DeviceMap.deviceId_of_lookup he
      refine ⟨hid, rfl, ?_⟩
      change e.ip.map _ = (s.mem.st.leaseState.leaseOf e.deviceId).map _
      rw [hid, NetworkStateInner.leaseOf_of_lookup he]
    · cases hw

theorem method {op : SessionOp} (hc : s.Ordered (.method op)) : (s.method op).Inv := by
  obtain ⟨hnet, hc⟩ := hc
  refine hi.changes ?_
  cases op with
  | register req randomId sender now => exact hi.register hnet hc sender now
  | confirm n => exact hi.confirm n
  | drop n now => exact hi.drop hnet hc
  | dropStep x => exact hi.dropStep x
  | collect now => exact hi.still rfl rfl rfl rfl (fun _ => id) (by simp [SessionState.spawned])
  | removeExpired ids => exact hi.removeExpired hnet hc
  | deleteCheck d =>
    refine hi.still ?_ ?_ ?_ ?_ (fun k => ?_) (by simp [SessionState.spawned])
    all_goals
      unfold SessionState.remember SessionState.apply
      dsimp only
      split
    all_goals first | rfl | exact id
  | deleteRemove d => exact hi.deleteRemove hnet hc

end Inv

end Persist

end Vntc
