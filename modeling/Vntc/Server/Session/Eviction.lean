import Vntc.Server.Session.Takeover

/-!
# Live sessions and the removal of devices

The expiry pass and the deletion of a device look whether the device is online in one lock and remove
it in another. A device that comes back in between is removed while its session is live.
-/

namespace Vntc

open Lib

namespace SessionState

variable (s : SessionState)

/-! ## The condition -/

/-- What is removed is offline when it is removed, and no registration takes an address that a
release is still clearing (`Separate`). -/
def Attended (op : SessionOp) : Prop :=
  s.Separate op ∧
  match op with
  | .removeExpired deviceIds => ∀ d ∈ deviceIds, s.st.isDeviceOnline d = false
  | .deleteRemove deviceId => s.st.isDeviceOnline deviceId = false
  | _ => True

/-! ## The invariant -/

/-- The entry of a device is that of its current session. -/
def CurrentEntry : Prop :=
  ∀ n, s.IsCurrent n → ∃ e, s.entryOf n.session.deviceId = some e ∧
    e.randomId = n.session.randomId

variable {s} {n : OpenSession}

/-- The current sessions and their entries depend on the lists and the device map only. -/
theorem CurrentEntry.of_entries {s' : SessionState} (h : s.CurrentEntry)
    (hcur : ∀ n, s'.IsCurrent n → ∃ m, s.IsCurrent m ∧ m.session.deviceId = n.session.deviceId ∧
      m.session.randomId = n.session.randomId ∧
      s'.entryOf n.session.deviceId = s.entryOf n.session.deviceId) : s'.CurrentEntry := by
  intro n hn
  obtain ⟨m, hm, hd, hr, he⟩ := hcur n hn
  obtain ⟨e, hme, her⟩ := h m hm
  exact ⟨e, by rw [he, ← hd]; exact hme, her.trans hr⟩

theorem isOnline_of_current (hi : s.Inv) (h : s.CurrentEntry) (hn : s.IsCurrent n) :
    s.st.isDeviceOnline n.session.deviceId = true := by
  obtain ⟨e, he, hr⟩ := h n hn
  have hc := (hi.inPlace hn.1 he hr).1
  unfold NetworkState.isDeviceOnline
  rw [show s.st.leaseState.deviceMap.lookup n.session.deviceId = some e from he]
  exact hc

namespace CurrentEntry

variable (hi : s.Inv) (h : s.CurrentEntry)
include hi h

omit hi in
theorem register (req : RegRequestMsg) (randomId : BitVec 64) (sender : Channel)
    (now : SystemTime) : (s.register req randomId sender now).CurrentEntry := by
  unfold SessionState.register
  cases hreg : s.st.allocateIpAndGetEntry req randomId sender now with
  | error => exact h
  | ok r =>
    obtain ⟨st', ip, old, entry⟩ := r
    obtain ⟨ha, -⟩ := NetworkState.allocateIpAndGetEntry_ok hreg
    obtain ⟨e, hmap, hid, -, -, hrnd, -⟩ := ha.entry
    intro n hn
    obtain ⟨hlive, hlatest⟩ := hn
    simp only [latest, List.find?_cons] at hlatest
    simp only [entryOf, hmap, DeviceMap.lookup_add, hid]
    by_cases hd : n.session.deviceId = req.deviceId
    · rw [if_pos hd]
      simp only [hd, beq_self_eq_true, Option.map_some, Option.some_inj] at hlatest
      exact ⟨e, rfl, hrnd.trans hlatest⟩
    · rw [if_neg hd]
      have hne : (req.deviceId == n.session.deviceId) = false :=
        beq_eq_false_iff_ne.mpr fun e => hd e.symm
      simp only [hne] at hlatest
      rcases List.mem_cons.mp hlive with rfl | hlive
      · exact absurd rfl hd
      · exact h n ⟨hlive, hlatest⟩

omit hi in
theorem confirm (n : OpenSession) : (s.confirm n).CurrentEntry := by
  unfold SessionState.confirm
  split
  · rename_i hn
    have hn : n ∈ s.live := List.contains_iff_mem.mp hn
    rw [NetworkState.confirmRegistration_leaseState]
    refine h.of_entries fun m hm => ?_
    rcases List.mem_cons.mp hm.1 with rfl | hlive
    · exact ⟨n, ⟨hn, hm.2⟩, rfl, rfl, rfl⟩
    · exact ⟨m, ⟨List.mem_of_mem_erase hlive, hm.2⟩, rfl, rfl, rfl⟩
  · exact h

/-- A session that ends touches the entry with its own id only. -/
theorem ne_device {m : OpenSession} (hm : m ∈ s.live) {e : DeviceEntry}
    (he : s.entryOf m.session.deviceId = some e) (hr : e.randomId = m.session.randomId)
    (hn : s.IsCurrent n) (hlive : n ∈ s.live.erase m) :
    n.session.deviceId ≠ m.session.deviceId := by
  intro hd
  obtain ⟨f, hf, hfr⟩ := h n hn
  rw [hd, he] at hf
  cases hf
  exact hi.erase_ne hm hlive (hfr.symm.trans hr)

theorem drop (m : OpenSession) (now : SystemTime) : (s.drop m now).CurrentEntry := by
  unfold SessionState.drop
  split
  · rename_i hm
    have hm : m ∈ s.live := List.contains_iff_mem.mp hm
    have hstay : ∀ n, n ∈ s.live.erase m → s.latest n.session.deviceId = some n.session.randomId →
        s.IsCurrent n := fun n hl hlat => ⟨List.mem_of_mem_erase hl, hlat⟩
    dsimp only
    split
    · unfold SessionState.dropConfirmed NetworkState.offlineIp
      rcases offlineIp_cases (l := s.st.leaseState) m.session s.st.networkCode now with
        ⟨e, e', he, her, -, hid, -, -, -, hmap, hrec⟩ | ⟨-, heq⟩
      · rw [hrec]
        refine h.of_entries fun n hn => ⟨n, hstay n hn.1 hn.2, rfl, rfl, ?_⟩
        have hne := h.ne_device hi hm he her (hstay n hn.1 hn.2) hn.1
        simp only [entryOf, hmap, DeviceMap.lookup_add, hid, if_neg hne]
      · simp only [heq]
        exact h.of_entries fun n hn => ⟨n, hstay n hn.1 hn.2, rfl, rfl, rfl⟩
    · unfold SessionState.dropPending
      rcases release_cases (l := s.st.leaseState) m.session with
        ⟨e, he, her, -, hmap, hfound⟩ | ⟨-, heq⟩
      · rw [hfound]
        refine h.of_entries fun n hn => ⟨n, hstay n hn.1 hn.2, rfl, rfl, ?_⟩
        have hne := h.ne_device hi hm he her (hstay n hn.1 hn.2) hn.1
        simp only [entryOf, hmap, DeviceMap.lookup_remove, if_neg hne]
      · simp only [heq]
        exact h.of_entries fun n hn => ⟨n, hstay n hn.1 hn.2, rfl, rfl, rfl⟩
  · exact h

omit hi in
theorem dropStep (x : Dropping) : (s.dropStep x).CurrentEntry := by
  unfold SessionState.dropStep
  split
  · split <;> exact h.of_entries fun n hn => ⟨n, hn, rfl, rfl, rfl⟩
  · exact h

theorem removeExpired {ids : List String} (hoff : ∀ d ∈ ids, s.st.isDeviceOnline d = false) :
    (s.removeExpired ids).CurrentEntry := by
  unfold SessionState.removeExpired
  split
  · refine h.of_entries fun n hn => ⟨n, hn, rfl, rfl,
      (lookup_removeDevices ids _).trans (if_neg fun hd => ?_)⟩
    have hon := isOnline_of_current hi h (n := n) hn
    rw [hoff _ hd] at hon
    cases hon
  · exact h

theorem deleteRemove {d : String} (hoff : s.st.isDeviceOnline d = false) :
    (s.deleteRemove d).CurrentEntry := by
  unfold SessionState.deleteRemove NetworkState.removeDeviceFromMemory
  split
  · refine h.of_entries fun n hn => ⟨n, hn, rfl, rfl, ?_⟩
    have hne : n.session.deviceId ≠ d := by
      intro hd
      have hon := isOnline_of_current hi h (n := n) hn
      rw [hd, hoff] at hon
      cases hon
    exact (lookup_removeDeviceFromMemory d _).trans (if_neg hne)
  · exact h

theorem step {op : SessionOp} (hc : s.Attended op) : (s.apply op).CurrentEntry := by
  have hoff := hc.2
  cases op with
  | register req randomId sender now => exact h.register req randomId sender now
  | confirm n => exact h.confirm n
  | drop n now => exact h.drop hi n now
  | dropStep x => exact h.dropStep x
  | collect now => exact h.of_entries fun n hn => ⟨n, hn, rfl, rfl, rfl⟩
  | removeExpired ids => exact h.removeExpired hi hoff
  | deleteCheck d =>
    simp only [apply]
    split
    · exact h
    · exact h.of_entries fun n hn => ⟨n, hn, rfl, rfl, rfl⟩
  | deleteRemove d => exact h.deleteRemove hi hoff

end CurrentEntry

/-! ## Runs -/

theorem inv_of_attended (h : sys.ReachWith Attended s) : s.Inv ∧ s.CurrentEntry := by
  refine h.invariant (I := fun s => s.Inv ∧ s.CurrentEntry) (fun s h0 => ?_)
    fun s op s' hi hc hst => ?_
  · refine ⟨inv_of_fresh h0, fun n hn => ?_⟩
    obtain ⟨-, -, hl, -⟩ := h0
    rw [IsCurrent, hl] at hn
    exact absurd hn.1 List.not_mem_nil
  · cases hst
    exact ⟨hi.1.step hc.1, hi.2.step hi.1 hc⟩

/-- The device of a current session is connected, in the device map and, if its address is usable, in
the index; and the session's queue, endpoint and counters are in place. -/
structure NotEvicted (s : SessionState) (n : OpenSession) : Prop where
  device : ∃ e, s.entryOf n.session.deviceId = some e ∧ e.isConnected = true ∧
    e.randomId = n.session.randomId ∧ e.ip = some n.session.ip
  index : Usable s.st.net s.st.gateway n.session.ip →
    s.st.leaseState.deviceIpMap.lookup n.session.ip = some n.session.deviceId
  inPlace : s.InPlace n

/-- In every run in which devices are offline when they are removed, and no registration takes an
address that a release is still clearing, no current session is evicted. -/
theorem notEvicted_of_attended (h : sys.ReachWith Attended s) (hn : s.IsCurrent n) :
    s.NotEvicted n := by
  obtain ⟨hi, hcur⟩ := inv_of_attended h
  obtain ⟨e, he, hr⟩ := hcur n hn
  obtain ⟨hc, hip, hp⟩ := hi.inPlace hn.1 he hr
  refine ⟨⟨e, he, hc, hr, hip⟩, fun hu => ?_, hp⟩
  exact hi.lease.covers n.session.ip n.session.deviceId
    ((NetworkStateInner.leaseOf_of_lookup he).trans hip) hu

/-- Two devices go offline. The laptop comes back before the expiry pass begins, and the pass removes
the tablet. -/
def backInTime : List SessionOp :=
  [.register (anyIpReq "laptop" none) 7 0 0,
    .register (anyIpReq "tablet" none) 9 2 0,
    .drop (sessionAt (anyIpReq "laptop" none) 2 7 0) 1,
    .drop (sessionAt (anyIpReq "tablet" none) 3 9 2) 1,
    .register (anyIpReq "laptop" none) 8 1 2,
    .collect (2 * oneDay), .removeExpired ["tablet"]]

theorem notEvicted_back_in_time :
    (backInTime.foldl apply start).entryOf "tablet" = none ∧
      (backInTime.foldl apply start).NotEvicted
        (sessionAt (anyIpReq "laptop" none) 2 8 1) := by
  have hnet : defaultNet.network ≠ Ipv4Addr.broadcast := by decide
  refine ⟨by decide, notEvicted_of_attended (Sys.ReachWith.foldl
    (Sys.ReachWith.init (S := sys) (C := Attended) start_fresh)
    ⟨⟨⟨hnet, nofun, nofun⟩, trivial⟩, ⟨⟨hnet, by decide, nofun⟩, trivial⟩, ⟨hnet, trivial⟩,
      ⟨hnet, trivial⟩, ⟨⟨hnet, by decide, nofun⟩, trivial⟩, ⟨hnet, trivial⟩, ⟨hnet, by decide⟩,
      trivial⟩) ⟨by decide, by decide⟩⟩

/-- The expiry pass has collected the laptop when the laptop comes back. -/
def overtakenExpiry : List SessionOp :=
  [.register (anyIpReq "laptop" none) 7 0 0,
    .drop (sessionAt (anyIpReq "laptop" none) 2 7 0) 1,
    .collect (2 * oneDay),
    .register (anyIpReq "laptop" none) 8 1 (2 * oneDay),
    .removeExpired ["laptop"]]

/-- The laptop's session is current and live, and its device is in neither map. -/
theorem expiry_overtaken_by_registration :
    ∃ s n, sys.Reach s ∧ s.IsCurrent n ∧ n.session.deviceId = "laptop" ∧
      (s.entryOf "laptop").isNone = true ∧
      s.st.leaseState.deviceIpMap.lookup n.session.ip = none ∧ ¬ s.NotEvicted n := by
  refine ⟨overtakenExpiry.foldl apply start,
    sessionAt (anyIpReq "laptop" none) 2 8 1,
    Sys.Reach.foldl (Sys.Reach.init (S := sys) start_fresh) _, ⟨by decide, by decide⟩, rfl, by decide,
    by decide, fun h => ?_⟩
  obtain ⟨e, he, -⟩ := h.device
  have hnone : (overtakenExpiry.foldl apply start).entryOf "laptop" = none :=
    Option.isNone_iff_eq_none.mp (by decide)
  exact absurd (hnone.symm.trans he) nofun

end SessionState

end Vntc
