import Vntc.Server.Session.State

/-!
# Takeover of addresses

What the end of a session does to other sessions. The end of a confirmed session looks for its
random id inside the lock and removes what is at its address in the same lock. The end of a
pre-registered session removes it after the lock, and in between the address is free: a registration
that takes it loses its queue, its endpoint and its counters to the session before.
-/

namespace Vntc

open Lib NetworkStateInner HashMap DeviceMap

/-- What a release of a session with the random id may find in its maps. -/
def DropStage.Ok (stage : DropStage) (randomId : BitVec 64) (channel : Option Channel)
    (rid : Option (BitVec 64)) : Prop :=
  (∀ r, rid = some r → r = randomId) ∧
  match stage with
  | .sender => True
  | .endpoint => channel = none
  | .traffic => channel = none ∧ rid = none

/-- Nothing goes wrong for a release when something is removed. -/
theorem DropStage.Ok.mono {stage : DropStage} {randomId : BitVec 64} {c c' : Option Channel}
    {r r' : Option (BitVec 64)} (h : stage.Ok randomId c r) (hc : c' = none ∨ c' = c)
    (hr : r' = none ∨ r' = r) : stage.Ok randomId c' r' := by
  obtain ⟨hid, hs⟩ := h
  have hr' : r = none → r' = none := fun h => hr.elim id fun e => e.trans h
  have hc' : c = none → c' = none := fun h => hc.elim id fun e => e.trans h
  refine ⟨fun x hx => ?_, ?_⟩
  · rcases hr with e | e
    · rw [e] at hx
      cases hx
    · exact hid x (e ▸ hx)
  · cases stage with
    | sender => trivial
    | endpoint => exact hc' hs
    | traffic => exact ⟨hc' hs.1, hr' hs.2⟩

namespace SessionState

/-! ## The condition -/

/-- A registration with a new random id that cannot take an address a release is still clearing. -/
structure Separate.Register (s : SessionState) (req : RegRequestMsg) (randomId : BitVec 64) :
    Prop where
  net : s.st.net.network ≠ Ipv4Addr.broadcast
  fresh : ∀ h ∈ s.history, h.2 ≠ randomId
  apart : ∀ x ∈ s.dropping, ¬ s.st.leaseState.Grants s.st.net s.st.gateway req x.session.ip ∧
    ¬ s.st.leaseState.Searches s.st.net s.st.gateway req

/-- While a release is past its lock no registration is granted its address, and none searches an
address; random ids are not used twice. -/
def Separate (s : SessionState) : SessionOp → Prop
  | .register req randomId _ _ => Separate.Register s req randomId
  | _ => s.st.net.network ≠ Ipv4Addr.broadcast

/-! ## The invariant -/

variable (s : SessionState)

/-- The release has left nothing where it has been, and what it will remove is its own. -/
def DropOk (x : Dropping) : Prop :=
  x.stage.Ok x.session.randomId (s.channelAt x.session.ip) (s.ridAt x.session.ip)

/-- A connected device has a live session with everything in place at its address. -/
structure Inv : Prop where
  lease : s.st.leaseState.LeaseInv s.st.net s.st.gateway
  connected : ∀ d e, s.entryOf d = some e → e.isConnected = true →
    ∃ n ∈ s.live, n.session.deviceId = d ∧ e.ip = some n.session.ip ∧
      e.randomId = n.session.randomId ∧ s.InPlace n
  own : ∀ n ∈ s.live, ∀ e, s.entryOf n.session.deviceId = some e →
    e.randomId = n.session.randomId → e.isConnected = true
  unleased : ∀ x ∈ s.dropping, ∀ d, s.st.leaseState.leaseOf d ≠ some x.session.ip
  drops : ∀ x ∈ s.dropping, s.DropOk x
  keys : ∀ ip, (∀ x ∈ s.dropping, x.session.ip ≠ ip) →
    ((s.channelAt ip).isSome ↔ (s.ridAt ip).isSome)
  distinct : s.live.Pairwise fun n m => n.session.randomId ≠ m.session.randomId
  history : ∀ n ∈ s.live, (n.session.deviceId, n.session.randomId) ∈ s.history
  apart : ∀ x ∈ s.dropping, ∀ n ∈ s.live, n.session.randomId ≠ x.session.randomId
  dropHistory : ∀ x ∈ s.dropping, (x.session.deviceId, x.session.randomId) ∈ s.history

/-! ## Clearing an address -/

/-- Nothing is left at the address, if there is one. -/
def clear (o : Option Ipv4Addr) : SessionState :=
  { s with st := s.st.removeEndpoint o, traffic := HashMap.eraseOpt s.traffic o }

variable {s} {o : Option Ipv4Addr} {ip : Ipv4Addr} {n : OpenSession}

theorem channelAt_clear : (s.clear o).channelAt ip = if o = some ip then none else s.channelAt ip := by
  unfold channelAt clear NetworkState.removeEndpoint
  rw [lookup_eraseOpt]
  split <;> rfl

theorem ridAt_clear : (s.clear o).ridAt ip = if o = some ip then none else s.ridAt ip := by
  unfold ridAt clear NetworkState.removeEndpoint
  rw [lookup_eraseOpt]
  split <;> rfl

theorem InPlace.clear (h : s.InPlace n) (hne : o ≠ some n.session.ip) : (s.clear o).InPlace n where
  channel := by rw [channelAt_clear, if_neg hne]; exact h.channel
  endpoint := by rw [ridAt_clear, if_neg hne]; exact h.endpoint
  traffic := by
    change (eraseOpt s.traffic o).lookup _ = _
    rw [lookup_eraseOpt, if_neg hne]
    exact h.traffic

theorem DropOk.clear {x : Dropping} (h : s.DropOk x) : (s.clear o).DropOk x := by
  refine DropStage.Ok.mono h ?_ ?_
  · rw [channelAt_clear]
    split
    · exact .inl rfl
    · exact .inr rfl
  · rw [ridAt_clear]
    split
    · exact .inl rfl
    · exact .inr rfl

theorem keys_clear (h : (s.channelAt ip).isSome ↔ (s.ridAt ip).isSome) :
    ((s.clear o).channelAt ip).isSome ↔ ((s.clear o).ridAt ip).isSome := by
  rw [channelAt_clear, ridAt_clear]
  split
  · exact Iff.rfl
  · exact h

/-! ## Sessions -/

namespace Inv

variable (hi : s.Inv)
include hi

variable {m : OpenSession} {e : DeviceEntry}

theorem eq_of_randomId (hn : n ∈ s.live) (hm : m ∈ s.live)
    (h : n.session.randomId = m.session.randomId) : n = m := by
  by_contra hne
  have : Std.Symm fun n m : OpenSession => n.session.randomId ≠ m.session.randomId :=
    ⟨fun _ _ h => h.symm⟩
  exact hi.distinct.forall hn hm hne h

/-- A live session whose id its device's entry has is in place. -/
theorem inPlace (hn : n ∈ s.live) (he : s.entryOf n.session.deviceId = some e)
    (hr : e.randomId = n.session.randomId) :
    e.isConnected = true ∧ e.ip = some n.session.ip ∧ s.InPlace n := by
  have hc := hi.own n hn e he hr
  obtain ⟨m, hm, -, hip, hrm, hp⟩ := hi.connected _ e he hc
  have hnm : m = n := hi.eq_of_randomId hm hn (hrm.symm.trans hr)
  subst hnm
  exact ⟨hc, hip, hp⟩

/-- Two devices have different addresses. -/
theorem unique {d d' : String} {e' : DeviceEntry} (he : s.entryOf d = some e)
    (he' : s.entryOf d' = some e') (hip : e.ip = some ip) (hip' : e'.ip = some ip) : d = d' :=
  hi.lease.unique ip d d' ((leaseOf_of_lookup he).trans hip)
    ((leaseOf_of_lookup he').trans hip')

theorem erase_ne (hn : n ∈ s.live) (hm : m ∈ s.live.erase n) :
    m.session.randomId ≠ n.session.randomId := by
  intro h
  have hmn := hi.eq_of_randomId (List.mem_of_mem_erase hm) hn h
  subst hmn
  have hnd : s.live.Nodup := hi.distinct.imp fun h e => h (by rw [e])
  exact (List.Nodup.mem_erase_iff hnd).mp hm |>.1 rfl

end Inv

/-! ## Leases that go -/

variable (s) in
/-- The lease state and the live sessions change, and an address is cleared. -/
def leave (lease : NetworkStateInner) (o : Option Ipv4Addr) (live : List OpenSession) :
    SessionState :=
  { s.clear o with st := { s.st.removeEndpoint o with leaseState := lease }, live := live }

/-- Devices and sessions go, the connected devices that stay keep their sessions, and none of them
has the address that is cleared. -/
theorem Inv.leave (hi : s.Inv) {lease : NetworkStateInner} {live : List OpenSession}
    (hlease : lease.LeaseInv s.st.net s.st.gateway) (hsub : live.Sublist s.live)
    (hheld : ∀ d a, lease.leaseOf d = some a → s.st.leaseState.leaseOf d = some a)
    (hconn : ∀ d e, lease.deviceMap.lookup d = some e → e.isConnected = true →
      s.entryOf d = some e ∧ (∀ a, e.ip = some a → o ≠ some a) ∧
      ∀ n ∈ s.live, n.session.deviceId = d → n.session.randomId = e.randomId → n ∈ live)
    (hown : ∀ n ∈ live, ∀ e, lease.deviceMap.lookup n.session.deviceId = some e →
      e.randomId = n.session.randomId → e.isConnected = true) : (s.leave lease o live).Inv where
  lease := hlease
  connected d e he hc := by
    obtain ⟨hold, hne, hstay⟩ := hconn d e he hc
    obtain ⟨n, hn, hd, hip, hr, hp⟩ := hi.connected d e hold hc
    have hp' := hp.clear (hne _ hip)
    exact ⟨n, hstay n hn hd hr.symm, hd, hip, hr, hp'.channel, hp'.endpoint, hp'.traffic⟩
  own := hown
  unleased x hx d hd := hi.unleased x hx d (hheld d _ hd)
  drops x hx := (hi.drops x hx).clear
  keys ip hip := keys_clear (hi.keys ip hip)
  distinct := hi.distinct.sublist hsub
  history n hn := hi.history n (hsub.subset hn)
  apart x hx n hn := hi.apart x hx n (hsub.subset hn)
  dropHistory := hi.dropHistory

/-- The same for a method of the lease state that gives no device an address. -/
theorem Inv.leaveOp (hi : s.Inv) (hnet : s.st.net.network ≠ Ipv4Addr.broadcast) (op : LeaseOp)
    (hop : op.isVnt = true ∧ ∀ req randomId now, op ≠ .allocateIp req randomId now)
    (live : List OpenSession) (hsub : live.Sublist s.live) (hconn : ∀ d e,
      (s.st.leaseState.applyOp s.st.net s.st.gateway op).deviceMap.lookup d = some e →
      e.isConnected = true → s.entryOf d = some e ∧ (∀ a, e.ip = some a → o ≠ some a) ∧
      ∀ n ∈ s.live, n.session.deviceId = d → n.session.randomId = e.randomId → n ∈ live)
    (hown : ∀ n ∈ live, ∀ e, (s.st.leaseState.applyOp s.st.net s.st.gateway op).deviceMap.lookup
      n.session.deviceId = some e → e.randomId = n.session.randomId → e.isConnected = true) :
    (s.leave (s.st.leaseState.applyOp s.st.net s.st.gateway op) o live).Inv := by
  have hc : op.Checked s.st.net s.st.gateway := by
    cases op <;> first | trivial | exact nomatch hop.1
  exact hi.leave (hi.lease.step hnet hc) hsub
    (fun d a => NetworkState.leaseOf_of_applyOp hop.2) hconn hown

/-! ## Steps -/

/-- What is in place at an address depends on the three maps only. -/
theorem InPlace.congr {s' : SessionState} (h : s.InPlace n)
    (hc : s'.channelAt n.session.ip = s.channelAt n.session.ip)
    (hr : s'.ridAt n.session.ip = s.ridAt n.session.ip)
    (ht : s'.traffic.lookup n.session.ip = s.traffic.lookup n.session.ip) : s'.InPlace n :=
  ⟨hc.trans h.channel, hr.trans h.endpoint, ht.trans h.traffic⟩

/-! ## A session that joins -/

section

variable {lease : NetworkStateInner} {old : Option Ipv4Addr} {req : RegRequestMsg}
  {randomId : BitVec 64} {sender : Channel} {a : Ipv4Addr}

variable (s) in
/-- A session opens at its address, and the address that its device gives up is cleared. -/
def join (lease : NetworkStateInner) (old : Option Ipv4Addr) (req : RegRequestMsg) (ip : Ipv4Addr)
    (randomId : BitVec 64) (sender : Channel) : SessionState :=
  { s with
    st := { s.st.removeEndpoint old with
      leaseState := lease
      senderMap := (s.st.removeEndpoint old).senderMap.insert ip (.vnt sender)
      onlineEndpoints := (s.st.removeEndpoint old).onlineEndpoints.insert ip
        (.vnt randomId req.allowWireGuard req.clientCapabilities
          (req.registrationMode == .normal)) }
    traffic := (eraseOpt s.traffic old).insert ip req.deviceId
    live := ⟨NetworkState.registerSession s.st.networkCode req ip randomId, sender⟩ :: s.live
    history := (req.deviceId, randomId) :: s.history }

theorem channelAt_join : (s.join lease old req ip randomId sender).channelAt a =
    if a = ip then some sender else (s.clear old).channelAt a := by
  unfold channelAt join
  rw [lookup_insert_if]
  split <;> rfl

theorem ridAt_join : (s.join lease old req ip randomId sender).ridAt a =
    if a = ip then some randomId else (s.clear old).ridAt a := by
  unfold ridAt join
  rw [lookup_insert_if]
  split <;> rfl

theorem traffic_join : (s.join lease old req ip randomId sender).traffic.lookup a =
    if a = ip then some req.deviceId else (s.clear old).traffic.lookup a :=
  lookup_insert_if _ _ _ _

theorem InPlace.joined : (s.join lease old req ip randomId sender).InPlace
    ⟨NetworkState.registerSession s.st.networkCode req ip randomId, sender⟩ :=
  ⟨channelAt_join.trans (if_pos rfl), ridAt_join.trans (if_pos rfl), traffic_join.trans (if_pos rfl)⟩

theorem InPlace.join (h : s.InPlace n) (hold : old ≠ some n.session.ip) (hne : n.session.ip ≠ ip) :
    (s.join lease old req ip randomId sender).InPlace n :=
  (h.clear hold).congr (channelAt_join.trans (if_neg hne)) (ridAt_join.trans (if_neg hne))
    (traffic_join.trans (if_neg hne))

theorem DropOk.join {x : Dropping} (h : s.DropOk x) (hne : x.session.ip ≠ ip) :
    (s.join lease old req ip randomId sender).DropOk x :=
  DropStage.Ok.mono (DropOk.clear (o := old) h) (.inr (channelAt_join.trans (if_neg hne)))
    (.inr (ridAt_join.trans (if_neg hne)))

theorem keys_join (h : (s.channelAt a).isSome ↔ (s.ridAt a).isSome) :
    ((s.join lease old req ip randomId sender).channelAt a).isSome ↔
      ((s.join lease old req ip randomId sender).ridAt a).isSome := by
  rw [channelAt_join, ridAt_join]
  split
  · exact Iff.rfl
  · exact keys_clear h

end

/-- A confirmation changes no random id. -/
theorem ridAt_confirm (ip : Ipv4Addr) (randomId : BitVec 64) (a : Ipv4Addr) :
    ({ s with st := s.st.confirmRegistration ip randomId } : SessionState).ridAt a = s.ridAt a := by
  unfold ridAt NetworkState.confirmRegistration
  split
  · rename_i active allow caps confirmed he
    split
    · simp only [lookup_insert_if]
      by_cases ha : a = ip
      · rw [if_pos ha, ha, he]
        rfl
      · rw [if_neg ha]
    · rfl
  · rfl

namespace Inv

variable (hi : s.Inv)
include hi

/-- The bookkeeping of the expiry passes and of the deletions does not matter. -/
theorem lists (collected : List (List String)) (deleting : List String) :
    ({ s with collected, deleting } : SessionState).Inv where
  lease := hi.lease
  connected d e he hc := by
    obtain ⟨n, hn, hd, hip, hr, hp⟩ := hi.connected d e he hc
    exact ⟨n, hn, hd, hip, hr, hp.congr rfl rfl rfl⟩
  own := hi.own
  unleased := hi.unleased
  drops := hi.drops
  keys := hi.keys
  distinct := hi.distinct
  history := hi.history
  apart := hi.apart
  dropHistory := hi.dropHistory

/-- A session that is not its device's own goes without a trace. -/
theorem dropStale (hn : n ∈ s.live)
    (hs : ∀ e, s.entryOf n.session.deviceId = some e → e.randomId = n.session.randomId →
      e.ip ≠ some n.session.ip) : ({ s with live := s.live.erase n } : SessionState).Inv := by
  refine hi.leave (o := none) hi.lease List.erase_sublist (fun _ _ => id) (fun d e he hc => ?_)
    fun m hm => hi.own m (List.mem_of_mem_erase hm)
  refine ⟨he, by simp, fun m hm hd hr => ?_⟩
  refine (List.mem_erase_of_ne fun h => ?_).mpr hm
  subst h
  have he' : s.entryOf m.session.deviceId = some e := by rw [hd]; exact he
  exact hs e he' hr.symm (hi.inPlace hm he' hr.symm).2.1

/-- The sessions of the other devices stay when a device's own session goes. -/
theorem stays {e : DeviceEntry} (he : s.entryOf n.session.deviceId = some e)
    (hip : e.ip = some n.session.ip) {d : String} (hd : d ≠ n.session.deviceId) {f : DeviceEntry}
    (hf : s.entryOf d = some f) :
    (∀ a, f.ip = some a → some n.session.ip ≠ some a) ∧
      ∀ m ∈ s.live, m.session.deviceId = d → m.session.randomId = f.randomId →
        m ∈ s.live.erase n := by
  refine ⟨fun a ha h => ?_, fun m hm hmd _ => (List.mem_erase_of_ne fun h => ?_).mpr hm⟩
  · cases h
    exact hd (hi.unique hf he ha hip)
  · rw [h] at hmd
    exact hd hmd.symm

theorem dropConfirmed (hnet : s.st.net.network ≠ Ipv4Addr.broadcast) (hn : n ∈ s.live)
    (now : SystemTime) :
    (({ s with live := s.live.erase n } : SessionState).dropConfirmed n.session now).Inv := by
  unfold SessionState.dropConfirmed NetworkState.offlineIp
  rcases offlineIp_cases (l := s.st.leaseState) n.session s.st.networkCode now with
    ⟨e, e', he, hr, hip, hid, hoff, hr', -, hmap, hrec⟩ | ⟨hs, heq⟩
  · have hinv := hi.leaveOp (o := some n.session.ip) hnet
      (.offlineIp s.st.networkCode n.session.deviceId n.session.ip n.session.randomId now)
      ⟨rfl, by simp⟩ (s.live.erase n) List.erase_sublist (fun d f hf hc => ?_) (fun m hm f hf hmr => ?_)
    · rw [hrec]
      exact hinv
    · rw [applyOp, hmap, lookup_add] at hf
      split at hf
      · cases hf
        rw [hoff] at hc
        cases hc
      · rename_i hd
        exact ⟨hf, hi.stays he hip (hid ▸ hd) hf⟩
    · rw [applyOp, hmap, lookup_add] at hf
      split at hf
      · cases hf
        exact absurd (hmr.symm.trans hr') (hi.erase_ne hn hm)
      · exact hi.own m (List.mem_of_mem_erase hm) f hf hmr
  · simp only [heq]
    exact hi.dropStale hn hs

/-- A release begins: no device has the address, and what is there is the session's own. -/
theorem startDropping {x : Session} (hu : ∀ d, s.st.leaseState.leaseOf d ≠ some x.ip)
    (hr : ∀ r, s.ridAt x.ip = some r → r = x.randomId)
    (ha : ∀ n ∈ s.live, n.session.randomId ≠ x.randomId)
    (hh : (x.deviceId, x.randomId) ∈ s.history) :
    ({ s with dropping := ⟨x, .sender⟩ :: s.dropping } : SessionState).Inv where
  lease := hi.lease
  connected d e he hc := by
    obtain ⟨n, hn, hd, hip, hr, hp⟩ := hi.connected d e he hc
    exact ⟨n, hn, hd, hip, hr, hp.congr rfl rfl rfl⟩
  own := hi.own
  unleased := List.forall_mem_cons.mpr ⟨hu, hi.unleased⟩
  drops := List.forall_mem_cons.mpr ⟨⟨hr, trivial⟩, hi.drops⟩
  keys ip hip := hi.keys ip fun y hy => hip y (List.mem_cons_of_mem _ hy)
  distinct := hi.distinct
  history := hi.history
  apart := List.forall_mem_cons.mpr ⟨ha, hi.apart⟩
  dropHistory := List.forall_mem_cons.mpr ⟨hh, hi.dropHistory⟩

theorem dropPending (hnet : s.st.net.network ≠ Ipv4Addr.broadcast) (hn : n ∈ s.live) :
    (({ s with live := s.live.erase n } : SessionState).dropPending n.session).Inv := by
  unfold SessionState.dropPending
  rcases release_cases (l := s.st.leaseState) n.session with
    ⟨e, he, hr, hip, hmap, hfound⟩ | ⟨hs, heq⟩
  · have hinv := hi.leaveOp (o := none) hnet
      (.releasePreRegisteredIp n.session.deviceId n.session.ip n.session.randomId)
      ⟨rfl, by simp⟩ (s.live.erase n) List.erase_sublist (fun d f hf hc => ?_) (fun m hm f hf hmr => ?_)
    · have hplace := (hi.inPlace hn he hr).2.2
      rw [hfound]
      refine hinv.startDropping (fun d hd => ?_) (fun r hr => ?_) (fun m => hi.erase_ne hn)
        (hi.history n hn)
      · -- The only device with the address is gone.
        have hold := @NetworkState.leaseOf_of_applyOp n.session.ip s.st.leaseState
          s.st.gateway d s.st.net
          (.releasePreRegisteredIp n.session.deviceId n.session.ip n.session.randomId) (by simp) hd
        have hdev : d = n.session.deviceId := hi.lease.unique n.session.ip d _ hold
          ((leaseOf_of_lookup he).trans hip)
        have hgone : (s.st.leaseState.releasePreRegisteredIp n.session.deviceId n.session.ip
            n.session.randomId).1.deviceMap.lookup d = none := by
          rw [hmap, lookup_remove, if_pos hdev]
        have hnone := leaseOf_of_lookup_none hgone
        exact absurd (hnone.symm.trans hd) nofun
      · exact Option.some_inj.mp (hr.symm.trans hplace.endpoint)
    · rw [applyOp, hmap, lookup_remove] at hf
      split at hf
      · cases hf
      · rename_i hd
        exact ⟨hf, by simp, (hi.stays he hip hd hf).2⟩
    · rw [applyOp, hmap, lookup_remove] at hf
      split at hf
      · cases hf
      · exact hi.own m (List.mem_of_mem_erase hm) f hf hmr
  · simp only [heq]
    exact hi.dropStale hn hs

variable {s' : SessionState} {x : Dropping} {lease : NetworkStateInner} {old : Option Ipv4Addr}

/-- A release goes on with its address: it removes something there, and goes to its next map or
ends. -/
theorem advance (hx : x ∈ s.dropping)
    {senderMap : HashMap Ipv4Addr NetworkSender} {onlineEndpoints : HashMap Ipv4Addr OnlineEndpoint}
    {traffic : HashMap Ipv4Addr String} {dropping : List Dropping}
    (hs' : s' = { s with st := { s.st with senderMap, onlineEndpoints }, traffic, dropping })
    (hoff : ∀ ip, ip ≠ x.session.ip → s'.channelAt ip = s.channelAt ip ∧
      s'.ridAt ip = s.ridAt ip ∧ s'.traffic.lookup ip = s.traffic.lookup ip)
    (hat : (s'.channelAt x.session.ip = none ∨
        s'.channelAt x.session.ip = s.channelAt x.session.ip) ∧
      (s'.ridAt x.session.ip = none ∨ s'.ridAt x.session.ip = s.ridAt x.session.ip))
    (hrest : ∀ y ∈ s.dropping.erase x, y ∈ dropping)
    (hnew : ∀ y ∈ dropping, y ∈ s.dropping.erase x ∨ y.session = x.session ∧ s'.DropOk y)
    (hend : (∀ y ∈ dropping, y.session.ip ≠ x.session.ip) →
      ((s'.channelAt x.session.ip).isSome ↔ (s'.ridAt x.session.ip).isSome)) : s'.Inv := by
  have hold : ∀ y ∈ dropping, ∃ z ∈ s.dropping, z.session = y.session := by
    intro y hy
    rcases hnew y hy with h | ⟨h, -⟩
    · exact ⟨y, List.mem_of_mem_erase h, rfl⟩
    · exact ⟨x, hx, h.symm⟩
  have hmono : ∀ y, s.DropOk y → s'.DropOk y := by
    intro y hy
    by_cases h : y.session.ip = x.session.ip
    · refine DropStage.Ok.mono hy ?_ ?_
      · rw [h]
        exact hat.1
      · rw [h]
        exact hat.2
    · obtain ⟨hc, hr, -⟩ := hoff _ h
      exact DropStage.Ok.mono hy (.inr hc) (.inr hr)
  subst hs'
  refine ⟨hi.lease, fun d e he hc => ?_, hi.own, fun y hy d => ?_, fun y hy => ?_, fun ip hip => ?_,
    hi.distinct, hi.history, fun y hy n hn => ?_, fun y hy => ?_⟩
  · obtain ⟨n, hn, hd, hip, hr, hp⟩ := hi.connected d e he hc
    have hne : n.session.ip ≠ x.session.ip := fun h =>
      hi.unleased x hx d (by rw [← h, ← hip]; exact leaseOf_of_lookup he)
    obtain ⟨h1, h2, h3⟩ := hoff _ hne
    exact ⟨n, hn, hd, hip, hr, hp.congr h1 h2 h3⟩
  · obtain ⟨z, hz, hzy⟩ := hold y hy
    rw [← hzy]
    exact hi.unleased z hz d
  · rcases hnew y hy with h | ⟨-, h⟩
    · exact hmono y (hi.drops y (List.mem_of_mem_erase h))
    · exact h
  · by_cases h : ip = x.session.ip
    · subst h
      exact hend hip
    · obtain ⟨h1, h2, -⟩ := hoff ip h
      rw [h1, h2]
      refine hi.keys ip fun z hz => ?_
      by_cases hzx : z = x
      · rw [hzx]
        exact Ne.symm h
      · exact hip z (hrest z ((List.mem_erase_of_ne hzx).mpr hz))
  · obtain ⟨z, hz, hzy⟩ := hold y hy
    rw [← hzy]
    exact hi.apart z hz n hn
  · obtain ⟨z, hz, hzy⟩ := hold y hy
    rw [← hzy]
    exact hi.dropHistory z hz

theorem dropStep (x : Dropping) : (s.dropStep x).Inv := by
  unfold SessionState.dropStep
  split
  · rename_i hx
    have hx : x ∈ s.dropping := List.contains_iff_mem.mp hx
    have hok := hi.drops x hx
    obtain ⟨session, stage⟩ := x
    cases stage with
    | sender =>
      refine hi.advance hx rfl (fun ip hne => ⟨?_, rfl, rfl⟩) ⟨.inl ?_, .inr rfl⟩
        (fun y hy => List.mem_cons_of_mem _ hy) (fun y hy => ?_)
        fun h => (h ⟨session, .endpoint⟩ List.mem_cons_self rfl).elim
      · simp only [channelAt, lookup_erase_if, if_neg hne]
      · simp only [channelAt, lookup_erase_if, if_true, Option.bind_none]
      · rcases List.mem_cons.mp hy with rfl | hy
        · refine .inr ⟨rfl, hok.1, ?_⟩
          simp only [channelAt, lookup_erase_if, if_true, Option.bind_none]
        · exact .inl hy
    | endpoint =>
      refine hi.advance hx rfl (fun ip hne => ⟨rfl, ?_, rfl⟩) ⟨.inr rfl, .inl ?_⟩
        (fun y hy => List.mem_cons_of_mem _ hy) (fun y hy => ?_)
        fun h => (h ⟨session, .traffic⟩ List.mem_cons_self rfl).elim
      · simp only [ridAt, lookup_erase_if, if_neg hne]
      · simp only [ridAt, lookup_erase_if, if_true, Option.bind_none]
      · rcases List.mem_cons.mp hy with rfl | hy
        · have hnone : ({ s with
              st := { s.st with onlineEndpoints := s.st.onlineEndpoints.erase session.ip }
              dropping := ⟨session, .traffic⟩ :: s.dropping.erase ⟨session, .endpoint⟩ } :
              SessionState).ridAt session.ip = none := by
            simp only [ridAt, lookup_erase_if, if_true, Option.bind_none]
          refine .inr ⟨rfl, fun r hr => ?_, hok.2, hnone⟩
          exact absurd (hnone.symm.trans hr) nofun
        · exact .inl hy
    | traffic =>
      refine hi.advance hx rfl (fun ip hne => ⟨rfl, rfl, ?_⟩) ⟨.inr rfl, .inr rfl⟩
        (fun y hy => hy) (fun y hy => .inl hy) fun _ => ?_
      · simp only [lookup_erase_if, if_neg hne]
      · obtain ⟨hc, hr⟩ := hok.2
        exact iff_of_false (Option.not_isSome_iff_eq_none.mpr hc)
          (Option.not_isSome_iff_eq_none.mpr hr)
  · exact hi

theorem removeExpired (hnet : s.st.net.network ≠ Ipv4Addr.broadcast) (ids : List String) :
    (s.removeExpired ids).Inv := by
  have hkept : ∀ d e, (s.st.leaseState.removeDevices ids).deviceMap.lookup d = some e →
      s.entryOf d = some e := by
    intro d e he
    rw [lookup_removeDevices] at he
    split at he
    · cases he
    · exact he
  unfold SessionState.removeExpired
  split
  · have hinv := hi.leaveOp (o := none) hnet (.removeDevices ids) ⟨rfl, by simp⟩ s.live
      (List.Sublist.refl _) (fun d e he _ => ⟨hkept d e he, by simp, fun n hn _ _ => hn⟩)
      (fun n hn e he => hi.own n hn e (hkept _ e he))
    exact hinv.lists _ _
  · exact hi

theorem deleteRemove (hnet : s.st.net.network ≠ Ipv4Addr.broadcast) (d : String) :
    (s.deleteRemove d).Inv := by
  unfold SessionState.deleteRemove NetworkState.removeDeviceFromMemory
  split
  · cases he : s.st.leaseState.deviceMap.lookup d with
    | none =>
      simp only [removeDeviceFromMemory, he]
      exact hi.lists _ _
    | some e =>
      have hmem : s.st.leaseState.removeDeviceFromMemory d =
          ((s.st.leaseState.removeDeviceFromMemory d).1, e.ip) := by
        simp only [removeDeviceFromMemory, he]
      have hkept : ∀ k f, (s.st.leaseState.removeDeviceFromMemory d).1.deviceMap.lookup k = some f →
          k ≠ d ∧ s.entryOf k = some f := by
        intro k f hf
        rw [lookup_removeDeviceFromMemory] at hf
        split at hf
        · cases hf
        · rename_i hk
          exact ⟨hk, hf⟩
      have hinv := hi.leaveOp (o := e.ip) hnet (.removeDeviceFromMemory d) ⟨rfl, by simp⟩ s.live
        (List.Sublist.refl _) (fun k f hf _ => ?_)
        (fun n hn f hf => hi.own n hn f (hkept _ f hf).2)
      · rw [hmem]
        exact hinv.lists _ _
      · obtain ⟨hk, hold⟩ := hkept k f hf
        exact ⟨hold, fun a ha h => hk (hi.unique hold he ha h), fun n hn _ _ => hn⟩
  · exact hi

/-- A session with everything in place is confirmed: nothing changes hands. -/
theorem confirm (n : OpenSession) : (s.confirm n).Inv := by
  unfold SessionState.confirm
  split
  case isFalse => exact hi
  case isTrue hn =>
    have hn : n ∈ s.live := List.contains_iff_mem.mp hn
    have hrid := fun a => ridAt_confirm (s := s) n.session.ip n.session.randomId a
    rw [NetworkState.confirmRegistration_leaseState] at hrid ⊢
    have hmem : ∀ m ∈ n.confirmed :: s.live.erase n, ∃ k ∈ s.live,
        k.session.deviceId = m.session.deviceId ∧ k.session.randomId = m.session.randomId := by
      rw [List.forall_mem_cons]
      exact ⟨⟨n, hn, rfl, rfl⟩, fun m hm => ⟨m, List.mem_of_mem_erase hm, rfl, rfl⟩⟩
    refine ⟨hi.lease, fun d e he hc => ?_, fun m hm e he hr => ?_, hi.unleased, fun x hx => ?_,
      fun ip hip => ?_, ?_, fun m hm => ?_, fun x hx m hm => ?_, hi.dropHistory⟩
    · obtain ⟨m, hm, hd, hip, hr, hp⟩ := hi.connected d e he hc
      by_cases hmn : m = n
      · subst hmn
        exact ⟨m.confirmed, List.mem_cons_self, hd, hip, hr, hp.channel, (hrid _).trans hp.endpoint,
          hp.traffic⟩
      · exact ⟨m, List.mem_cons_of_mem _ ((List.mem_erase_of_ne hmn).mpr hm), hd, hip, hr,
          hp.channel, (hrid _).trans hp.endpoint, hp.traffic⟩
    · obtain ⟨k, hk, hkd, hkr⟩ := hmem m hm
      rw [← hkd] at he
      exact hi.own k hk e he (hr.trans hkr.symm)
    · exact DropStage.Ok.mono (hi.drops x hx) (.inr rfl) (.inr (hrid _))
    · have hk := hi.keys ip hip
      rw [← hrid ip] at hk
      exact hk
    · exact List.pairwise_cons.mpr ⟨fun m hm => (hi.erase_ne hn hm).symm,
        hi.distinct.sublist List.erase_sublist⟩
    · obtain ⟨k, hk, hkd, hkr⟩ := hmem m hm
      rw [← hkd, ← hkr]
      exact hi.history k hk
    · obtain ⟨k, hk, -, hkr⟩ := hmem m hm
      rw [← hkr]
      exact hi.apart x hx k hk

variable {randomId : BitVec 64} {req : RegRequestMsg}

section

variable (hc : Separate.Register s req randomId)

include hc

/-- A registration takes an address that no release is clearing. -/
theorem ne_dropping (ha : s.st.leaseState.Allocated s.st.net s.st.gateway req randomId lease ip old)
    (hx : x ∈ s.dropping) : x.session.ip ≠ ip := by
  intro h
  obtain ⟨hg, hs⟩ := hc.apart x hx
  rcases ha.table_cases with ⟨hk, -⟩ | ⟨hgr, -⟩ | ⟨hsr, -, -⟩
  · exact hi.unleased x hx req.deviceId (h ▸ hk.1)
  · exact hg (h ▸ hgr)
  · exact hs hsr

variable {sender : Channel} (hinv : lease.LeaseInv s.st.net s.st.gateway)
  (ha : s.st.leaseState.Allocated s.st.net s.st.gateway req randomId lease ip old)

include hinv ha

omit hc in
/-- The new session is in place, and the other connected devices keep theirs: nobody else has the
address it takes or the one it gives up. -/
theorem connected_join {d : String} {f : DeviceEntry} (hf : lease.deviceMap.lookup d = some f)
    (hfc : f.isConnected = true) :
    ∃ n ∈ (s.join lease old req ip randomId sender).live, n.session.deviceId = d ∧
      f.ip = some n.session.ip ∧ f.randomId = n.session.randomId ∧
      (s.join lease old req ip randomId sender).InPlace n := by
  obtain ⟨e, hmap, hid, hip, -, hrnd, -⟩ := ha.entry
  have hlf := leaseOf_of_lookup hf
  rw [hmap, lookup_add] at hf
  by_cases hd : d = req.deviceId
  · rw [if_pos (hd.trans hid.symm)] at hf
    cases hf
    exact ⟨_, List.mem_cons_self, hd.symm, hip, hrnd, .joined⟩
  · rw [if_neg fun h => hd (h.trans hid)] at hf
    obtain ⟨m, hm, hmd, hmip, hmr, hp⟩ := hi.connected d f hf hfc
    have hipne : m.session.ip ≠ ip := fun h =>
      hd (hinv.unique ip d _ (hlf.trans (h ▸ hmip)) ha.leaseOf_self)
    have hold : old ≠ some m.session.ip := fun h =>
      hd (hi.lease.unique _ d _ ((leaseOf_of_lookup hf).trans hmip) (ha.leaseOf_old h))
    exact ⟨m, List.mem_cons_of_mem _ hm, hmd, hmip, hmr, hp.join hold hipne⟩

theorem registered : (s.join lease old req ip randomId sender).Inv := by
  obtain ⟨e, hmap, hid, -, hcon, hrnd, -⟩ := ha.entry
  have hnew : ∀ m ∈ s.live, m.session.randomId ≠ randomId := fun m hm =>
    hc.fresh _ (hi.history m hm)
  refine ⟨hinv, fun d f => hi.connected_join hinv ha, fun m hm f hf hmr => ?_, fun x hx d hd => ?_,
    fun x hx => (hi.drops x hx).join (hi.ne_dropping hc ha hx), fun a hax => keys_join (hi.keys a hax),
    List.pairwise_cons.mpr ⟨fun m hm => (hnew m hm).symm, hi.distinct⟩, fun m hm => ?_,
    fun x hx m hm => ?_, fun x hx => List.mem_cons_of_mem _ (hi.dropHistory x hx)⟩
  · change lease.deviceMap.lookup m.session.deviceId = some f at hf
    rw [hmap, lookup_add] at hf
    rcases List.mem_cons.mp hm with rfl | hm
    · cases (if_pos hid.symm).symm.trans hf
      exact hcon
    · split at hf
      · cases hf
        exact absurd (hmr.symm.trans hrnd) (hnew m hm)
      · exact hi.own m hm f hf hmr
  · by_cases hdd : d = req.deviceId
    · subst hdd
      exact hi.ne_dropping hc ha hx (Option.some_inj.mp (hd.symm.trans ha.leaseOf_self))
    · exact hi.unleased x hx d ((ha.leaseOf_other hdd).symm.trans hd)
  · rcases List.mem_cons.mp hm with rfl | hm
    · exact List.mem_cons_self
    · exact List.mem_cons_of_mem _ (hi.history m hm)
  · rcases List.mem_cons.mp hm with rfl | hm
    · exact (hc.fresh _ (hi.dropHistory x hx)).symm
    · exact hi.apart x hx m hm

omit hinv ha

theorem register (sender : Channel) (now : SystemTime) :
    (s.register req randomId sender now).Inv := by
  unfold SessionState.register
  cases h : s.st.allocateIpAndGetEntry req randomId sender now with
  | error => exact hi
  | ok r =>
    obtain ⟨st', ip, old, entry⟩ := r
    obtain ⟨ha, hst⟩ := NetworkState.allocateIpAndGetEntry_ok h
    obtain ⟨hl, rfl⟩ := NetworkState.allocateIpAndGetEntry_lease h
    obtain ⟨e, hmap, hid, -⟩ := ha.entry
    have hentry : st'.leaseState.deviceMap.lookup req.deviceId = some e := by
      rw [hmap, lookup_add, if_pos hid.symm]
    simp only [hentry, hid]
    rw [hst]
    exact hi.registered hc (hl ▸ hi.lease.step hc.net trivial) ha

end

theorem drop (hnet : s.st.net.network ≠ Ipv4Addr.broadcast) (n : OpenSession) (now : SystemTime) :
    (s.drop n now).Inv := by
  unfold SessionState.drop
  split
  · rename_i hn
    have hn : n ∈ s.live := List.contains_iff_mem.mp hn
    split
    · exact hi.dropConfirmed hnet hn now
    · exact hi.dropPending hnet hn
  · exact hi

theorem step {op : SessionOp} (hc : s.Separate op) : (s.apply op).Inv := by
  cases op with
  | register req randomId sender now => exact hi.register hc sender now
  | confirm n => exact hi.confirm n
  | drop n now => exact hi.drop hc n now
  | dropStep x => exact hi.dropStep x
  | collect now => exact hi.lists _ _
  | removeExpired ids => exact hi.removeExpired hc ids
  | deleteCheck d =>
    simp only [apply]
    split
    · exact hi
    · exact hi.lists _ _
  | deleteRemove d => exact hi.deleteRemove hc d

end Inv

/-! ## Runs -/

theorem inv_of_fresh (h : s.Fresh) : s.Inv := by
  obtain ⟨hload, ht, hl, hd, -, -, hh⟩ := h
  have hlease := hload.netInv.lease
  obtain ⟨networkCode, net, leaseDuration, devices, allocations, now, -, hst, -⟩ := hload
  refine ⟨hlease, fun d e he hc => ?_, ?_, ?_, ?_, fun ip _ => ?_, ?_, ?_, ?_, ?_⟩
  · unfold entryOf at he
    rw [hst] at he
    -- Nobody is online after a load.
    obtain ⟨r, -, rfl⟩ := row_of_load he
    cases hc
  · rw [hl]; exact nofun
  · rw [hd]; exact nofun
  · rw [hd]; exact nofun
  · unfold channelAt ridAt
    rw [hst]
    exact Iff.rfl
  · rw [hl]; exact .nil
  · rw [hl]; exact nofun
  · rw [hd]; exact nofun
  · rw [hd]; exact nofun

theorem inv_of_reach (h : sys.ReachWith Separate s) : s.Inv :=
  h.invariant_of (fun _ => inv_of_fresh) fun _ _ hi hc => hi.step hc

/-! ## Takeover -/

/-- The session whose end a step belongs to. -/
def dropOf : SessionOp → Option (BitVec 64)
  | .drop n _ => some n.session.randomId
  | .dropStep x => some x.session.randomId
  | _ => none

/-- Queue, endpoint and counters at an address are as they were. -/
structure SameAt (s s' : SessionState) (ip : Ipv4Addr) : Prop where
  sender : s'.st.senderMap.lookup ip = s.st.senderMap.lookup ip
  endpoint : s'.st.onlineEndpoints.lookup ip = s.st.onlineEndpoints.lookup ip
  traffic : s'.traffic.lookup ip = s.traffic.lookup ip

/-- The end of a session leaves every other session's queue, endpoint and counters where they are; a
session whose id its device's entry has is in place; and when no release is under way the queues and
the endpoints of the VNT clients are at the same addresses. -/
structure TakeoverSafe (s : SessionState) : Prop where
  keeps : ∀ op r, dropOf op = some r → ∀ n ∈ s.live, n.session.randomId ≠ r →
    s.ridAt n.session.ip = some n.session.randomId → SameAt s (s.apply op) n.session.ip
  inPlace : ∀ n ∈ s.live, ∀ e, s.entryOf n.session.deviceId = some e →
    e.randomId = n.session.randomId → s.InPlace n
  keys : s.dropping = [] → ∀ ip, (∃ c, s.st.senderMap.lookup ip = some (.vnt c)) ↔
    ∃ r a c f, s.st.onlineEndpoints.lookup ip = some (.vnt r a c f)

theorem SameAt.refl (s : SessionState) (ip : Ipv4Addr) : SameAt s s ip := ⟨rfl, rfl, rfl⟩

theorem channelAt_isSome : (s.channelAt ip).isSome ↔
    ∃ c, s.st.senderMap.lookup ip = some (.vnt c) := by
  unfold channelAt
  cases s.st.senderMap.lookup ip with
  | none => simp
  | some q => cases q <;> simp [NetworkSender.channel?]

theorem ridAt_isSome : (s.ridAt ip).isSome ↔
    ∃ r a c f, s.st.onlineEndpoints.lookup ip = some (.vnt r a c f) := by
  unfold ridAt
  cases s.st.onlineEndpoints.lookup ip with
  | none => simp
  | some q => cases q <;> simp [OnlineEndpoint.randomId?]

namespace Inv

variable (hi : s.Inv)
include hi

theorem keeps_dropStep {x : Dropping} (hne : n.session.randomId ≠ x.session.randomId)
    (hr : s.ridAt n.session.ip = some n.session.randomId) :
    SameAt s (s.dropStep x) n.session.ip := by
  unfold SessionState.dropStep
  split
  · rename_i hx
    have hok := hi.drops x (List.contains_iff_mem.mp hx)
    have hip : n.session.ip ≠ x.session.ip := fun h => hne (hok.1 _ (h ▸ hr))
    split
    · exact ⟨by rw [lookup_erase_if, if_neg hip], rfl, rfl⟩
    · exact ⟨rfl, by rw [lookup_erase_if, if_neg hip], rfl⟩
    · exact ⟨rfl, rfl, by rw [lookup_erase_if, if_neg hip]⟩
  · exact .refl s _

theorem keeps_drop {m : OpenSession} (hne : n.session.randomId ≠ m.session.randomId)
    (hr : s.ridAt n.session.ip = some n.session.randomId) (now : SystemTime) :
    SameAt s (s.drop m now) n.session.ip := by
  unfold SessionState.drop
  split
  · rename_i hm
    have hm : m ∈ s.live := List.contains_iff_mem.mp hm
    dsimp only
    split
    · unfold SessionState.dropConfirmed NetworkState.offlineIp
      rcases offlineIp_cases (l := s.st.leaseState) m.session s.st.networkCode now with
        ⟨e, e', he, her, -, -, -, -, -, -, hrec⟩ | ⟨-, heq⟩
      · -- What is at the address is the session's own.
        have hown := (hi.inPlace hm he her).2.2.endpoint
        have hip : some m.session.ip ≠ some n.session.ip := by
          intro h
          rw [Option.some_inj.mp h, hr] at hown
          exact hne (Option.some_inj.mp hown)
        rw [hrec]
        refine ⟨?_, ?_, ?_⟩
        · exact (lookup_eraseOpt _ _ _).trans (if_neg hip)
        · exact (lookup_eraseOpt _ _ _).trans (if_neg hip)
        · exact (lookup_eraseOpt _ (some m.session.ip) _).trans (if_neg hip)
      · simp only [heq]
        exact ⟨rfl, rfl, rfl⟩
    · unfold SessionState.dropPending
      split <;> exact ⟨rfl, rfl, rfl⟩
  · exact .refl s _

theorem takeoverSafe : s.TakeoverSafe where
  keeps op r hop n _ hne hr := by
    cases op with
    | drop m now =>
      cases hop
      exact hi.keeps_drop hne hr now
    | dropStep x =>
      cases hop
      exact hi.keeps_dropStep hne hr
    | _ => cases hop
  inPlace n hn e he hr := (hi.inPlace hn he hr).2.2
  keys hd ip := by
    rw [← channelAt_isSome, ← ridAt_isSome]
    exact hi.keys ip (by rw [hd]; exact nofun)

end Inv

/-- In every run in which no registration takes an address that a release is still clearing, the end
of a session leaves the other sessions alone. -/
theorem takeover_safe (h : sys.ReachWith Separate s) : s.TakeoverSafe :=
  (inv_of_reach h).takeoverSafe

/-! ## Runs on a network without devices -/

/-- A network without devices. -/
def start : SessionState where
  st := .newFromDb "home" defaultNet oneDay none none 0
  traffic := ∅
  live := []
  dropping := []
  collected := []
  deleting := []
  history := []

theorem start_fresh : start.Fresh :=
  ⟨⟨"home", defaultNet, oneDay, none, none, 0, .nil, rfl, fun _ => .inl rfl⟩,
    rfl, rfl, rfl, rfl, rfl, rfl⟩

/-- A session at an address of the network. -/
def sessionAt (req : RegRequestMsg) (host : Nat) (randomId : BitVec 64) (sender : Channel) :
    OpenSession :=
  ⟨NetworkState.registerSession "home" req (homeIp host) randomId, sender⟩

/-- The session of a laptop that has pre-registered. -/
def laptopOpening : OpenSession := sessionAt (NetworkState.preRegisterReq "laptop") 2 7 0

/-- The laptop pre-registers and the tablet registers; then the laptop's session ends. -/
def besideEachOther : List SessionOp :=
  [.register (NetworkState.preRegisterReq "laptop") 7 0 0,
    .register (anyIpReq "tablet" none) 9 1 0,
    .drop laptopOpening 1]

theorem takeover_safe_beside :
    (besideEachOther.foldl apply start).dropping =
        [⟨laptopOpening.session, .sender⟩] ∧
      (besideEachOther.foldl apply start).TakeoverSafe := by
  refine ⟨by decide, takeover_safe (Sys.ReachWith.foldl
    (Sys.ReachWith.init (S := sys) (C := Separate) start_fresh) ⟨?_, ?_, ?_, trivial⟩)⟩
  · exact ⟨by decide, nofun, nofun⟩
  · exact ⟨by decide, by decide, nofun⟩
  · exact show defaultNet.network ≠ Ipv4Addr.broadcast by decide

/-- The laptop's release is past its lock and has removed its queue when the tablet registers and is
given the address. -/
def overtaken : List SessionOp :=
  [.register (NetworkState.preRegisterReq "laptop") 7 0 0,
    .drop laptopOpening 1,
    .dropStep ⟨laptopOpening.session, .sender⟩,
    .register (anyIpReq "tablet" none) 9 1 2]

/-- The next step of the release removes the tablet's endpoint and leaves its queue. -/
theorem release_overtaken_by_registration :
    ∃ s, sys.Reach s ∧
      s.live = [sessionAt (anyIpReq "tablet" none) 2 9 1] ∧
      s.ridAt (homeIp 2) = some 9 ∧
      (s.dropStep ⟨laptopOpening.session, .endpoint⟩).ridAt (homeIp 2) = none ∧
      (s.dropStep ⟨laptopOpening.session, .endpoint⟩).channelAt (homeIp 2) = some 1 ∧
      ¬ s.TakeoverSafe := by
  refine ⟨overtaken.foldl apply start, Sys.Reach.foldl (Sys.Reach.init (S := sys) start_fresh) _,
    by decide, by decide, by decide, by decide, fun h => ?_⟩
  have hsame := h.keeps (.dropStep ⟨laptopOpening.session, .endpoint⟩) 7 rfl
    (sessionAt (anyIpReq "tablet" none) 2 9 1) (by decide) (by decide) (by decide)
  exact absurd hsame.endpoint (by decide)

end SessionState

end Vntc
