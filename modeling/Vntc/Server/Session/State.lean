import Vntc.Server.Run

/-!
# Sessions of a network

The sections of the session methods of `server/network_state_provider.rs`, in any order: a
registration, a confirmation, the end of a session (`Drop` in `server/control_server/service.rs`),
the expiry pass and the deletion of a device. What a method does inside the lock of the lease state
is one step. Three methods do not stay inside one lock:

* `release_pre_registered_ip` removes the queue, the endpoint and the counters of the address after
  the lock, one map after the other (`Dropping`);
* the expiry pass collects the devices in one lock and removes them in another;
* `delete_device` looks whether the device is online in one lock and removes it in another.
-/

namespace Vntc

open Lib NetworkStateInner

/-- A session with the queue of its client. -/
structure OpenSession where
  session : Session
  sender : Channel
  deriving DecidableEq

/-- The session is confirmed once its device is stored. -/
def OpenSession.confirmed (n : OpenSession) : OpenSession :=
  { n with session := { n.session with registrationStatus := .confirmed } }

/-- The map that a release has to look at next. -/
inductive DropStage
  | sender
  | endpoint
  | traffic
  deriving DecidableEq

/-- A release of a pre-registered address, after the lock. -/
structure Dropping where
  session : Session
  stage : DropStage
  deriving DecidableEq

structure SessionState where
  st : NetworkState
  /-- `traffic_stats_map`, with the device whose counters they are. -/
  traffic : HashMap Ipv4Addr String
  live : List OpenSession
  dropping : List Dropping
  /-- What the expiry passes between their locks have collected. -/
  collected : List (List String)
  /-- The devices that a deletion has found offline and not yet removed. -/
  deleting : List String
  /-- The device and the random id of every registration, the newest first. -/
  history : List (String × BitVec 64)

inductive SessionOp
  | register (req : RegRequestMsg) (randomId : BitVec 64) (sender : Channel) (now : SystemTime)
  | confirm (n : OpenSession)
  | drop (n : OpenSession) (now : SystemTime)
  | dropStep (x : Dropping)
  | collect (now : SystemTime)
  | removeExpired (deviceIds : List String)
  | deleteCheck (deviceId : String)
  | deleteRemove (deviceId : String)

/-- The random id of a VNT endpoint. -/
def OnlineEndpoint.randomId? : OnlineEndpoint → Option (BitVec 64)
  | .vnt randomId .. => some randomId
  | .wireGuard .. => none

/-- The channel of a VNT queue. -/
def NetworkSender.channel? : NetworkSender → Option Channel
  | .vnt channel => some channel
  | .wireGuard .. => none

/-- `is_device_online` -/
def NetworkState.isDeviceOnline (st : NetworkState) (deviceId : String) : Bool :=
  (st.leaseState.deviceMap.lookup deviceId).any (·.isConnected)

namespace SessionState

variable (s : SessionState)

def register (req : RegRequestMsg) (randomId : BitVec 64) (sender : Channel) (now : SystemTime) :
    SessionState :=
  match s.st.allocateIpAndGetEntry req randomId sender now with
  | .error _ => s
  | .ok (st, ip, old, entry) =>
    let traffic := HashMap.eraseOpt s.traffic old
    { s with
      st := st
      traffic := match entry with
        | some e => traffic.insert ip e.deviceId
        | none => traffic
      live := ⟨NetworkState.registerSession s.st.networkCode req ip randomId, sender⟩ :: s.live
      history := (req.deviceId, randomId) :: s.history }

def confirm (n : OpenSession) : SessionState :=
  if s.live.contains n then
    { s with
      st := s.st.confirmRegistration n.session.ip n.session.randomId
      live := n.confirmed :: s.live.erase n }
  else s

/-- A confirmed session ends inside the lock. -/
def dropConfirmed (x : Session) (now : SystemTime) : SessionState :=
  match s.st.offlineIp x.deviceId x.ip x.randomId now with
  | (st, some _) => { s with st := st, traffic := s.traffic.erase x.ip }
  | (_, none) => s

/-- The locked part of the end of a session that was never confirmed. -/
def dropPending (x : Session) : SessionState :=
  match s.st.leaseState.releasePreRegisteredIp x.deviceId x.ip x.randomId with
  | (lease, true) =>
    { s with st := { s.st with leaseState := lease }, dropping := ⟨x, .sender⟩ :: s.dropping }
  | (_, false) => s

def drop (n : OpenSession) (now : SystemTime) : SessionState :=
  if s.live.contains n then
    let s := { s with live := s.live.erase n }
    match n.session.registrationStatus with
    | .confirmed => s.dropConfirmed n.session now
    | .pendingConfirmation => s.dropPending n.session
  else s

/-- One map of the unlocked part. -/
def dropStep (x : Dropping) : SessionState :=
  if s.dropping.contains x then
    let rest := s.dropping.erase x
    match x.stage with
    | .sender =>
      { s with
        st := { s.st with senderMap := s.st.senderMap.erase x.session.ip }
        dropping := ⟨x.session, .endpoint⟩ :: rest }
    | .endpoint =>
      { s with
        st := { s.st with onlineEndpoints := s.st.onlineEndpoints.erase x.session.ip }
        dropping := ⟨x.session, .traffic⟩ :: rest }
    | .traffic => { s with traffic := s.traffic.erase x.session.ip, dropping := rest }
  else s

def removeExpired (deviceIds : List String) : SessionState :=
  if s.collected.contains deviceIds then
    { s with st := s.st.removeDevices deviceIds, collected := s.collected.erase deviceIds }
  else s

def deleteRemove (deviceId : String) : SessionState :=
  if s.deleting.contains deviceId then
    let r := s.st.removeDeviceFromMemory deviceId
    { s with
      st := r.1
      traffic := HashMap.eraseOpt s.traffic r.2
      deleting := s.deleting.erase deviceId }
  else s

def apply : SessionOp → SessionState
  | .register req randomId sender now => s.register req randomId sender now
  | .confirm n => s.confirm n
  | .drop n now => s.drop n now
  | .dropStep x => s.dropStep x
  | .collect now =>
    { s with
      collected := s.st.leaseState.collectExpiredDevices s.st.leaseDuration now :: s.collected }
  | .removeExpired deviceIds => s.removeExpired deviceIds
  | .deleteCheck deviceId =>
    if s.st.isDeviceOnline deviceId then s else { s with deleting := deviceId :: s.deleting }
  | .deleteRemove deviceId => s.deleteRemove deviceId

/-- A network after a load, without sessions. -/
def Fresh : Prop :=
  NetworkState.Loaded s.st ∧ s.traffic = ∅ ∧ s.live = [] ∧ s.dropping = [] ∧ s.collected = [] ∧
    s.deleting = [] ∧ s.history = []

/-- The sections of the session methods, in any order. -/
def sys : Sys SessionState SessionOp := .ofFun Fresh apply

/-! ## What is at an address -/

/-- The session at an address, by its random id. -/
def ridAt (ip : Ipv4Addr) : Option (BitVec 64) :=
  (s.st.onlineEndpoints.lookup ip).bind OnlineEndpoint.randomId?

/-- The queue of a VNT client at an address. -/
def channelAt (ip : Ipv4Addr) : Option Channel :=
  (s.st.senderMap.lookup ip).bind NetworkSender.channel?

/-- The device's entry. -/
def entryOf (deviceId : String) : Option DeviceEntry := s.st.leaseState.deviceMap.lookup deviceId

/-- Queue, endpoint and counters of a session are in place. -/
structure InPlace (n : OpenSession) : Prop where
  channel : s.channelAt n.session.ip = some n.sender
  endpoint : s.ridAt n.session.ip = some n.session.randomId
  traffic : s.traffic.lookup n.session.ip = some n.session.deviceId

/-- The newest registration of a device, by its random id. -/
def latest (deviceId : String) : Option (BitVec 64) :=
  (s.history.find? fun h => h.1 == deviceId).map Prod.snd

/-- The session is its device's current one. -/
def IsCurrent (n : OpenSession) : Prop :=
  n ∈ s.live ∧ s.latest n.session.deviceId = some n.session.randomId

variable {s}

/-! ## The methods of the lease state -/

section Lease

variable {l : NetworkStateInner}

/-- The end of a session finds its own id and address and sets the device offline, or does nothing. -/
theorem offlineIp_cases (x : Session) (networkCode : String) (now : SystemTime) :
    (∃ e e', l.deviceMap.lookup x.deviceId = some e ∧ e.randomId = x.randomId ∧
      e.ip = some x.ip ∧ e'.deviceId = x.deviceId ∧ e'.isConnected = false ∧
      e'.randomId = x.randomId ∧ e'.ip = some x.ip ∧
      (l.offlineIp networkCode x.deviceId x.ip x.randomId now).1.deviceMap = l.deviceMap.add e' ∧
      l.offlineIp networkCode x.deviceId x.ip x.randomId now =
        ((l.offlineIp networkCode x.deviceId x.ip x.randomId now).1,
          some (e'.toRecord networkCode))) ∨
    (∀ e, l.deviceMap.lookup x.deviceId = some e → e.randomId = x.randomId → e.ip ≠ some x.ip) ∧
      l.offlineIp networkCode x.deviceId x.ip x.randomId now = (l, none) := by
  unfold offlineIp
  cases he : l.deviceMap.lookup x.deviceId with
  | none => exact .inr ⟨nofun, rfl⟩
  | some e =>
    by_cases hr : e.randomId = x.randomId
    · by_cases hip : e.ip = some x.ip
      · dsimp only
        rw [if_neg (not_not.mpr hr), if_neg (not_not.mpr hip)]
        have hid : e.deviceId = x.deviceId := DeviceMap.deviceId_of_lookup he
        exact .inl ⟨e, { e with
          dataVersion := l.dataVersion + 1, isConnected := false, disconnectTime := some now },
          rfl, hr, hip, hid, rfl, hr, hip, rfl, rfl⟩
      · refine .inr ⟨fun e' h _ => by cases h; exact hip, ?_⟩
        dsimp only
        rw [if_neg (not_not.mpr hr), if_pos hip]
    · refine .inr ⟨fun e' h hr' => by cases h; exact absurd hr' hr, ?_⟩
      dsimp only
      rw [if_pos hr]

/-- The release of a pre-registered address finds its own id and address and removes the device, or
does nothing. -/
theorem release_cases (x : Session) :
    (∃ e, l.deviceMap.lookup x.deviceId = some e ∧ e.randomId = x.randomId ∧ e.ip = some x.ip ∧
      (l.releasePreRegisteredIp x.deviceId x.ip x.randomId).1.deviceMap =
        l.deviceMap.remove x.deviceId ∧
      l.releasePreRegisteredIp x.deviceId x.ip x.randomId =
        ((l.releasePreRegisteredIp x.deviceId x.ip x.randomId).1, true)) ∨
    (∀ e, l.deviceMap.lookup x.deviceId = some e → e.randomId = x.randomId → e.ip ≠ some x.ip) ∧
      l.releasePreRegisteredIp x.deviceId x.ip x.randomId = (l, false) := by
  unfold releasePreRegisteredIp
  cases he : l.deviceMap.lookup x.deviceId with
  | none => exact .inr ⟨nofun, rfl⟩
  | some e =>
    by_cases hc : e.randomId = x.randomId ∧ e.ip = some x.ip
    · dsimp only
      rw [if_pos hc]
      exact .inl ⟨e, rfl, hc.1, hc.2, rfl, rfl⟩
    · refine .inr ⟨fun e' h hr hip => ?_, ?_⟩
      · cases h
        exact hc ⟨hr, hip⟩
      · dsimp only
        rw [if_neg hc]

theorem lookup_removeDevice_foldl (ids : List String) (d : String) :
    (ids.foldl removeDevice l).deviceMap.lookup d =
      if d ∈ ids then none else l.deviceMap.lookup d := by
  induction ids generalizing l with
  | nil => rfl
  | cons k ids ih =>
    have hstep : (l.removeDevice k).deviceMap.lookup d =
        if d = k then none else l.deviceMap.lookup d := by
      unfold removeDevice
      split
      · rename_i hk
        split
        · rename_i hd
          rw [hd, hk]
        · rfl
      · exact DeviceMap.lookup_remove _ _ _
    rw [List.foldl_cons, ih, hstep]
    by_cases hd : d ∈ ids
    · rw [if_pos hd, if_pos (List.mem_cons_of_mem _ hd)]
    · simp only [List.mem_cons, hd, or_false, if_false]

/-- The listed devices go, the others stay. -/
theorem lookup_removeDevices (ids : List String) (d : String) :
    (l.removeDevices ids).deviceMap.lookup d = if d ∈ ids then none else l.deviceMap.lookup d := by
  unfold removeDevices
  split
  · rename_i h
    rw [h]
    rfl
  · exact lookup_removeDevice_foldl ids d

theorem lookup_removeDeviceFromMemory (k d : String) :
    (l.removeDeviceFromMemory k).1.deviceMap.lookup d =
      if d = k then none else l.deviceMap.lookup d := by
  unfold removeDeviceFromMemory
  split
  · rename_i hk
    split
    · rename_i hd
      rw [hd, hk]
    · rfl
  · exact DeviceMap.lookup_remove _ _ _

end Lease

end SessionState

end Vntc
