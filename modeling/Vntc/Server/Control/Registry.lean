import Vntc.Server.Control.Config
import Vntc.Server.Relay.Deliver

/-!
# The state of a network and its sessions

The sections of `register`, `get_or_create_network_state`, `update_network`, `delete_network` and
`release_network` (`server/control_server/service.rs`) that touch one network code, in any order.
Each step of the system is one of these sections: what a task does between two points at which
another task can run. The states ever created are kept in a list, and a session holds the number of
its state, as it holds an `Arc` in the source.

`register` reads the configuration, then takes the state from the provider, then waits for the
cluster, and only then allocates; the edits and the cleanup look for devices first and take the
state away later. Nothing ties the sections of one call together.
-/

namespace Vntc

open Lib NetworkState

abbrev StateId := Nat

abbrev TaskId := Nat

/-- How far a registration is. -/
inductive RegPhase
  | checked (isNew : Bool)
  | configured (isNew : Bool) (config : NetworkConfig)
  | inserted (config : NetworkConfig)
  /-- It found no state and waits for the lock of the network. -/
  | waiting (config : NetworkConfig)
  /-- It has the lock and loads the state. -/
  | creating (config : NetworkConfig)
  /-- It has the state and waits for the cluster. -/
  | ready (state : StateId)

structure Registration where
  req : RegRequestMsg
  phase : RegPhase

inductive EditKind
  | update (gateway : Ipv4Addr) (netmask : BitVec 8) (leaseDuration : Nat)
  | delete

/-- How far an edit is. -/
inductive EditPhase
  | started
  | noOwners
  | noDevices
  | stored
  /-- The configuration is written, the state not yet taken away. -/
  | written
  deriving DecidableEq

structure Edit where
  kind : EditKind
  source : NetworkSource
  phase : EditPhase

/-- How far the cleanup is with the network. -/
inductive CleanupPhase
  | found (state : StateId)
  | empty

structure LiveSession where
  session : Session
  stateId : StateId
  deriving DecidableEq

/-- Everything about one network code. -/
structure Registry where
  networkCode : String
  defaultNet : Ipv4Net
  defaultLeaseDuration : Nat
  /-- `db_nets` at the code. -/
  config : Option NetworkConfig
  /-- `network_state_provider` at the code. -/
  provider : Option StateId
  states : List NetworkState
  initLock : Option TaskId
  registrations : HashMap TaskId Registration
  sessions : List LiveSession
  edits : HashMap TaskId Edit
  cleanups : HashMap TaskId CleanupPhase

inductive RegistryOp
  | regStart (t : TaskId) (req : RegRequestMsg)
  | regConfig (t : TaskId)
  | regInsert (t : TaskId)
  | regGet (t : TaskId)
  | regLock (t : TaskId)
  | regCreate (t : TaskId) (devices : Option (List DeviceRecord))
      (allocations : Option (List WireGuardPeerIpAllocation)) (now : SystemTime)
  /-- `grant` is the answer of the cluster, if there is one. -/
  | regAllocate (t : TaskId) (grant : Option Ipv4Addr) (randomId : BitVec 64) (sender : Channel)
      (now : SystemTime)
  | regAbort (t : TaskId)
  | endSession (l : LiveSession) (now : SystemTime)
  | editStart (e : TaskId) (kind : EditKind)
  | editOwners (e : TaskId) (noOwners : Bool)
  | editCount (e : TaskId)
  | editStore (e : TaskId) (stored : Bool)
  | editConfig (e : TaskId)
  | editRemove (e : TaskId)
  | cleanupGet (k : TaskId)
  | cleanupCheck (k : TaskId)
  | cleanupRemove (k : TaskId) (idle : Bool)
  /-- A method of a state that someone still holds. -/
  | within (state : StateId) (op : NetworkOp)

/-- `is_empty` -/
def NetworkState.isEmpty (st : NetworkState) : Bool :=
  st.leaseState.deviceMap.values.isEmpty && st.leaseState.deviceIpMap.entries.isEmpty &&
    st.leaseState.wireguardPeerIpMap.entries.isEmpty

namespace Registry

variable (s : Registry)

def setPhase (t : TaskId) (req : RegRequestMsg) (phase : RegPhase) : Registry :=
  { s with registrations := s.registrations.insert t ⟨req, phase⟩ }

/-- The registration is over, and gives its lock back. -/
def endRegistration (t : TaskId) : Registry :=
  { s with
    registrations := s.registrations.erase t
    initLock := if s.initLock = some t then none else s.initLock }

def setState (id : StateId) (st : NetworkState) : Registry :=
  { s with states := s.states.set id st }

def setEdit (e : TaskId) (edit : Edit) (phase : EditPhase) : Registry :=
  { s with edits := s.edits.insert e { edit with phase } }

def endEdit (e : TaskId) : Registry := { s with edits := s.edits.erase e }

/-- The request with the address the cluster granted. -/
def grantedReq (req : RegRequestMsg) : Option Ipv4Addr → RegRequestMsg
  | some ip => { req with ip := some ip, ipVariable := false }
  | none => req

def regAllocate (t : TaskId) (req : RegRequestMsg) (id : StateId) (randomId : BitVec 64)
    (sender : Channel) (now : SystemTime) : Registry :=
  match s.states[id]? with
  | none => s
  | some st =>
    match st.allocateIpAndGetEntry req randomId sender now with
    | .error _ => s.endRegistration t
    | .ok (st', ip, _) =>
      { (s.endRegistration t).setState id st' with
        sessions := ⟨NetworkState.registerSession s.networkCode req ip randomId, id⟩ :: s.sessions }

/-- The write of `db_nets` by an edit; a netmask that is too great ends the edit here. -/
def editConfig (e : TaskId) (edit : Edit) : Registry :=
  match edit.kind with
  | .delete => { s.setEdit e edit .written with config := none }
  | .update gateway netmask leaseDuration =>
    match netBelow gateway netmask with
    | none => s.endEdit e
    | some net =>
      { s.setEdit e edit .written with config := some ⟨net, leaseDuration, edit.source⟩ }

/-- `count` of the provider's state is zero, if it has one. -/
def noDevices : Bool :=
  !(s.provider.bind (s.states[·]?)).any fun st => decide (0#32 < st.count.1)

def apply : RegistryOp → Registry
  | .regStart t req =>
    if (s.registrations.lookup t).isSome then s else s.setPhase t req (.checked s.config.isNone)
  | .regConfig t =>
    match s.registrations.lookup t with
    | some ⟨req, .checked isNew⟩ =>
      s.setPhase t req (.configured isNew
        (s.config.getD (.ofRegister s.defaultNet s.defaultLeaseDuration req.ip)))
    | _ => s
  | .regInsert t =>
    match s.registrations.lookup t with
    | some ⟨req, .configured isNew c⟩ =>
      { s.setPhase t req (.inserted c) with config := if isNew then some c else s.config }
    | _ => s
  | .regGet t =>
    match s.registrations.lookup t with
    | some ⟨req, .inserted c⟩ =>
      match s.provider with
      | some id => s.setPhase t req (.ready id)
      | none => s.setPhase t req (.waiting c)
    | _ => s
  | .regLock t =>
    match s.registrations.lookup t with
    | some ⟨req, .waiting c⟩ =>
      if s.initLock.isSome then s
      else match s.provider with
        | some id => s.setPhase t req (.ready id)
        | none => { s.setPhase t req (.creating c) with initLock := some t }
    | _ => s
  | .regCreate t devices allocations now =>
    match s.registrations.lookup t with
    | some ⟨req, .creating c⟩ =>
      { s.setPhase t req (.ready s.states.length) with
        states := s.states ++
          [.newFromDb s.networkCode c.net c.leaseDuration devices allocations now]
        provider := some s.states.length
        initLock := none }
    | _ => s
  | .regAllocate t grant randomId sender now =>
    match s.registrations.lookup t with
    | some ⟨req, .ready id⟩ => s.regAllocate t (grantedReq req grant) id randomId sender now
    | _ => s
  | .regAbort t => s.endRegistration t
  | .endSession l now =>
    if s.sessions.contains l then
      match s.states[l.stateId]? with
      | none => s
      | some st =>
        { s.setState l.stateId (st.dropSession l.session now) with sessions := s.sessions.erase l }
    else s
  | .editStart e kind =>
    match s.edits.lookup e, s.config with
    | none, some c => s.setEdit e ⟨kind, c.source, .started⟩ .started
    | _, _ => s
  | .editOwners e noOwners =>
    match s.edits.lookup e with
    | some ⟨kind, source, .started⟩ =>
      if noOwners then s.setEdit e ⟨kind, source, .started⟩ .noOwners else s.endEdit e
    | _ => s
  | .editCount e =>
    match s.edits.lookup e with
    | some ⟨kind, source, .noOwners⟩ =>
      if s.noDevices then s.setEdit e ⟨kind, source, .noOwners⟩ .noDevices else s.endEdit e
    | _ => s
  | .editStore e stored =>
    match s.edits.lookup e with
    | some ⟨kind, source, .noDevices⟩ =>
      if stored then s.setEdit e ⟨kind, source, .noDevices⟩ .stored else s.endEdit e
    | _ => s
  | .editConfig e =>
    match s.edits.lookup e with
    | some ⟨kind, source, .stored⟩ => s.editConfig e ⟨kind, source, .stored⟩
    | _ => s
  | .editRemove e =>
    match s.edits.lookup e with
    | some ⟨_, _, .written⟩ => { s.endEdit e with provider := none }
    | _ => s
  | .cleanupGet k =>
    match s.provider with
    | some id => { s with cleanups := s.cleanups.insert k (.found id) }
    | none => s
  | .cleanupCheck k =>
    match s.cleanups.lookup k with
    | some (.found id) =>
      if (s.states[id]?).any NetworkState.isEmpty then
        { s with cleanups := s.cleanups.insert k .empty }
      else { s with cleanups := s.cleanups.erase k }
    | _ => s
  | .cleanupRemove k idle =>
    match s.cleanups.lookup k with
    | some .empty =>
      { s with
        cleanups := s.cleanups.erase k
        provider := if idle then none else s.provider }
    | _ => s
  | .within id op =>
    match s.states[id]? with
    | some st => s.setState id (st.apply op)
    | none => s

/-! ## The condition -/

/-- No registration is in flight and no session is live. -/
def Quiet : Prop := s.registrations.entries.isEmpty = true ∧ s.sessions.isEmpty = true

instance : Decidable s.Quiet := inferInstanceAs (Decidable (_ ∧ _))

/-- Some edit has written the configuration and not yet taken the state away. -/
def editing : Bool := (HashMap.values s.edits).any (·.phase == .written)

/-- The network that a first registration is about to write. -/
def pendingNet (t : TaskId) : Option Ipv4Net :=
  match s.registrations.lookup t with
  | some ⟨_, .configured true c⟩ => some c.net
  | _ => none

/-- No registration is in flight and no session is live when an edit writes the configuration or
when a state is taken away; none starts inside an edit; and two first registrations in flight do not
ask for different networks. -/
def Careful : RegistryOp → Prop
  | .regStart _ _ => s.editing = false
  | .regInsert t => ∀ net ∈ s.pendingNet t, ∀ c ∈ s.config, c.net = net
  | .editConfig _ | .editRemove _ | .cleanupRemove _ _ => s.Quiet
  | _ => True

instance : ∀ op, Decidable (s.Careful op)
  | .regStart _ _ => inferInstanceAs (Decidable (_ = _))
  | .regInsert t => inferInstanceAs (Decidable (∀ net ∈ s.pendingNet t, ∀ c ∈ s.config, c.net = net))
  | .editConfig _ | .editRemove _ | .cleanupRemove _ _ => inferInstanceAs (Decidable s.Quiet)
  | .regConfig _ | .regGet _ | .regLock _ | .regCreate .. | .regAllocate .. | .regAbort _
  | .endSession .. | .editStart .. | .editOwners .. | .editCount _ | .editStore .. | .cleanupGet _
  | .cleanupCheck _ | .within .. => inferInstanceAs (Decidable True)

/-- Before the first registration: no states, no tasks, and any configuration. -/
def Fresh : Prop :=
  s.provider = none ∧ s.states = [] ∧ s.initLock = none ∧ s.registrations = ∅ ∧ s.sessions = [] ∧
    s.edits = ∅ ∧ s.cleanups = ∅

/-! ## The invariant -/

/-- The configuration has the network. -/
def NetIs (net : Ipv4Net) : Prop := ∃ c, s.config = some c ∧ c.net = net

/-- What a registration has found is still so. -/
def PhaseOk (t : TaskId) : RegPhase → Prop
  | .checked isNew => isNew = false → s.config.isSome
  | .configured isNew c => isNew = false → s.NetIs c.net
  | .inserted c | .waiting c => s.NetIs c.net
  | .creating c => s.NetIs c.net ∧ s.provider = none ∧ s.initLock = some t
  | .ready id => s.provider = some id

structure Inv : Prop where
  phases : ∀ t r, s.registrations.lookup t = some r → s.PhaseOk t r.phase
  sessions : ∀ l ∈ s.sessions, s.provider = some l.stateId
  provider : ∀ id, s.provider = some id →
    ∃ st, s.states[id]? = some st ∧ (s.editing = false → s.NetIs st.net)
  editing : s.editing = true → s.Quiet

variable {s} {t : TaskId} {r : Registration}

theorem Quiet.lookup (h : s.Quiet) : s.registrations.lookup t ≠ some r := by
  intro ht
  have hm := HashMap.mem_entries.mpr ht
  rw [List.isEmpty_iff.mp h.1] at hm
  cases hm

theorem Quiet.not_mem (h : s.Quiet) {l : LiveSession} : l ∉ s.sessions := by
  rw [List.isEmpty_iff.mp h.2]
  exact List.not_mem_nil

theorem editing_iff : s.editing = true ↔
    ∃ e edit, s.edits.lookup e = some edit ∧ edit.phase = .written := by
  simp only [editing, List.any_eq_true, HashMap.mem_values, beq_iff_eq]
  constructor
  · rintro ⟨edit, ⟨e, he⟩, hp⟩
    exact ⟨e, edit, he, hp⟩
  · rintro ⟨e, edit, he, hp⟩
    exact ⟨edit, ⟨e, he⟩, hp⟩

namespace Inv

variable (hi : s.Inv)
include hi

theorem not_editing (ht : s.registrations.lookup t = some r) : s.editing = false := by
  cases he : s.editing with
  | false => rfl
  | true => exact absurd ht (hi.editing he).lookup

/-- A registration moves on. -/
theorem setPhase (he : s.editing = false) (req : RegRequestMsg) {phase : RegPhase}
    (hp : s.PhaseOk t phase) : (s.setPhase t req phase).Inv where
  phases t' r hr := by
    change (s.registrations.insert t ⟨req, phase⟩).lookup t' = some r at hr
    rcases HashMap.lookup_insert_cases hr with ⟨h, rfl⟩ | ⟨-, hr⟩
    · rw [h]
      exact hp
    · exact hi.phases t' r hr
  sessions := hi.sessions
  provider := hi.provider
  editing h := by
    change s.editing = true at h
    rw [he] at h
    cases h

theorem endRegistration (t : TaskId) : (s.endRegistration t).Inv where
  phases t' r hr := by
    change (s.registrations.erase t).lookup t' = some r at hr
    obtain ⟨hne, hr⟩ := HashMap.lookup_erase_some.mp hr
    have hp := hi.phases t' r hr
    cases hph : r.phase with
    | creating c =>
      rw [hph] at hp
      obtain ⟨hn, hnone, hl⟩ := hp
      refine ⟨hn, hnone, ?_⟩
      change (if s.initLock = some t then none else s.initLock) = some t'
      rw [hl, if_neg fun h => hne (Option.some_inj.mp h)]
    | _ => rw [hph] at hp; exact hp
  sessions := hi.sessions
  provider := hi.provider
  editing h := by
    obtain ⟨hr, hs⟩ := hi.editing h
    refine ⟨?_, hs⟩
    change (s.registrations.entries.kerase t).isEmpty = true
    rw [List.isEmpty_iff.mp hr]
    rfl

/-- A state changes, but not its network. -/
theorem setState {id : StateId} {st st' : NetworkState} (hst : s.states[id]? = some st)
    (hn : st'.net = st.net) : (s.setState id st').Inv where
  phases := hi.phases
  sessions := hi.sessions
  provider id' h := by
    obtain ⟨x, hx, hnet⟩ := hi.provider id' h
    change ∃ y, (s.states.set id st')[id']? = some y ∧ _
    by_cases he : id = id'
    · subst he
      rw [hst] at hx
      cases hx
      obtain ⟨hlt, -⟩ := List.getElem?_eq_some_iff.mp hst
      exact ⟨st', List.getElem?_set_self hlt, fun hed => hn ▸ hnet hed⟩
    · exact ⟨x, by rw [List.getElem?_set_ne he]; exact hx, hnet⟩
  editing := hi.editing

/-- A configuration with the same network is written, or the first one. -/
theorem setConfig {c : NetworkConfig} (hc : ∀ c', s.config = some c' → c'.net = c.net) :
    ({ s with config := some c } : Registry).Inv := by
  have hnet : ∀ {net}, s.NetIs net → ({ s with config := some c } : Registry).NetIs net := by
    rintro net ⟨c', hc', rfl⟩
    exact ⟨c, rfl, (hc c' hc').symm⟩
  refine ⟨fun t r hr => ?_, hi.sessions, fun id h => ?_, hi.editing⟩
  · have hp := hi.phases t r hr
    cases hph : r.phase with
    | checked isNew => exact fun _ => rfl
    | configured isNew c' => rw [hph] at hp; exact fun h => hnet (hp h)
    | inserted c' | waiting c' => rw [hph] at hp; exact hnet hp
    | creating c' => rw [hph] at hp; exact ⟨hnet hp.1, hp.2⟩
    | ready id => rw [hph] at hp; exact hp
  · obtain ⟨st, hst, hn⟩ := hi.provider id h
    exact ⟨st, hst, fun he => hnet (hn he)⟩

/-- The edits move, none into or out of the window between its two writes. -/
theorem setEdits {edits : HashMap TaskId Edit}
    (he : ({ s with edits } : Registry).editing = s.editing) : ({ s with edits } : Registry).Inv where
  phases := hi.phases
  sessions := hi.sessions
  provider id h := by
    obtain ⟨st, hst, hn⟩ := hi.provider id h
    exact ⟨st, hst, fun h' => hn (he ▸ h')⟩
  editing h := hi.editing (he ▸ h)

end Inv

/-- With nothing in flight only the provider's state is left to look at. -/
theorem Inv.of_quiet (hq : s.Quiet) (hp : ∀ id, s.provider = some id →
    ∃ st, s.states[id]? = some st ∧ (s.editing = false → s.NetIs st.net)) : s.Inv where
  phases _ _ hr := absurd hr hq.lookup
  sessions _ hl := absurd hl hq.not_mem
  provider := hp
  editing _ := hq

/-! ## Steps -/

/-- The network of a state stays as it was when a session ends. -/
theorem net_dropSession (st : NetworkState) (session : Session) (now : SystemTime) :
    (st.dropSession session now).net = st.net := by
  unfold dropSession
  split
  · exact net_effect
      (apply_effect (.offline session.deviceId session.ip session.randomId now))
  · exact net_effect (apply_effect
      (.releasePreRegistered session.deviceId session.ip session.randomId))

/-- An edit that is not between its two writes is put, moved or ended. -/
theorem editing_eq {edits : HashMap TaskId Edit} {e : TaskId}
    (hother : ∀ e', e' ≠ e → edits.lookup e' = s.edits.lookup e')
    (hnew : ∀ x, edits.lookup e = some x → x.phase ≠ .written)
    (hold : ∀ x, s.edits.lookup e = some x → x.phase ≠ .written) :
    ({ s with edits } : Registry).editing = s.editing := by
  rw [Bool.eq_iff_iff, editing_iff, editing_iff]
  refine exists_congr fun e' => exists_congr fun x => ?_
  by_cases he : e' = e
  · subst he
    exact iff_of_false (fun h => hnew x h.1 h.2) fun h => hold x h.1 h.2
  · rw [hother e' he]

namespace Inv

variable (hi : s.Inv)
include hi

variable {e : TaskId} {req : RegRequestMsg} {c : NetworkConfig}

theorem moveEdit {old : Edit} {phase : EditPhase} (ho : s.edits.lookup e = some old)
    (hold : old.phase ≠ .written) (hnew : phase ≠ .written) : (s.setEdit e old phase).Inv :=
  hi.setEdits (editing_eq (e := e) (fun _ he => by simp [he]) (by simp [hnew]) (by simp [ho, hold]))

theorem endEdit {old : Edit} (ho : s.edits.lookup e = some old)
    (hold : old.phase ≠ .written) : (s.endEdit e).Inv :=
  hi.setEdits (editing_eq (e := e) (fun _ he => by simp [he]) (by simp) (by simp [ho, hold]))

theorem regStart (hc : s.Careful (.regStart t req)) : (s.apply (.regStart t req)).Inv := by
  simp only [apply]
  split
  · exact hi
  · refine hi.setPhase hc req fun h => ?_
    rw [← Option.not_isNone, h]
    rfl

theorem regConfig (t : TaskId) : (s.apply (.regConfig t)).Inv := by
  simp only [apply]
  split
  · rename_i req isNew ht
    refine hi.setPhase (hi.not_editing ht) req fun hnew => ?_
    obtain ⟨c, hc⟩ := Option.isSome_iff_exists.mp (hi.phases t _ ht hnew)
    exact ⟨c, hc, by rw [hc, Option.getD_some]⟩
  · exact hi

theorem regInsert (hc : s.Careful (.regInsert t)) : (s.apply (.regInsert t)).Inv := by
  simp only [apply]
  split
  · rename_i req isNew c ht
    have he := hi.not_editing ht
    cases isNew with
    | false => exact hi.setPhase he req (hi.phases t _ ht rfl)
    | true =>
      have hp : s.pendingNet t = some c.net := by rw [pendingNet, ht]
      have hi' := hi.setConfig (c := c) fun c' hc' => hc c.net hp c' hc'
      exact hi'.setPhase he req ⟨c, rfl, rfl⟩
  · exact hi

theorem regGet (t : TaskId) : (s.apply (.regGet t)).Inv := by
  simp only [apply]
  split
  · rename_i req c ht
    split
    · rename_i id hid
      exact hi.setPhase (hi.not_editing ht) req hid
    · exact hi.setPhase (hi.not_editing ht) req (hi.phases t _ ht)
  · exact hi

/-- The lock is free, so no other registration creates the state. -/
theorem setLock (hl : s.initLock = none) : ({ s with initLock := some t } : Registry).Inv := by
  refine ⟨fun t' r hr => ?_, hi.sessions, hi.provider, hi.editing⟩
  have hph := hi.phases t' r hr
  cases hr' : r.phase with
  | creating c' =>
    rw [hr', PhaseOk, hl] at hph
    cases hph.2.2
  | _ => rw [hr'] at hph; exact hph

theorem regLock (t : TaskId) : (s.apply (.regLock t)).Inv := by
  simp only [apply]
  split
  · rename_i req c ht
    have he := hi.not_editing ht
    split
    · exact hi
    · rename_i hl
      split
      · rename_i id hid
        exact hi.setPhase he req hid
      · rename_i hp
        exact (hi.setLock (by simpa using hl)).setPhase he req ⟨hi.phases t _ ht, hp, rfl⟩
  · exact hi

/-- Before the state is there, nobody has it: no session, and no registration past the lookup. -/
theorem created (ht : s.registrations.lookup t = some ⟨req, .creating c⟩) (st : NetworkState)
    (hn : st.net = c.net) :
    ({ s.setPhase t req (.ready s.states.length) with
      states := s.states ++ [st]
      provider := some s.states.length
      initLock := none } : Registry).Inv := by
  obtain ⟨hnet, hnone, hlock⟩ := hi.phases t _ ht
  have he := hi.not_editing ht
  have hlast : (s.states ++ [st])[s.states.length]? = some st := List.getElem?_concat_length
  refine ⟨fun t' r hr => ?_, fun l hl => ?_, fun id h => ?_, fun h => ?_⟩
  · change (s.registrations.insert t _).lookup t' = some r at hr
    rcases HashMap.lookup_insert_cases hr with ⟨-, rfl⟩ | ⟨hne, hr⟩
    · rfl
    · have hph := hi.phases t' r hr
      cases hr' : r.phase with
      | creating c' =>
        rw [hr', PhaseOk, hlock] at hph
        exact absurd (Option.some_inj.mp hph.2.2).symm hne
      | ready id =>
        rw [hr', PhaseOk, hnone] at hph
        cases hph
      | _ => rw [hr'] at hph; exact hph
  · have hs := hi.sessions l hl
    rw [hnone] at hs
    cases hs
  · cases h
    exact ⟨st, hlast, fun _ => hn ▸ hnet⟩
  · change s.editing = true at h
    rw [he] at h
    cases h

theorem regAllocate (t : TaskId) (grant : Option Ipv4Addr) (randomId : BitVec 64)
    (sender : Channel) (now : SystemTime) :
    (s.apply (.regAllocate t grant randomId sender now)).Inv := by
  simp only [apply]
  split
  swap
  · exact hi
  rename_i req id ht
  unfold Registry.regAllocate
  split
  · exact hi
  · rename_i st hst
    split
    · exact hi.endRegistration t
    · rename_i st' ip rest hok
      obtain ⟨old, entry⟩ := rest
      have hn : st'.net = st.net := by
        rw [(allocateIpAndGetEntry_ok hok).2]
        rfl
      have hi' := (hi.endRegistration t).setState hst hn
      refine ⟨hi'.phases, fun l hl => ?_, hi'.provider, fun h => ?_⟩
      · rcases List.mem_cons.mp hl with rfl | hl
        · exact hi.phases t _ ht
        · exact hi.sessions l hl
      · change s.editing = true at h
        rw [hi.not_editing ht] at h
        cases h

theorem endSession (l : LiveSession) (now : SystemTime) : (s.apply (.endSession l now)).Inv := by
  simp only [apply]
  split
  swap
  · exact hi
  split
  · exact hi
  · rename_i hst
    have hi' := hi.setState hst (net_dropSession _ l.session now)
    refine ⟨hi'.phases, fun x hx => hi.sessions x (List.mem_of_mem_erase hx), hi'.provider,
      fun h => ?_⟩
    obtain ⟨hr, hs⟩ := hi.editing h
    refine ⟨hr, ?_⟩
    change (s.sessions.erase l).isEmpty = true
    rw [List.isEmpty_iff.mp hs]
    rfl

theorem editStart (e : TaskId) (kind : EditKind) : (s.apply (.editStart e kind)).Inv := by
  simp only [apply]
  split
  · rename_i hnone _
    refine hi.setEdits (editing_eq (e := e) (fun _ he => by simp [he]) (by simp) fun x hx => ?_)
    rw [hnone] at hx
    cases hx
  · exact hi

theorem editConfig (hq : s.Quiet) (e : TaskId) : (s.apply (.editConfig e)).Inv := by
  have hwritten : ∀ edit config, ({ s.setEdit e edit .written with config } : Registry).Inv := by
    intro edit config
    refine .of_quiet hq fun id h => ?_
    obtain ⟨st, hst, -⟩ := hi.provider id h
    have hed : ({ s.setEdit e edit .written with config } : Registry).editing = true :=
      editing_iff.mpr ⟨e, { edit with phase := .written }, AList.lookup_insert _, rfl⟩
    exact ⟨st, hst, fun h' => by rw [hed] at h'; cases h'⟩
  simp only [apply]
  split
  swap
  · exact hi
  rename_i ho
  unfold Registry.editConfig
  split
  · exact hwritten _ none
  · split
    · exact hi.endEdit ho (by simp)
    · exact hwritten _ _

theorem setCleanups (cleanups : HashMap TaskId CleanupPhase) :
    ({ s with cleanups } : Registry).Inv :=
  ⟨hi.phases, hi.sessions, hi.provider, hi.editing⟩

end Inv

theorem inv_of_fresh (h : s.Fresh) : s.Inv := by
  obtain ⟨hp, -, -, hr, hs, he, -⟩ := h
  refine .of_quiet ⟨by rw [hr]; rfl, by rw [hs]; rfl⟩ fun id h => ?_
  rw [hp] at h
  cases h

theorem Inv.step (hi : s.Inv) {op : RegistryOp} (hc : s.Careful op) : (s.apply op).Inv := by
  cases op with
  | regStart => exact hi.regStart hc
  | regConfig t => exact hi.regConfig t
  | regInsert => exact hi.regInsert hc
  | regGet t => exact hi.regGet t
  | regLock t => exact hi.regLock t
  | regCreate t devices allocations now =>
    simp only [apply]
    split
    · rename_i ht
      exact hi.created ht _ rfl
    · exact hi
  | regAllocate t grant randomId sender now => exact hi.regAllocate t grant randomId sender now
  | regAbort t => exact hi.endRegistration t
  | endSession l now => exact hi.endSession l now
  | editStart e kind => exact hi.editStart e kind
  | editOwners e noOwners | editCount e | editStore e stored =>
    simp only [apply]
    split
    · rename_i he
      split
      · exact hi.moveEdit he (by simp) (by simp)
      · exact hi.endEdit he (by simp)
    · exact hi
  | editConfig e => exact hi.editConfig hc e
  | editRemove e =>
    simp only [apply]
    split
    · exact .of_quiet hc nofun
    · exact hi
  | cleanupGet k =>
    simp only [apply]
    split
    · exact hi.setCleanups _
    · exact hi
  | cleanupCheck k =>
    simp only [apply]
    split
    · split <;> exact hi.setCleanups _
    · exact hi
  | cleanupRemove k idle =>
    simp only [apply]
    split
    · cases idle with
      | false => exact hi.setCleanups _
      | true => exact .of_quiet hc nofun
    · exact hi
  | within id op =>
    simp only [apply]
    split
    · rename_i hst
      exact hi.setState hst (net_effect (apply_effect op))
    · exact hi

/-! ## Runs -/

/-- The sections of one network code, in any order. -/
def sys : Sys Registry RegistryOp := .ofFun Fresh apply

theorem inv_of_reach (h : sys.ReachWith Careful s) : s.Inv :=
  h.invariant_of (fun _ => inv_of_fresh) fun _ _ hi hc => hi.step hc

/-- Every live session is in the state the provider returns, whose network is the configured one, so
a frame to the address of another session finds what that session's state has there. -/
structure OneState (s : Registry) : Prop where
  provider : ∀ l ∈ s.sessions, s.provider = some l.stateId
  net : ∀ l ∈ s.sessions, ∃ st c, s.states[l.stateId]? = some st ∧ s.config = some c ∧
    st.net = c.net
  deliver : ∀ a ∈ s.sessions, ∀ b ∈ s.sessions, ∀ sa sb, s.states[a.stateId]? = some sa →
    s.states[b.stateId]? = some sb → ∀ data kind endpoint sender,
    (NetPacket.new data).bind NetPacket.msgType = some kind →
    sb.onlineEndpoints.lookup b.session.ip = some endpoint →
    sb.senderMap.lookup b.session.ip = some sender → allowed kind .vnt endpoint = true →
    sa.tryDeliver b.session.ip data .vnt = .sent ⟨b.session.ip, sender, data⟩

theorem Inv.oneState (hi : s.Inv) : s.OneState where
  provider := hi.sessions
  net l hl := by
    obtain ⟨st, hst, hn⟩ := hi.provider _ (hi.sessions l hl)
    have he : s.editing = false := by
      cases he : s.editing with
      | false => rfl
      | true => exact absurd hl (hi.editing he).not_mem
    obtain ⟨c, hc, hnet⟩ := hn he
    exact ⟨st, c, hst, hc, hnet.symm⟩
  deliver a ha b hb sa sb hsa hsb data kind endpoint sender hk he hs hall := by
    have hid : a.stateId = b.stateId :=
      Option.some_inj.mp ((hi.sessions a ha).symm.trans (hi.sessions b hb))
    rw [hid, hsb] at hsa
    cases hsa
    simp only [tryDeliver, he, hk, hall, if_true, hs]

/-- In every run whose steps are careful there is one state for all live sessions. -/
theorem oneState_of_careful (h : sys.ReachWith Careful s) : s.OneState := (inv_of_reach h).oneState

/-- A network code before its first registration. -/
def start (config : Option NetworkConfig) : Registry where
  networkCode := "office"
  defaultNet := Vntc.defaultNet
  defaultLeaseDuration := oneDay
  config := config
  provider := none
  states := []
  initLock := none
  registrations := ∅
  sessions := []
  edits := ∅
  cleanups := ∅

theorem start_fresh (config : Option NetworkConfig) : (start config).Fresh :=
  ⟨rfl, rfl, rfl, rfl, rfl, rfl, rfl⟩

/-- The sections of a registration up to its wait for the cluster, if it has to create the state. -/
def registerFirst (t : TaskId) (deviceId : String) : List RegistryOp :=
  [.regStart t (anyIpReq deviceId none), .regConfig t, .regInsert t, .regGet t,
    .regLock t, .regCreate t none none 0]

/-- Two devices register one after the other. -/
def twoDevices : List RegistryOp :=
  registerFirst 0 "laptop" ++ [.regAllocate 0 none 7 0 0] ++
    [.regStart 1 (anyIpReq "tablet" none), .regConfig 1, .regInsert 1, .regGet 1,
      .regAllocate 1 none 9 1 0]

theorem oneState_two_devices :
    (twoDevices.foldl apply (start none)).sessions.map (·.session.deviceId) = ["tablet", "laptop"] ∧
      (twoDevices.foldl apply (start none)).OneState :=
  ⟨by decide, oneState_of_careful (Sys.ReachWith.foldl
    (Sys.ReachWith.init (S := sys) (C := Careful) (start_fresh none)) (by decide))⟩

/-- While the laptop waits for the cluster, the network is moved to 10.27.0.0/24. No device is
there yet, so the edit is accepted; the laptop then allocates in the state that was taken away. -/
def overtaken : List RegistryOp :=
  registerFirst 0 "laptop" ++
    [.editStart 1 (.update (Ipv4Addr.new 10 27 0 1) 24#8 oneDay), .editOwners 1 true, .editCount 1,
      .editStore 1 true, .editConfig 1, .editRemove 1, .regAllocate 0 none 7 0 0] ++
    registerFirst 2 "tablet" ++ [.regAllocate 2 none 9 1 0]

/-- The laptop's session is live in a state that the provider no longer returns, with another network
than the configured one, and finds nothing at the tablet's address. -/
theorem registration_overtaken_by_edit :
    ∃ s, sys.Reach s ∧ s.sessions.map (fun l => (l.session.deviceId, l.session.ip, l.stateId)) =
        [("tablet", Ipv4Addr.new 10 27 0 2, 1), ("laptop", homeIp 2, 0)] ∧
      s.provider = some 1 ∧
      (s.states[0]?).map (·.tryDeliver (Ipv4Addr.new 10 27 0 2) [] .vnt) = some .notFound ∧
      ¬ s.OneState := by
  refine ⟨overtaken.foldl apply (start (some ⟨Vntc.defaultNet, oneDay, .manual⟩)),
    Sys.Reach.foldl (Sys.Reach.init (S := sys) (start_fresh _)) _, by decide, by decide, by decide,
    fun h => ?_⟩
  have hall : ∀ l ∈ (overtaken.foldl apply
      (start (some ⟨Vntc.defaultNet, oneDay, .manual⟩))).sessions, l.stateId = 1 :=
    fun l hl => (Option.some_inj.mp (h.provider l hl)).symm
  exact absurd hall (by decide)

end Registry

end Vntc
