import Mathlib.Data.Finset.Basic
import Vntc.Lib.HashMap
import Vntc.Lib.Ipv4
import Vntc.Lib.Sys

/-!
# The end of the agent

`run_target` and `main` of `wireguard-agent/src/main.rs`. A task puts a peer on the interface with
`wg.probe`, and records it in `managed` when it gets the lock. At Ctrl-C, `main` aborts the tasks,
and removes the peers that are recorded. An abort stops a task at the next place where it waits, and
does not stop the `wg` process that the task has started.
-/

namespace Vntc

open Lib

/-- A `wg` process that changes the interface. `probe` and `activate` are both a `wg set`. -/
inductive WgCommand
  | set (publicKey : String)
  | remove (publicKey : String)
  deriving DecidableEq

/-- Where the task of a target is, as far as its peer is concerned. -/
inductive AgentPhase
  /-- Up to the lease of the next round, and the lock to read the recorded peer. -/
  | idle
  /-- At the removal of another recorded peer. -/
  | replacing (publicKey : String)
  | probing (publicKey : String)
  /-- After `probe` has added the peer, up to the lock to record it. -/
  | probed (publicKey : String)
  /-- The peer is recorded; up to its handshake. -/
  | confirming (publicKey : String)
  | activating (publicKey : String)
  /-- No handshake came: at the removal of the peer, and up to the lock to forget it. -/
  | expiring
  /-- A step failed: up to the lock to take the recorded peer out. -/
  | failed
  /-- At the removal of a peer that was taken out of `managed`. -/
  | removing (publicKey : String)
  deriving DecidableEq

/-- The task can start a `wg set` before it waits again. -/
def AgentPhase.adds : AgentPhase → Bool
  | .idle | .replacing _ | .confirming _ => true
  | _ => false

/-- The interface, the tasks of the targets, and `main`. -/
structure AgentState where
  /-- The peers that the agent has on the interface. -/
  peers : Finset String
  managed : HashMap Ipv4Addr String
  phase : Ipv4Addr → AgentPhase
  /-- The process that the task of a target has started, while it runs. -/
  child : Ipv4Addr → Option WgCommand
  /-- The task of a target runs, and does not wait. -/
  polled : Ipv4Addr → Bool
  aborted : Bool
  /-- What `main` has drained from `managed` and not removed yet. -/
  rest : Option (List String)

/-- What a task that runs does next. -/
inductive TaskStep
  /-- It waits, for the lock or for something else. -/
  | wait
  /-- It has a lease and the lock. -/
  | discovered (publicKey : String)
  | probe
  | record
  | activate
  | timedOut
  | forget
  | fail
  | takeOut
  /-- The round is over. -/
  | sleep

/-- A step of `main`, of a task or of a process. -/
inductive AgentStep
  | ctrlC
  | drain
  /-- `main` removes the next peer. -/
  | remove
  /-- What a task waits for is there. -/
  | wake (target : Ipv4Addr)
  /-- A process ends; a `wg remove` succeeds. -/
  | ends (target : Ipv4Addr) (success : Bool)
  | task (target : Ipv4Addr) (step : TaskStep)

namespace AgentState

variable (s : AgentState)

/-- The task goes on in a phase. -/
def enter (target : Ipv4Addr) (phase : AgentPhase) : AgentState :=
  { s with phase := Function.update s.phase target phase }

/-- The task waits. -/
def pause (target : Ipv4Addr) : AgentState :=
  { s with polled := Function.update s.polled target false }

/-- The task starts a process and waits for its end. -/
def start (target : Ipv4Addr) (command : WgCommand) : AgentState :=
  { s with child := Function.update s.child target (some command) }.pause target

/-- The task of `run_target`, from where it is to the next phase or the next place to wait. -/
def taskStep (target : Ipv4Addr) (step : TaskStep) : AgentState :=
  match s.phase target, step with
  | _, .wait => s.pause target
  | .idle, .discovered publicKey =>
    match s.managed.lookup target with
    | some previous =>
      if previous = publicKey then s.enter target (.replacing publicKey)
      else (s.enter target (.replacing publicKey)).start target (.remove previous)
    | none => s.enter target (.replacing publicKey)
  | .replacing publicKey, .probe => (s.enter target (.probing publicKey)).start target (.set publicKey)
  -- The next step starts `wg show`.
  | .probed publicKey, .record =>
    ({ s with managed := s.managed.insert target publicKey }.enter target
      (.confirming publicKey)).pause target
  | .confirming publicKey, .activate =>
    (s.enter target (.activating publicKey)).start target (.set publicKey)
  | .confirming publicKey, .timedOut => (s.enter target .expiring).start target (.remove publicKey)
  | .expiring, .forget => { s with managed := s.managed.erase target }.enter target .failed
  | .idle, .fail | .probing _, .fail | .confirming _, .fail | .activating _, .fail =>
    s.enter target .failed
  | .failed, .takeOut =>
    match s.managed.lookup target with
    | some publicKey =>
      ({ s with managed := s.managed.erase target }.enter target (.removing publicKey)).start target
        (.remove publicKey)
    | none => (s.enter target .idle).pause target
  | .activating _, .sleep | .removing _, .sleep => (s.enter target .idle).pause target
  | _, _ => s

/-- The process of a task ends. A `wg set` that succeeds adds the peer, also one that another task
with the same key has removed. -/
def endChild (target : Ipv4Addr) (success : Bool) : AgentState :=
  let s' := { s with child := Function.update s.child target none }
  match s.child target with
  | some (.set publicKey) =>
    if success then
      let added := { s' with peers := insert publicKey s.peers }
      if s.phase target = .probing publicKey then added.enter target (.probed publicKey) else added
    else s'
  | some (.remove publicKey) => { s' with peers := s.peers.erase publicKey }
  | none => s

/-- The state after a step. -/
def apply : AgentStep → AgentState
  | .ctrlC => { s with aborted := true }
  | .drain =>
    if s.aborted = true ∧ s.rest = none then
      { s with managed := ∅, rest := some s.managed.values }
    else s
  | .remove =>
    match s.rest with
    | some (publicKey :: rest) => { s with peers := s.peers.erase publicKey, rest := some rest }
    | _ => s
  -- A task that is aborted while it waits does not run again.
  | .wake target =>
    if s.aborted = false ∧ s.child target = none then
      { s with polled := Function.update s.polled target true }
    else s
  | .ends target success => s.endChild target success
  | .task target step => if s.polled target = true then s.taskStep target step else s

/-- The agent before its first lease. -/
def initial : AgentState := ⟨∅, ∅, fun _ => .idle, fun _ => none, fun _ => false, false, none⟩

/-- The runs of the agent. -/
def sys : Sys AgentState AgentStep := .ofFun (· = initial) apply

/-- However it goes on after `managed` is drained, no peer is left once `main` has returned. -/
def Clean : Prop :=
  ∀ steps : List AgentStep, (steps.foldl apply (s.apply .drain)).rest = some [] →
    (steps.foldl apply (s.apply .drain)).peers = ∅

/-- The task has put the peer on the interface and not recorded it yet, or has taken it out of
`managed` and not removed it yet. -/
def Loose (target : Ipv4Addr) (publicKey : String) : Prop :=
  s.phase target = .probed publicKey ∨
    s.phase target = .removing publicKey ∧ s.child target = some (.remove publicKey)

/-- The task has not removed the peer that is recorded for it. -/
def Keeps (target : Ipv4Addr) (publicKey : String) : Prop :=
  match s.phase target with
  | .replacing next => next = publicKey ∨ s.child target = some (.remove publicKey)
  | .probing next | .probed next => next = publicKey
  | .expiring => s.child target = some (.remove publicKey)
  | _ => True

/-- The task answers for the peer. -/
def Owns (target : Ipv4Addr) (publicKey : String) : Prop :=
  (s.managed.lookup target = some publicKey ∧ s.Keeps target publicKey) ∨ s.Loose target publicKey

/-- Up to the drain, each peer has a task that answers for it. -/
def Answered : Prop := s.rest = none → ∀ publicKey ∈ s.peers, ∃ target, s.Owns target publicKey

/-- The invariant. -/
structure Inv : Prop where
  waits : ∀ target, s.polled target = true → s.child target = none
  child_set : ∀ target publicKey, s.child target = some (.set publicKey) →
    s.phase target = .probing publicKey ∨ s.phase target = .activating publicKey
  recorded : s.rest = none → ∀ target publicKey,
    s.phase target = .confirming publicKey ∨ s.phase target = .activating publicKey →
      s.managed.lookup target = some publicKey
  owned : s.Answered

variable {s} {publicKey : String}

section

variable (h : s.Inv) {target : Ipv4Addr} (hp : s.polled target = true) (step : TaskStep)

include h hp

theorem Inv.answered_taskStep : (s.taskStep target step).Answered := by
  have hchild := h.waits target hp
  have hrec := h.recorded
  have howned := h.owned
  unfold AgentState.taskStep
  split
  all_goals try split
  all_goals try split
  all_goals
    simp only [Answered, enter, pause, start, Owns, Loose, Keeps, Function.update_apply] at *
    grind [HashMap.lookup_insert_if, HashMap.lookup_erase_if]

theorem Inv.taskStep : (s.taskStep target step).Inv := by
  refine ⟨?_, ?_, ?_, h.answered_taskStep hp step⟩
  all_goals
    obtain ⟨hwaits, hset, hrec, -⟩ := h
    unfold AgentState.taskStep
    split
    all_goals try split
    all_goals try split
    all_goals first
      | assumption
      | simp only [enter, pause, start, Function.update_apply] at *
        grind [HashMap.lookup_insert_if, HashMap.lookup_erase_if]

end

theorem Inv.endChild (h : s.Inv) (target : Ipv4Addr) (success : Bool) :
    (s.endChild target success).Inv := by
  obtain ⟨hwaits, hset, hrec, howned⟩ := h
  unfold AgentState.endChild
  simp only
  split
  all_goals try split
  all_goals try split
  all_goals
    constructor
    all_goals
      simp only [Answered, enter, Owns, Loose, Keeps, Function.update_apply] at *
      grind

theorem Inv.apply (h : s.Inv) (step : AgentStep) : (s.apply step).Inv := by
  cases step with
  | ctrlC => exact ⟨h.waits, h.child_set, h.recorded, h.owned⟩
  | ends target success => exact h.endChild target success
  | drain | remove =>
    simp only [AgentState.apply]
    split
    · exact ⟨h.waits, h.child_set, nofun, nofun⟩
    · exact h
  | wake target =>
    simp only [AgentState.apply]
    split
    · refine ⟨fun t hp => ?_, h.child_set, h.recorded, h.owned⟩
      simp only [Function.update_apply] at hp
      grind [h.waits]
    · exact h
  | task target step =>
    simp only [AgentState.apply]
    split
    · exact h.taskStep ‹_› step
    · exact h

/-- Each peer on the interface has a task that answers for it. -/
theorem inv_of_reach (h : sys.Reach s) : s.Inv := by
  refine h.invariant (fun s hs => ?_) fun s step s' hi hst => by rw [hst]; exact hi.apply step
  rw [show s = initial from hs]
  constructor <;> simp [initial, Answered]

/-! ## After the drain -/

/-- `main` has the peers that are left in its list, and nothing adds one. -/
structure Settled (s : AgentState) : Prop where
  aborted : s.aborted = true
  rest : ∃ l, s.rest = some l ∧ ∀ publicKey ∈ s.peers, publicKey ∈ l
  child : ∀ target publicKey, s.child target ≠ some (.set publicKey)
  polled : ∀ target, s.polled target = true → (s.phase target).adds = false

theorem Settled.taskStep (h : s.Settled) {target : Ipv4Addr} (hp : s.polled target = true)
    (step : TaskStep) : (s.taskStep target step).Settled := by
  obtain ⟨haborted, hrest, hchild, hpolled⟩ := h
  have hadds := hpolled target hp
  unfold AgentState.taskStep
  split
  all_goals try split
  all_goals try split
  all_goals
    constructor
    all_goals first
      | assumption
      | simp only [enter, pause, start, Function.update_apply]; grind [AgentPhase.adds]

theorem Settled.apply (h : s.Settled) (step : AgentStep) : (s.apply step).Settled := by
  obtain ⟨l, hl, hmem⟩ := h.rest
  cases step with
  | ctrlC => exact ⟨rfl, h.rest, h.child, h.polled⟩
  | drain => simpa [AgentState.apply, hl] using h
  | wake target => simpa [AgentState.apply, h.aborted] using h
  | task target step =>
    simp only [AgentState.apply]
    split
    · exact h.taskStep ‹_› step
    · exact h
  | remove =>
    cases l with
    | nil => simpa [AgentState.apply, hl] using h
    | cons k l =>
      simp only [AgentState.apply, hl]
      exact ⟨h.aborted, ⟨l, rfl, by grind⟩, h.child, h.polled⟩
  | ends target success =>
    simp only [AgentState.apply, AgentState.endChild]
    cases hc : s.child target with
    | none => exact h
    | some command =>
      cases command with
      | set k => exact absurd hc (h.child target k)
      | remove k =>
        refine ⟨h.aborted, ⟨l, hl, fun k' hk => hmem k' (Finset.mem_of_mem_erase hk)⟩, ?_, h.polled⟩
        intro t k'
        simp only [Function.update_apply]
        grind [h.child]

theorem Settled.foldl (h : s.Settled) (steps : List AgentStep) :
    (steps.foldl AgentState.apply s).Settled := by
  induction steps generalizing s with
  | nil => exact h
  | cons step steps ih => exact ih (h.apply step)

/-- `main` has removed what it has drained, and nothing else has happened. -/
def returned (s : AgentState) : AgentState :=
  { s with managed := ∅, peers := s.managed.values.foldl Finset.erase s.peers, rest := some [] }

theorem foldl_remove (l : List String) (hr : s.rest = some l) :
    (l.map fun _ => AgentStep.remove).foldl apply s =
      { s with peers := l.foldl Finset.erase s.peers, rest := some [] } := by
  induction l generalizing s with
  | nil => cases s; cases hr; rfl
  | cons k l ih =>
    have hstep : s.apply .remove = { s with peers := s.peers.erase k, rest := some l } := by
      simp [AgentState.apply, hr]
    rw [List.map_cons, List.foldl_cons, hstep, ih rfl]
    rfl

/-- The run in which all the rest happens after `main` has removed its peers. -/
theorem Clean.peers (h : s.Clean) (ha : s.aborted = true) (hr : s.rest = none)
    (steps : List AgentStep) (hrest : (steps.foldl AgentState.apply s.returned).rest = some []) :
    (steps.foldl AgentState.apply s.returned).peers = ∅ := by
  have hd : s.apply .drain = { s with managed := ∅, rest := some s.managed.values } := by
    simp [AgentState.apply, ha, hr]
  have h := h ((s.managed.values.map fun _ => AgentStep.remove) ++ steps)
  rw [List.foldl_append, hd, foldl_remove _ rfl] at h
  exact h hrest

theorem mem_foldl_erase {l : List String} {peers : Finset String} :
    publicKey ∈ l.foldl Finset.erase peers ↔ publicKey ∈ peers ∧ publicKey ∉ l := by
  induction l generalizing peers with
  | nil => simp
  | cons k l ih => grind

theorem Clean.recorded (h : s.Clean) (ha : s.aborted = true) (hr : s.rest = none)
    (hm : publicKey ∈ s.peers) : ∃ target, s.managed.lookup target = some publicKey := by
  by_contra hno
  have hleft : publicKey ∈ s.returned.peers :=
    mem_foldl_erase.mpr ⟨hm, fun hv => hno (HashMap.mem_values.mp hv)⟩
  have hnone := h.peers ha hr [] rfl
  rw [List.foldl_nil] at hnone
  rw [hnone] at hleft
  cases hleft

theorem Clean.child (h : s.Clean) (ha : s.aborted = true) (hr : s.rest = none) (target : Ipv4Addr) :
    s.child target ≠ some (.set publicKey) := by
  intro hc
  have hend := h.peers ha hr [.ends target true]
  simp only [List.foldl_cons, List.foldl_nil, AgentState.apply, AgentState.endChild, returned, hc,
    if_true] at hend
  split at hend <;> simp [enter] at hend

theorem Clean.polled (h : s.Clean) (ha : s.aborted = true) (hr : s.rest = none) (target : Ipv4Addr)
    (hp : s.polled target = true) : (s.phase target).adds = false := by
  cases hphase : s.phase target with
  | idle =>
    have hend := h.peers ha hr [.task target (.discovered ""), .task target .probe, .ends target true]
    simp [AgentState.apply, AgentState.taskStep, AgentState.endChild, returned, hp, hphase, enter,
      start, pause] at hend
  | replacing k =>
    have hend := h.peers ha hr [.task target .probe, .ends target true]
    simp [AgentState.apply, AgentState.taskStep, AgentState.endChild, returned, hp, hphase, enter,
      start, pause] at hend
  | confirming k =>
    have hend := h.peers ha hr [.task target .activate, .ends target true]
    simp [AgentState.apply, AgentState.taskStep, AgentState.endChild, returned, hp, hphase, enter,
      start, pause] at hend
  | _ => rfl

/-- **Shutdown.** Whatever the tasks and the processes did before, and however it goes on, no peer is
left once `main` has returned iff at the drain: no `wg set` runs, no task that has not stopped yet
can start one, and each peer that a task is about to record or to remove is recorded, for this target
or another one. -/
theorem shutdown_clean (h : sys.Reach s) (ha : s.aborted = true) (hr : s.rest = none) :
    s.Clean ↔
      (∀ target publicKey, s.child target ≠ some (.set publicKey)) ∧
      (∀ target, s.polled target = true → (s.phase target).adds = false) ∧
      ∀ target, ∀ publicKey ∈ s.peers, s.Loose target publicKey →
        ∃ other, s.managed.lookup other = some publicKey := by
  constructor
  · intro hc
    exact ⟨fun target _ => hc.child ha hr target, hc.polled ha hr,
      fun _ _ hm _ => hc.recorded ha hr hm⟩
  · rintro ⟨hchild, hpolled, hloose⟩ steps hrest
    have hsettled : (s.apply .drain).Settled := by
      rw [AgentState.apply, if_pos ⟨ha, hr⟩]
      refine ⟨ha, ⟨_, rfl, fun k hk => HashMap.mem_values.mpr ?_⟩, hchild, hpolled⟩
      obtain ⟨target, ⟨hl, -⟩ | hl⟩ := (inv_of_reach h).owned hr k hk
      · exact ⟨target, hl⟩
      · exact hloose target k hk hl
    obtain ⟨l, hl, hmem⟩ := (hsettled.foldl steps).rest
    rw [hrest] at hl
    cases hl
    exact Finset.eq_empty_of_forall_notMem fun k hk => List.not_mem_nil (hmem k hk)

/-- The target. -/
def host : Ipv4Addr := Ipv4Addr.new 10 26 0 3

/-- The task of the host has a lease and starts `probe`; more steps; then Ctrl-C. -/
def interrupted (steps : List AgentStep) : AgentState :=
  (.wake host :: .task host (.discovered "key") :: .task host .probe ::
    (steps ++ [.ctrlC])).foldl apply initial

theorem reach_interrupted (steps : List AgentStep) : sys.Reach (interrupted steps) :=
  Sys.Reach.foldl (.init (show sys.init initial from rfl)) _

/-- The peer is recorded, and its task waits for the handshake. -/
def atHandshake : AgentState :=
  interrupted [.ends host true, .wake host, .task host .record]

theorem shutdown_clean_recorded : atHandshake.peers = {"key"} ∧ atHandshake.Clean := by
  have hidle : ∀ target, atHandshake.child target = none ∧ atHandshake.polled target = false := by
    intro target
    simp [atHandshake, interrupted, apply, taskStep, endChild, enter, start, pause, initial]
  have hpeers : atHandshake.peers = {"key"} := by decide
  refine ⟨hpeers, (shutdown_clean (reach_interrupted _) rfl rfl).mpr ⟨?_, ?_, ?_⟩⟩
  · intro target k hc
    cases (hidle target).1.symm.trans hc
  · intro target hp
    cases (hidle target).2.symm.trans hp
  · intro target k hm _
    obtain rfl := Finset.mem_singleton.mp (hpeers ▸ hm : k ∈ ({"key"} : Finset String))
    exact ⟨host, by decide⟩

/-- Ctrl-C comes while the task waits for the lock after `probe`, or while the process of `probe`
runs: `main` has nothing to remove, and the peer is left. -/
theorem probed_peer_stays :
    sys.Reach (interrupted [.ends host true]) ∧
      ((interrupted [.ends host true]).apply .drain).rest = some [] ∧
      ((interrupted [.ends host true]).apply .drain).peers = {"key"} ∧
      sys.Reach (interrupted []) ∧
      (((interrupted []).apply .drain).apply (.ends host true)).rest = some [] ∧
      (((interrupted []).apply .drain).apply (.ends host true)).peers = {"key"} :=
  ⟨reach_interrupted _, by decide, by decide, reach_interrupted _, by decide, by decide⟩

end AgentState

end Vntc
