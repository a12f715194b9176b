import Mathlib.Data.Finset.Basic
import Mathlib.Logic.Function.Basic
import Vntc.Lib.Sys

/-!
# Lease requests and the revision of the cluster

`acquire_lease_request`, `release_lease` and the lease messages of `handle_peer_message` of
`server/peer_server.rs`. A server that is not the authority enters the channel of a request into a
map, sends the request and waits five seconds. The entry is removed by the answer, or if the request
cannot be sent.

A transaction of the authority gives a revision, and each server that learns of it stores it in
`cluster_revision` later, with a plain store. So an older revision can overwrite a newer one.
-/

namespace Vntc

open Lib

/-! ## Requests -/

inductive LeaseCallKind
  | acquire
  | release
  deriving DecidableEq

/-- The fields of a `ServerLeaseAcquireResponse` or `ServerLeaseReleaseResponse` that the call looks
at. -/
structure LeaseReply where
  success : Bool
  revision : Nat
  deriving DecidableEq

/-- Where a call waits, or how it has ended. -/
inductive LeaseCallPhase
  | sending
  | waiting
  /-- A successful answer was received and its revision is not stored yet. -/
  | storing (revision : Nat)
  | returned (timedOut : Bool)
  deriving DecidableEq

structure PendingCall where
  kind : LeaseCallKind
  phase : LeaseCallPhase
  /-- What was sent on its channel. -/
  answer : Option LeaseReply
  deriving DecidableEq

/-- The call has entered its channel, and neither an answer nor a failure to send has removed it. -/
def PendingCall.Entered (c : PendingCall) : Prop :=
  c.answer = none ∧ (c.phase = .sending ∨ c.phase = .waiting ∨ c.phase = .returned true)

/-- The part of a `PeerServerManager` that the calls change. -/
structure LeaseCalls where
  /-- The calls by the id of their request. -/
  calls : String → Option PendingCall
  /-- The keys of `pending_lease_acquires` and of `pending_lease_releases`. -/
  pending : LeaseCallKind → Finset String
  clusterRevision : Nat

inductive LeaseCallOp
  /-- A call, which fails at once if there is no link to the authority. -/
  | call (requestId : String) (kind : LeaseCallKind) (linked : Bool)
  | send (requestId : String) (sent : Bool)
  /-- `handle_peer_message` of an answer. -/
  | answer (requestId : String) (kind : LeaseCallKind) (reply : LeaseReply)
  | receive (requestId : String)
  | timeout (requestId : String)
  | store (requestId : String)

namespace LeaseCalls

variable (s : LeaseCalls)

def setCall (requestId : String) (c : PendingCall) : LeaseCalls :=
  { s with calls := Function.update s.calls requestId (some c) }

def removePending (requestId : String) (kind : LeaseCallKind) : LeaseCalls :=
  { s with pending := Function.update s.pending kind ((s.pending kind).erase requestId) }

/-- One step of a call. `new_request_id` draws 128 random bits, which no earlier call has had. -/
def apply : LeaseCallOp → LeaseCalls
  | .call id kind linked =>
    if (s.calls id).isSome then s
    else if linked then
      { s.setCall id ⟨kind, .sending, none⟩ with
        pending := Function.update s.pending kind (insert id (s.pending kind)) }
    else s.setCall id ⟨kind, .returned false, none⟩
  | .send id sent =>
    match s.calls id with
    | some ⟨kind, .sending, answer⟩ =>
      if sent then s.setCall id ⟨kind, .waiting, answer⟩
      else (s.removePending id kind).setCall id ⟨kind, .returned false, answer⟩
    | _ => s
  | .answer id kind reply =>
    match s.calls id with
    | some c =>
      if id ∈ s.pending kind then
        (s.removePending id kind).setCall id { c with answer := some reply }
      else s
    | none => s
  | .receive id =>
    match s.calls id with
    | some ⟨kind, .waiting, some reply⟩ =>
      s.setCall id ⟨kind, if reply.success then .storing reply.revision else .returned false,
        some reply⟩
    | _ => s
  | .timeout id =>
    match s.calls id with
    -- The timeout looks at the channel first.
    | some ⟨kind, .waiting, none⟩ => s.setCall id ⟨kind, .returned true, none⟩
    | _ => s
  | .store id =>
    match s.calls id with
    | some ⟨kind, .storing revision, answer⟩ =>
      { s.setCall id ⟨kind, .returned false, answer⟩ with clusterRevision := revision }
    | _ => s

/-- No calls yet. -/
def sys : Sys LeaseCalls LeaseCallOp :=
  .ofFun (fun s => s.calls = (fun _ => none) ∧ s.pending = fun _ => ∅) apply

/-- No map has an entry for a call that has returned, and without calls in flight both are empty. -/
structure NoResidue : Prop where
  returned : ∀ id c timedOut, s.calls id = some c → c.phase = .returned timedOut →
    ∀ kind, id ∉ s.pending kind
  idle : (∀ id c, s.calls id = some c → ∃ timedOut, c.phase = .returned timedOut) →
    ∀ kind, s.pending kind = ∅

/-- The entries are those of the calls that have one. -/
def Inv : Prop :=
  ∀ id kind, id ∈ s.pending kind ↔ ∃ c, s.calls id = some c ∧ c.kind = kind ∧ c.Entered

variable {s} {id : String} {kind : LeaseCallKind} {c : PendingCall}

theorem Inv.mem_pending (h : s.Inv) (hc : s.calls id = some c) :
    id ∈ s.pending kind ↔ c.kind = kind ∧ c.Entered := by
  rw [h id kind, hc]
  simp

/-- A step that changes one call, and no entry but that of the call. -/
theorem Inv.set (h : s.Inv) {p : LeaseCallKind → Finset String}
    (hself : ∀ kind, id ∈ p kind ↔ c.kind = kind ∧ c.Entered)
    (hother : ∀ j kind, j ≠ id → (j ∈ p kind ↔ j ∈ s.pending kind)) (revision : Nat) :
    Inv ⟨Function.update s.calls id (some c), p, revision⟩ := by
  intro j kind
  by_cases hj : j = id
  · subst hj
    simp [hself kind]
  · dsimp only
    rw [hother j kind hj, h j kind, Function.update_of_ne hj]

/-- A step that leaves the entries alone, of a call that has one before and after, or neither. -/
theorem Inv.setCall (h : s.Inv) {c' : PendingCall} (hc : s.calls id = some c)
    (hk : c'.kind = c.kind) (he : c'.Entered ↔ c.Entered) : (s.setCall id c').Inv :=
  h.set (fun kind => by rw [h.mem_pending hc, hk, he]) (fun _ _ _ => Iff.rfl) _

/-- The entry of a call is removed. -/
theorem Inv.remove (h : s.Inv) {c' : PendingCall} (hc : s.calls id = some c)
    (he : ¬ c'.Entered) : ((s.removePending id c.kind).setCall id c').Inv := by
  refine h.set (fun kind => ?_) (fun j kind hj => ?_) _
  · by_cases hk : kind = c.kind
    · simp [removePending, hk, he]
    · simp [removePending, Function.update_of_ne hk, h.mem_pending hc, he, Ne.symm hk]
  · by_cases hk : kind = c.kind
    · simp [removePending, hk, hj]
    · simp [removePending, Function.update_of_ne hk]

theorem Inv.call (h : s.Inv) (linked : Bool) : (s.apply (.call id kind linked)).Inv := by
  simp only [apply]
  split
  · exact h
  rename_i hnew
  have hno : ∀ kind, id ∉ s.pending kind := by
    intro kind hm
    obtain ⟨c, hc, -⟩ := (h id kind).mp hm
    simp [hc] at hnew
  split
  · refine h.set (fun k => ?_) (fun j k hj => ?_) _
    · by_cases hk : k = kind
      · simp [hk, PendingCall.Entered]
      · simp [Function.update_of_ne hk, hno k, Ne.symm hk]
    · by_cases hk : k = kind
      · simp [hk, hj]
      · simp [Function.update_of_ne hk]
  · exact h.set (fun k => by simp [hno k, PendingCall.Entered]) (fun _ _ _ => Iff.rfl) _

theorem Inv.apply (h : s.Inv) (op : LeaseCallOp) : (s.apply op).Inv := by
  cases op with
  | call id kind linked => exact h.call linked
  | send id sent =>
    simp only [LeaseCalls.apply]
    split
    · rename_i kind answer hc
      split
      · exact h.setCall hc rfl (by simp [PendingCall.Entered])
      · exact h.remove hc (by simp [PendingCall.Entered])
    · exact h
  | answer id kind reply =>
    simp only [LeaseCalls.apply]
    split
    · rename_i c hc
      split
      · rename_i hm
        rw [← ((h.mem_pending hc).mp hm).1]
        exact h.remove hc (by simp [PendingCall.Entered])
      · exact h
    · exact h
  | receive id | timeout id | store id =>
    simp only [LeaseCalls.apply]
    split
    · rename_i hc
      exact h.setCall hc rfl (by simp [PendingCall.Entered])
    · exact h

theorem inv_of_reach (h : sys.Reach s) : s.Inv := by
  refine h.invariant (fun s h0 id kind => ?_) fun _ op _ hi hst => by rw [hst]; exact hi.apply op
  simp [h0.1, h0.2]

/-- **What calls leave.** In every run, the calls that have returned leave no entry exactly if each
of those that timed out was answered after that. -/
theorem residue_iff (h : sys.Reach s) :
    s.NoResidue ↔ ∀ id c, s.calls id = some c → c.phase = .returned true → c.answer ≠ none := by
  have hi := inv_of_reach h
  constructor
  · intro hn id c hc hp ha
    exact hn.returned id c true hc hp c.kind
      ((hi.mem_pending hc).mpr ⟨rfl, ha, .inr (.inr hp)⟩)
  · intro hlate
    have hreturned : ∀ id c timedOut, s.calls id = some c → c.phase = .returned timedOut →
        ∀ kind, id ∉ s.pending kind := by
      intro id c timedOut hc hp kind hm
      obtain ⟨-, ha, hphase⟩ := (hi.mem_pending hc).mp hm
      have htrue : c.phase = .returned true := by
        rcases hphase with hphase | hphase | hphase
        · cases hp.symm.trans hphase
        · cases hp.symm.trans hphase
        · exact hphase
      exact hlate id c hc htrue ha
    refine ⟨hreturned, fun hidle kind => Finset.eq_empty_of_forall_notMem fun id hm => ?_⟩
    obtain ⟨c, hc, -⟩ := (hi id kind).mp hm
    obtain ⟨timedOut, hp⟩ := hidle id c hc
    exact hreturned id c timedOut hc hp kind hm

def start : LeaseCalls := ⟨fun _ => none, fun _ => ∅, 0⟩

theorem reach_start (ops : List LeaseCallOp) : sys.Reach (ops.foldl LeaseCalls.apply start) :=
  Sys.Reach.foldl (.init (show sys.init start from ⟨rfl, rfl⟩)) ops

/-- The answer to the first call comes after its timeout, the one to the second call in time. -/
def answeredCalls : List LeaseCallOp :=
  [.call "1" .acquire true, .send "1" true, .call "2" .release true, .send "2" true, .timeout "1",
    .answer "1" .acquire ⟨true, 7⟩, .answer "2" .release ⟨true, 8⟩, .receive "2", .store "2"]

theorem residue_iff_answered :
    (answeredCalls.foldl LeaseCalls.apply start).calls "1" =
        some ⟨.acquire, .returned true, some ⟨true, 7⟩⟩ ∧
      (answeredCalls.foldl LeaseCalls.apply start).NoResidue := by
  refine ⟨rfl, (residue_iff (reach_start answeredCalls)).mpr fun id c hc hp => ?_⟩
  by_cases h1 : id = "1"
  · subst h1
    cases hc
    exact nofun
  by_cases h2 : id = "2"
  · subst h2
    cases hc
    cases hp
  · simp [answeredCalls, start, LeaseCalls.apply, setCall, removePending, h1, h2] at hc

def lateCall : List LeaseCallOp := [.call "1" .acquire true, .send "1" true, .timeout "1"]

/-- A request that is not answered in time leaves its entry, and no call is in flight. -/
theorem late_call_stays :
    (lateCall.foldl LeaseCalls.apply start).calls "1" = some ⟨.acquire, .returned true, none⟩ ∧
      "1" ∈ (lateCall.foldl LeaseCalls.apply start).pending .acquire ∧
      ¬ (lateCall.foldl LeaseCalls.apply start).NoResidue :=
  ⟨rfl, by decide, fun h => (h.returned "1" _ true rfl rfl .acquire) (by decide)⟩

end LeaseCalls

/-! ## The revision -/

/-- A revision that was committed for a server. -/
structure RevisionFor where
  server : Nat
  revision : Nat
  deriving DecidableEq

/-- The revision of the database and those that the servers have stored; the authority is server
0. -/
structure RevisionState where
  revision : Nat
  clusterRevision : Nat → Nat
  /-- Committed, and not yet stored by the authority. -/
  committed : List RevisionFor
  /-- Stored by the authority and answered, and not yet stored by the server that asked. -/
  answers : List RevisionFor

/-- Acquires and releases go the same way, and so do the authority's own ones and those that another
server asks for, except that the latter are answered. -/
inductive RevisionOp
  | commit (server : Nat)
  | store (c : RevisionFor)
  | storeAnswer (c : RevisionFor)
  /-- An answer is lost or late. -/
  | lose (c : RevisionFor)

namespace RevisionState

def apply (s : RevisionState) : RevisionOp → RevisionState
  | .commit server =>
    { s with
      revision := s.revision + 1
      committed := ⟨server, s.revision + 1⟩ :: s.committed }
  | .store c =>
    if c ∈ s.committed then
      { s with
        clusterRevision := Function.update s.clusterRevision 0 c.revision
        committed := s.committed.erase c
        answers := if c.server = 0 then s.answers else c :: s.answers }
    else s
  | .storeAnswer c =>
    if c ∈ s.answers then
      { s with
        clusterRevision := Function.update s.clusterRevision c.server c.revision
        answers := s.answers.erase c }
    else s
  | .lose c => { s with answers := s.answers.erase c }

/-- The servers start with revision 0. -/
def sys : Sys RevisionState RevisionOp :=
  .ofFun (fun s => s.clusterRevision = (fun _ => 0) ∧ s.committed = [] ∧ s.answers = []) apply

/-- A server stores the oldest of the revisions that it has not stored yet. -/
def InOrder (s : RevisionState) : RevisionOp → Prop
  | .store c => ∀ d ∈ s.committed, c.revision ≤ d.revision
  | .storeAnswer c => ∀ d ∈ s.answers, d.server = c.server → c.revision ≤ d.revision
  | _ => True

instance (s : RevisionState) : ∀ op, Decidable (s.InOrder op)
  | .store _ => inferInstanceAs (Decidable (∀ d ∈ _, _))
  | .storeAnswer _ => inferInstanceAs (Decidable (∀ d ∈ _, _))
  | .commit _ => inferInstanceAs (Decidable True)
  | .lose _ => inferInstanceAs (Decidable True)

/-- What was stored is older than what was not. -/
structure Inv (s : RevisionState) : Prop where
  stored : ∀ n, s.clusterRevision n ≤ s.revision
  committed : ∀ c ∈ s.committed, c.revision ≤ s.revision ∧
    s.clusterRevision 0 ≤ c.revision ∧ s.clusterRevision c.server ≤ c.revision
  answers : ∀ c ∈ s.answers, c.server ≠ 0 ∧ c.revision ≤ s.revision ∧
    s.clusterRevision c.server ≤ c.revision
  order : ∀ c ∈ s.answers, ∀ d ∈ s.committed, c.revision ≤ d.revision

variable {s : RevisionState}

theorem Inv.commit (h : s.Inv) (server : Nat) : (s.apply (.commit server)).Inv where
  stored n := Nat.le_succ_of_le (h.stored n)
  committed c hc := by
    rcases List.mem_cons.mp hc with rfl | hc
    · exact ⟨le_rfl, Nat.le_succ_of_le (h.stored 0), Nat.le_succ_of_le (h.stored server)⟩
    · exact (h.committed c hc).imp_left Nat.le_succ_of_le
  answers c hc := (h.answers c hc).imp_right (And.imp_left Nat.le_succ_of_le)
  order c hc d hd := by
    rcases List.mem_cons.mp hd with rfl | hd
    · exact Nat.le_succ_of_le (h.answers c hc).2.1
    · exact h.order c hc d hd

theorem Inv.store (h : s.Inv) {c : RevisionFor} (hc : c ∈ s.committed)
    (ho : s.InOrder (.store c)) : (s.apply (.store c)).Inv := by
  obtain ⟨hstored, hcommitted, hanswers, horder⟩ := h
  simp only [RevisionState.apply, if_pos hc]
  simp only [InOrder] at ho
  constructor
  · grind [Function.update_apply]
  · grind [Function.update_apply, List.mem_of_mem_erase]
  · grind [Function.update_apply]
  · grind [List.mem_of_mem_erase]

theorem Inv.storeAnswer (h : s.Inv) {c : RevisionFor} (hc : c ∈ s.answers)
    (ho : s.InOrder (.storeAnswer c)) : (s.apply (.storeAnswer c)).Inv := by
  obtain ⟨hstored, hcommitted, hanswers, horder⟩ := h
  simp only [RevisionState.apply, if_pos hc]
  simp only [InOrder] at ho
  constructor
  · grind [Function.update_apply]
  · grind [Function.update_apply]
  · grind [Function.update_apply, List.mem_of_mem_erase]
  · grind [List.mem_of_mem_erase]

theorem Inv.apply (h : s.Inv) {op : RevisionOp} (ho : s.InOrder op) : (s.apply op).Inv := by
  cases op with
  | commit server => exact h.commit server
  | store c =>
    by_cases hc : c ∈ s.committed
    · exact h.store hc ho
    · simpa only [RevisionState.apply, if_neg hc] using h
  | storeAnswer c =>
    by_cases hc : c ∈ s.answers
    · exact h.storeAnswer hc ho
    · simpa only [RevisionState.apply, if_neg hc] using h
  | lose c =>
    exact ⟨h.stored, h.committed, fun a ha => h.answers a (List.mem_of_mem_erase ha),
      fun a ha => h.order a (List.mem_of_mem_erase ha)⟩

theorem inv_of_reachWith (h : sys.ReachWith InOrder s) : s.Inv := by
  refine h.invariant_of (fun s h0 => ?_) fun _ op hi hc => hi.apply hc
  obtain ⟨hr, hc, ha⟩ := h0
  exact ⟨by simp [hr], by simp [hc], by simp [ha], by simp [ha]⟩

/-- **The revision.** In the runs whose servers store revisions in their order, no step lowers the
revision of a server. -/
theorem clusterRevision_le (h : sys.ReachWith InOrder s) {op : RevisionOp} (ho : s.InOrder op)
    (n : Nat) : s.clusterRevision n ≤ (s.apply op).clusterRevision n := by
  obtain ⟨-, hcommitted, hanswers, -⟩ := inv_of_reachWith h
  cases op with
  | commit server => exact le_rfl
  | lose c => exact le_rfl
  | store c | storeAnswer c =>
    simp only [apply]
    split
    · grind [Function.update_apply]
    · exact le_rfl

/-- Two transactions, one of them for server 1. -/
def twoCommits (first second : RevisionOp) : List RevisionOp :=
  [.commit 0, .commit 1, first, second]

def fresh : RevisionState := ⟨0, fun _ => 0, [], []⟩

theorem clusterRevision_le_ordered :
    ((twoCommits (.store ⟨0, 1⟩) (.store ⟨1, 2⟩)).foldl apply fresh).clusterRevision 1 ≤
      (((twoCommits (.store ⟨0, 1⟩) (.store ⟨1, 2⟩)).foldl apply fresh).apply
        (.storeAnswer ⟨1, 2⟩)).clusterRevision 1 := by
  have hr : sys.ReachWith InOrder
      ((twoCommits (.store ⟨0, 1⟩) (.store ⟨1, 2⟩)).foldl apply fresh) :=
    Sys.ReachWith.foldl (.init ⟨rfl, rfl, rfl⟩)
      ⟨trivial, trivial, by decide, by decide, trivial⟩
  exact clusterRevision_le hr (by decide) 1

/-- The later of two transactions is stored first. -/
theorem clusterRevision_goes_back :
    sys.Reach ((twoCommits (.store ⟨1, 2⟩) (.store ⟨0, 1⟩)).foldl apply fresh) ∧
      ([RevisionOp.commit 0, .commit 1, .store ⟨1, 2⟩].foldl apply fresh).clusterRevision 0 = 2 ∧
      ((twoCommits (.store ⟨1, 2⟩) (.store ⟨0, 1⟩)).foldl apply fresh).clusterRevision 0 = 1 :=
  ⟨Sys.Reach.foldl (.init (show sys.init fresh from ⟨rfl, rfl, rfl⟩)) _, rfl, rfl⟩

end RevisionState

end Vntc
