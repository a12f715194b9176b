import Vntc.Lib.HashMap
import Vntc.Lib.Sys
import Vntc.Server.Control.Config
import Vntc.Server.Peer.Cluster

/-!
# When a server of a cluster is ready

A server that is not the authority hands out addresses only while `cluster_ready` is set. The flag is
cleared when a link to the authority comes up or goes down, and set by `reconcile_local_allocations`,
a task of its own that a new outbound link starts and that knows nothing of the link afterwards. A
section without a suspension point is one step. Each connection has a number of its own, and the
numbers of those whose reconciliation has ended without a conflict are kept.
-/

namespace Vntc

open Lib HashMap

/-- A link to another server. -/
structure PeerServerInfo where
  isOutbound : Bool
  remoteServerId : Option String
  clusterCompatible : Bool
  connected : Bool
  /-- The number of the connection. -/
  connection : Nat
  deriving DecidableEq

namespace PeerServerInfo

def new (isOutbound : Bool) : PeerServerInfo where
  isOutbound := isOutbound
  remoteServerId := none
  clusterCompatible := false
  connected := false
  connection := 0

def setRemoteMetadata (p : PeerServerInfo) (serverId : String) (clusterCompatible : Bool) :
    PeerServerInfo :=
  { p with
    remoteServerId := if serverId = "" then none else some serverId
    clusterCompatible }

def setConnected (p : PeerServerInfo) (connection : Nat) : PeerServerInfo :=
  { p with connected := true, connection }

def setDisconnected (p : PeerServerInfo) : PeerServerInfo := { p with connected := false }

end PeerServerInfo

/-- Where a reconciliation stands. -/
inductive Stage
  | spawned
  /-- It waits for the local allocations. -/
  | loading
  /-- It has these allocations to ask for. -/
  | acquiring (rest : List LocalIpAllocation) (conflicts : Nat)
  /-- It waits for the answer about the first one. -/
  | waiting (allocation : LocalIpAllocation) (rest : List LocalIpAllocation) (conflicts : Nat)

structure ClusterNode where
  config : ClusterConfig
  clusterReady : Bool
  clusterConflicts : Nat
  peers : HashMap Nat PeerServerInfo
  /-- The reconciliations, under the number of the connection that has started them. -/
  tasks : HashMap Nat Stage
  /-- The number of the next link or connection. -/
  next : Nat
  /-- The connections whose reconciliation has ended without a conflict. -/
  reconciled : List Nat

inductive ClusterNodeOp
  | addPeer
  | connect (peer : Nat) (res : PeerAuth)
  | accept (req : PeerAuth)
  | disconnect (peer : Nat)
  | stop (peer : Nat)
  | start (task : Nat)
  | loaded (task : Nat) (allocations : Option (List LocalIpAllocation))
  | ask (task : Nat)
  | answer (task : Nat) (ip : Option Ipv4Addr)
  | finish (task : Nat)

namespace ClusterNode

variable (s : ClusterNode)

/-- The remote server of a link is the authority. -/
def toAuthority (p : PeerServerInfo) : Bool := p.remoteServerId == some s.config.leaseAuthority

/-- The link would be chosen by `authority_peer`. -/
def authorityLink (p : PeerServerInfo) : Bool :=
  p.connected && p.clusterCompatible && s.toAuthority p

def authorityPeer : Option PeerServerInfo := (HashMap.values s.peers).find? s.authorityLink

/-- `connect_to_peer`, before the first attempt. -/
def addPeer : ClusterNode :=
  { s with peers := s.peers.insert s.next (.new true), next := s.next + 1 }

/-- `connect_to_peer_once` after the authentication. -/
def connect (peer : Nat) (res : PeerAuth) : ClusterNode :=
  match s.peers.lookup peer with
  | none => s
  | some p =>
    if p.isOutbound && !p.connected then
      let p := (p.setRemoteMetadata res.serverId (s.config.peerClusterCompatible res)).setConnected
        s.next
      let s1 := { s with peers := s.peers.insert peer p, next := s.next + 1 }
      if p.clusterCompatible && s.toAuthority p then
        { s1 with
          clusterReady := false
          tasks := s.tasks.insert s.next .spawned }
      else s1
    else s

/-- `handle_peer_connection` after the check of the token. -/
def accept (req : PeerAuth) : ClusterNode :=
  if s.config.serverId ≠ "" ∧ req.serverId = s.config.serverId then s
  else
    let p := ((PeerServerInfo.new false).setRemoteMetadata req.serverId
      (s.config.peerClusterCompatible req)).setConnected s.next
    { s with peers := s.peers.insert s.next p, next := s.next + 1 }

/-- The end of `run_peer_communication_loop`. -/
def disconnect (peer : Nat) : ClusterNode :=
  match s.peers.lookup peer with
  | none => s
  | some p =>
    if p.connected then
      let ready := if s.config.clusterEnabled && !s.config.isLeaseAuthority && s.toAuthority p
        then false else s.clusterReady
      { s with
        clusterReady := ready
        peers := if p.isOutbound then s.peers.insert peer p.setDisconnected else s.peers.erase peer }
    else s

/-- `remove_outbound_peer`: the task of the link is dropped with its connection. -/
def stop (peer : Nat) : ClusterNode :=
  match s.peers.lookup peer with
  | none => s
  | some p => if p.isOutbound then { s with peers := s.peers.erase peer } else s

def setStage (task : Nat) (stage : Stage) : ClusterNode :=
  { s with tasks := s.tasks.insert task stage }

/-- `reconcile_local_allocations` up to its first suspension point. -/
def start (task : Nat) : ClusterNode :=
  match s.tasks.lookup task with
  | some .spawned =>
    if !s.config.clusterEnabled || s.config.isLeaseAuthority then
      { s with clusterReady := true, tasks := s.tasks.erase task }
    else { s.setStage task .loading with clusterReady := false }
  | _ => s

/-- `load_local_ip_allocations` has returned; with an error the task ends. -/
def loaded (task : Nat) (allocations : Option (List LocalIpAllocation)) : ClusterNode :=
  match s.tasks.lookup task, allocations with
  | some .loading, some allocations => s.setStage task (.acquiring allocations 0)
  | some .loading, none => { s with tasks := s.tasks.erase task }
  | _, _ => s

/-- Ask the authority for the next allocation; without a link it counts as a conflict. -/
def ask (task : Nat) : ClusterNode :=
  match s.tasks.lookup task with
  | some (.acquiring (a :: rest) conflicts) =>
    if s.authorityPeer.isSome then s.setStage task (.waiting a rest conflicts)
    else s.setStage task (.acquiring rest (conflicts + 1))
  | _ => s

/-- The address that the authority grants, or none for a refusal or a timeout. -/
def answer (task : Nat) (ip : Option Ipv4Addr) : ClusterNode :=
  match s.tasks.lookup task with
  | some (.waiting a rest conflicts) =>
    s.setStage task (.acquiring rest (if ip = some a.ip then conflicts else conflicts + 1))
  | _ => s

/-- The end of `reconcile_local_allocations`. -/
def finish (task : Nat) : ClusterNode :=
  match s.tasks.lookup task with
  | some (.acquiring [] conflicts) =>
    { s with
      clusterConflicts := conflicts
      clusterReady := conflicts == 0
      tasks := s.tasks.erase task
      reconciled := if conflicts = 0 then task :: s.reconciled else s.reconciled }
  | _ => s

def apply : ClusterNodeOp → ClusterNode
  | .addPeer => s.addPeer
  | .connect peer res => s.connect peer res
  | .accept req => s.accept req
  | .disconnect peer => s.disconnect peer
  | .stop peer => s.stop peer
  | .start task => s.start task
  | .loaded task allocations => s.loaded task allocations
  | .ask task => s.ask task
  | .answer task ip => s.answer task ip
  | .finish task => s.finish task

/-- `new_with_identity`. -/
def new (config : ClusterConfig) : ClusterNode where
  config := config
  clusterReady := !config.clusterEnabled || config.serverId == config.leaseAuthority
  clusterConflicts := 0
  peers := ∅
  tasks := ∅
  next := 0
  reconciled := []

/-- A server of a cluster that is not its authority. -/
def Member (config : ClusterConfig) : Prop :=
  config.clusterEnabled = true ∧ config.isLeaseAuthority = false

instance (config : ClusterConfig) : Decidable (Member config) := inferInstanceAs (Decidable (_ ∧ _))

def sys : Sys ClusterNode ClusterNodeOp :=
  .ofFun (fun s => ∃ config, Member config ∧ s = new config) apply

/-- What `acquire_lease` does first. -/
inductive LeaseGate
  /-- No cluster: the server allocates by itself. -/
  | alone
  | refused (message : String)
  | passed
  deriving DecidableEq

def leaseGate : LeaseGate :=
  if !s.config.clusterEnabled then .alone
  else if !s.config.isLeaseAuthority && !s.clusterReady then
    .refused "集群租约尚未就绪，拒绝本地地址分配"
  else .passed

/-- The link is up, to the authority, and a reconciliation started on it has ended without a
conflict. -/
def Reconciled (p : PeerServerInfo) : Prop :=
  s.authorityLink p = true ∧ p.connection ∈ s.reconciled

instance (p : PeerServerInfo) : Decidable (s.Reconciled p) := inferInstanceAs (Decidable (_ ∧ _))

def Backed (peers : HashMap Nat PeerServerInfo) : Prop :=
  ∃ p ∈ HashMap.values peers, s.Reconciled p

instance (peers : HashMap Nat PeerServerInfo) : Decidable (s.Backed peers) :=
  inferInstanceAs (Decidable (∃ p ∈ HashMap.values peers, s.Reconciled p))

/-- The flag is set, and a request for a lease is let through, only over such a link. -/
structure Sound : Prop where
  ready : s.clusterReady = true → s.Backed s.peers
  gate : s.leaseGate = .passed → s.Backed s.peers

/-! ## The condition -/

/-- The reconciliation has asked for everything and has found no conflict. -/
def endsClean (task : Nat) : Bool :=
  match s.tasks.lookup task with
  | some (.acquiring [] 0) => true
  | _ => false

/-- The connection is up. -/
def Current (connection : Nat) : Prop :=
  ∃ p ∈ HashMap.values s.peers, p.connected = true ∧ p.connection = connection

instance (connection : Nat) : Decidable (s.Current connection) :=
  inferInstanceAs (Decidable (∃ p ∈ HashMap.values s.peers, _ ∧ _))

/-- A reconciliation that ends without a conflict ends over its own connection, or next to a
reconciled link; a link is removed from a ready server only next to another reconciled one. -/
def Steady : ClusterNodeOp → Prop
  | .finish task => s.endsClean task = true → s.Current task ∨ s.Backed s.peers
  | .stop peer => s.clusterReady = true → s.Backed (s.peers.erase peer)
  | _ => True

instance : ∀ op, Decidable (s.Steady op)
  | .finish task =>
    inferInstanceAs (Decidable (s.endsClean task = true → s.Current task ∨ s.Backed s.peers))
  | .stop peer => inferInstanceAs (Decidable (s.clusterReady = true → s.Backed (s.peers.erase peer)))
  | .addPeer | .connect .. | .accept .. | .disconnect .. | .start .. | .loaded .. | .ask ..
  | .answer .. => inferInstanceAs (Decidable True)

/-! ## The invariant -/

variable {s}

variable {peers : HashMap Nat PeerServerInfo} {task : Nat}

theorem backed_iff : s.Backed peers ↔ ∃ k p, peers.lookup k = some p ∧ s.Reconciled p := by
  simp only [Backed, mem_values]
  exact ⟨fun ⟨p, ⟨k, hk⟩, hp⟩ => ⟨k, p, hk, hp⟩, fun ⟨k, p, hk, hp⟩ => ⟨p, ⟨k, hk⟩, hp⟩⟩

/-- A change at one entry leaves the reconciled links of the others. -/
theorem Backed.change {peers' : HashMap Nat PeerServerInfo} (h : s.Backed peers) {k : Nat}
    (hk : ∀ p, peers.lookup k = some p → s.authorityLink p = false)
    (he : ∀ a, a ≠ k → peers'.lookup a = peers.lookup a) : s.Backed peers' := by
  obtain ⟨a, p, ha, hp⟩ := backed_iff.mp h
  have hne : a ≠ k := by
    rintro rfl
    exact Bool.false_ne_true ((hk p ha).symm.trans hp.1)
  exact backed_iff.mpr ⟨a, p, (he a hne).trans ha, hp⟩

variable (s) in
/-- Links and connections are numbered below `next`, and a connection with a reconciliation is one
to the authority. -/
structure Inv : Prop where
  member : Member s.config
  ready : s.clusterReady = true → s.Backed s.peers
  links : ∀ k p, s.peers.lookup k = some p → k < s.next ∧ (p.connected = true → p.connection < s.next)
  tasks : ∀ i t, s.tasks.lookup i = some t → i < s.next ∧
    ∀ k p, s.peers.lookup k = some p → p.connected = true → p.connection = i →
      s.authorityLink p = true

theorem Inv.new {config : ClusterConfig} (h : Member config) : Inv (new config) where
  member := h
  ready hr := by
    have hm := h
    simp only [Member, ClusterConfig.isLeaseAuthority] at hm
    simp_all [ClusterNode.new]
  links k p hk := by cases hk
  tasks i t hi := by cases hi

/-- A step of a reconciliation before its end: it touches no link, keeps or clears the flag, and
leaves no new task. -/
theorem Inv.quiet {s' : ClusterNode} (h : Inv s) (hc : s'.config = s.config) (hp : s'.peers = s.peers)
    (hn : s'.next = s.next) (hd : s'.reconciled = s.reconciled)
    (hr : s'.clusterReady = true → s.clusterReady = true)
    (ht : ∀ i, (s'.tasks.lookup i).isSome → (s.tasks.lookup i).isSome) : Inv s' where
  member := hc ▸ h.member
  ready hr' := by
    have := h.ready (hr hr')
    simpa only [Backed, Reconciled, authorityLink, toAuthority, hp, hc, hd] using this
  links := by rw [hp, hn]; exact h.links
  tasks i t hi := by
    obtain ⟨t', ht'⟩ := Option.isSome_iff_exists.mp (ht i (hi ▸ rfl))
    simpa only [authorityLink, toAuthority, hp, hc, hn] using h.tasks i t' ht'

/-- The next stage of a task that is there. -/
theorem Inv.setStage (h : Inv s) (ht : (s.tasks.lookup task).isSome) (stage : Stage) :
    Inv (s.setStage task stage) := by
  refine h.quiet rfl rfl rfl rfl id fun i hi => ?_
  simp only [ClusterNode.setStage, lookup_insert_if] at hi
  split at hi
  · next he => exact he ▸ ht
  · exact hi

theorem Inv.eraseTask (h : Inv s) (task : Nat) : Inv { s with tasks := s.tasks.erase task } := by
  refine h.quiet rfl rfl rfl rfl id fun i hi => ?_
  rw [lookup_erase_if] at hi
  split at hi
  · cases hi
  · exact hi

theorem Inv.start (h : Inv s) (task : Nat) : Inv (s.start task) := by
  unfold ClusterNode.start
  split
  · next ht =>
    -- the first branch is that of the authority
    rw [if_neg (by simp [h.member.1, h.member.2])]
    exact (h.setStage (ht ▸ rfl) .loading).quiet rfl rfl rfl rfl (by simp) fun _ => id
  · exact h

theorem Inv.loaded (h : Inv s) (task : Nat) (allocations : Option (List LocalIpAllocation)) :
    Inv (s.loaded task allocations) := by
  unfold ClusterNode.loaded
  split
  · next ht => exact h.setStage (ht ▸ rfl) _
  · exact h.eraseTask task
  · exact h

theorem Inv.ask (h : Inv s) (task : Nat) : Inv (s.ask task) := by
  unfold ClusterNode.ask
  split
  · next ht => split <;> exact h.setStage (ht ▸ rfl) _
  · exact h

theorem Inv.answer (h : Inv s) (task : Nat) (ip : Option Ipv4Addr) : Inv (s.answer task ip) := by
  unfold ClusterNode.answer
  split
  · next ht => exact h.setStage (ht ▸ rfl) _
  · exact h

/-- A further connection counts as reconciled. -/
theorem Backed.reconcile (h : s.Backed peers) (task : Nat) :
    { s with reconciled := task :: s.reconciled }.Backed peers := by
  obtain ⟨p, hp, hl, hd⟩ := h
  exact ⟨p, hp, hl, List.mem_cons_of_mem _ hd⟩

section

variable (h : Inv s)

include h

/-- The connection of a reconciliation is one to the authority, so it backs the flag. -/
theorem Inv.backed_of_current (ht : (s.tasks.lookup task).isSome)
    (hc : s.Current task) : { s with reconciled := task :: s.reconciled }.Backed s.peers := by
  obtain ⟨p, hp, hcon, he⟩ := hc
  obtain ⟨k, hk⟩ := mem_values.mp hp
  obtain ⟨t, ht⟩ := Option.isSome_iff_exists.mp ht
  exact ⟨p, hp, (h.tasks task t ht).2 k p hk hcon he, he ▸ List.mem_cons_self⟩

theorem Inv.finish (hs : s.Steady (.finish task)) : Inv (s.finish task) := by
  unfold ClusterNode.finish
  split
  · next conflicts ht =>
    have he := h.eraseTask task
    refine ⟨he.member, fun hr => ?_, he.links, he.tasks⟩
    obtain rfl : conflicts = 0 := by simpa using hr
    have hclean : s.endsClean task = true := by simp only [endsClean, ht]
    rcases hs hclean with hc | hb
    · exact h.backed_of_current (ht ▸ rfl) hc
    · exact hb.reconcile task
  · exact h

/-- A link with a new connection, or with none, in the place of one that is down. -/
theorem Inv.insertPeer {k : Nat} {q : PeerServerInfo} {next : Nat} (hn : s.next ≤ next)
    (hk : k < next) (hfree : ∀ p, s.peers.lookup k = some p → p.connected = false)
    (hq : q.connected = true → s.next ≤ q.connection ∧ q.connection < next) :
    Inv { s with peers := s.peers.insert k q, next } where
  member := h.member
  ready hr := (h.ready hr).change (fun p hp => by simp [authorityLink, hfree p hp])
    fun a ha => by rw [lookup_insert_if, if_neg ha]
  links a p ha := by
    dsimp only at ha ⊢
    rcases lookup_insert_cases ha with ⟨he, rfl⟩ | ⟨-, ha⟩
    · exact ⟨he ▸ hk, fun hc => (hq hc).2⟩
    · have hl := h.links a p ha
      exact ⟨by omega, fun hc => by have := hl.2 hc; omega⟩
  tasks i t hi := by
    dsimp only at hi ⊢
    have ht := h.tasks i t hi
    refine ⟨by omega, fun a p ha hc he => ?_⟩
    rcases lookup_insert_cases ha with ⟨-, rfl⟩ | ⟨-, ha⟩
    · have := hq hc
      omega
    · exact ht.2 a p ha hc he

/-- The reconciliation of the newest connection, which is one to the authority. -/
theorem Inv.spawn {c : Nat} (hc : c < s.next)
    (hl : ∀ k p, s.peers.lookup k = some p → p.connected = true → p.connection = c →
      s.authorityLink p = true) :
    Inv { s with clusterReady := false, tasks := s.tasks.insert c .spawned } where
  member := h.member
  ready hr := by cases hr
  links := h.links
  tasks i t hi := by
    rw [lookup_insert_if] at hi
    split at hi
    · next he => subst he; exact ⟨hc, hl⟩
    · exact h.tasks i t hi

theorem Inv.addPeer : Inv s.addPeer :=
  h.insertPeer (Nat.le_succ _) (Nat.lt_succ_self _)
    (fun p hp => absurd (h.links _ p hp).1 (Nat.lt_irrefl _)) (fun hc => by cases hc)

theorem Inv.accept (req : PeerAuth) : Inv (s.accept req) := by
  unfold ClusterNode.accept
  split
  · exact h
  · exact h.insertPeer (Nat.le_succ _) (Nat.lt_succ_self _)
      (fun p hp => absurd (h.links _ p hp).1 (Nat.lt_irrefl _))
      (fun _ => ⟨Nat.le_refl _, Nat.lt_succ_self _⟩)

theorem Inv.connect (peer : Nat) (res : PeerAuth) : Inv (s.connect peer res) := by
  unfold ClusterNode.connect
  split
  · exact h
  · next p hp =>
    split
    · next hout =>
      obtain ⟨-, hdown⟩ : p.isOutbound = true ∧ p.connected = false := by simpa using hout
      have hfree : ∀ q, s.peers.lookup peer = some q → q.connected = false := fun q hq =>
        Option.some.inj (hp.symm.trans hq) ▸ hdown
      have hlink : ∀ q : PeerServerInfo, q.connection = s.next →
          Inv { s with peers := s.peers.insert peer q, next := s.next + 1 } := fun q hq =>
        h.insertPeer (Nat.le_succ _) (Nat.lt_succ_of_lt (h.links _ p hp).1) hfree
          (fun _ => ⟨hq.ge, hq ▸ Nat.lt_succ_self _⟩)
      dsimp only
      split
      · next hauth =>
        refine (hlink _ rfl).spawn (c := s.next) (Nat.lt_succ_self _) fun k q hk hc he => ?_
        rcases lookup_insert_cases hk with ⟨-, rfl⟩ | ⟨-, hk⟩
        · simpa [authorityLink, toAuthority, PeerServerInfo.setConnected] using hauth
        · -- the other links have older connections
          have := (h.links k q hk).2 hc
          omega
      · exact hlink _ rfl
    · exact h

/-- Links that are up stay, or go. -/
theorem Inv.narrow {ready : Bool} (hk : ∀ k p, peers.lookup k = some p → k < s.next ∧
      (p.connected = true → s.peers.lookup k = some p))
    (hr : ready = true → s.Backed peers) : Inv { s with clusterReady := ready, peers } where
  member := h.member
  ready := hr
  links k p hp := ⟨(hk k p hp).1, fun hc => (h.links k p ((hk k p hp).2 hc)).2 hc⟩
  tasks i t hi :=
    have ht := h.tasks i t hi
    ⟨ht.1, fun k p hp hc he => ht.2 k p ((hk k p hp).2 hc) hc he⟩

theorem Inv.disconnect (peer : Nat) : Inv (s.disconnect peer) := by
  unfold ClusterNode.disconnect
  split
  · exact h
  · next p hp =>
    split
    · next hc =>
      -- at any other entry the links are the same
      have hother : ∀ a, a ≠ peer → (if p.isOutbound then s.peers.insert peer p.setDisconnected
          else s.peers.erase peer).lookup a = s.peers.lookup a := by
        intro a ha
        split
        · rw [lookup_insert_if, if_neg ha]
        · rw [lookup_erase_if, if_neg ha]
      refine h.narrow (fun k q hq => ?_) fun hr => ?_
      · by_cases hk : k = peer
        · subst hk
          refine ⟨(h.links _ p hp).1, fun hqc => ?_⟩
          split at hq
          · rw [lookup_insert_if, if_pos rfl] at hq
            cases hq
            cases hqc
          · rw [lookup_erase_if, if_pos rfl] at hq
            cases hq
        · rw [hother k hk] at hq
          exact ⟨(h.links k q hq).1, fun _ => hq⟩
      · rw [h.member.1, h.member.2] at hr
        split at hr
        · cases hr
        · next ha =>
          refine (h.ready hr).change (fun q hq => ?_) hother
          cases hp.symm.trans hq
          simpa [authorityLink] using fun _ _ => ha
    · exact h

theorem Inv.stop {peer : Nat} (hs : s.Steady (.stop peer)) : Inv (s.stop peer) := by
  unfold ClusterNode.stop
  split
  · exact h
  · split
    · refine h.narrow (fun k q hq => ?_) hs
      obtain ⟨-, hq⟩ := lookup_erase_some.mp hq
      exact ⟨(h.links k q hq).1, fun _ => hq⟩
    · exact h

theorem Inv.apply {op : ClusterNodeOp} (hs : s.Steady op) : Inv (s.apply op) := by
  cases op with
  | addPeer => exact h.addPeer
  | connect peer res => exact h.connect peer res
  | accept req => exact h.accept req
  | disconnect peer => exact h.disconnect peer
  | stop peer => exact h.stop hs
  | start task => exact h.start task
  | loaded task allocations => exact h.loaded task allocations
  | ask task => exact h.ask task
  | answer task ip => exact h.answer task ip
  | finish task => exact h.finish hs

end

theorem inv_of_steady (h : sys.ReachWith Steady s) : Inv s := by
  refine h.invariant (fun s hi => ?_) fun s op s' hinv hs hst => ?_
  · obtain ⟨config, hm, rfl⟩ := hi
    exact Inv.new hm
  · cases hst
    exact hinv.apply hs

theorem leaseGate_eq_passed (hm : Member s.config) : s.leaseGate = .passed ↔ s.clusterReady = true := by
  unfold leaseGate
  cases s.clusterReady <;> simp [hm.1, hm.2]

/-- In every run in which a reconciliation ends before its link goes, or another link is reconciled,
and the only reconciled link is not removed, the server is ready only over a link that is up and
reconciled, and only then lets a request for a lease through. -/
theorem ready_sound (h : sys.ReachWith Steady s) : s.Sound where
  ready := (inv_of_steady h).ready
  gate hg := (inv_of_steady h).ready ((leaseGate_eq_passed (inv_of_steady h).member).mp hg)

/-! ## Two servers -/

/-- Two servers, of which `a` is the authority. -/
def serverA : ClusterConfig := ⟨"a", "a", "digest"⟩

def serverB : ClusterConfig := ⟨"b", "a", "digest"⟩

def laptopAllocation : LocalIpAllocation where
  networkCode := "lan"
  ownerType := .vntDevice
  ownerId := "laptop"
  ip := 0x0A1A0002#32
  network := defaultNet
  gateway := 0x0A1A0001#32
  leaseDurationSecs := 3600

/-- The link comes up and the only allocation is confirmed over it. -/
def confirmed : List ClusterNodeOp :=
  [.addPeer, .connect 0 serverA.auth, .start 1, .loaded 1 (some [laptopAllocation]), .ask 1,
    .answer 1 (some laptopAllocation.ip), .finish 1]

theorem ready_sound_confirmed :
    (confirmed.foldl apply (new serverB)).clusterReady = true ∧
      (confirmed.foldl apply (new serverB)).Sound :=
  ⟨by decide, ready_sound (Sys.ReachWith.foldl (Sys.ReachWith.init (S := sys) (C := Steady)
    ⟨serverB, by decide, rfl⟩) (by decide))⟩

/-- The link is lost while its reconciliation loads the allocations, of which there are none. -/
def lostWhileLoading : List ClusterNodeOp :=
  [.addPeer, .connect 0 serverA.auth, .start 1, .disconnect 0, .loaded 1 (some []), .finish 1]

/-- The server after this. -/
def linkless : ClusterNode := lostWhileLoading.foldl apply (new serverB)

/-- The server is ready and lets a request through, with no link at all. -/
theorem ready_without_link :
    sys.Reach linkless ∧ linkless.clusterReady = true ∧ linkless.leaseGate = .passed ∧
      linkless.authorityPeer = none ∧ ¬ linkless.Sound :=
  ⟨Sys.Reach.foldl (Sys.Reach.init (S := sys) ⟨serverB, by decide, rfl⟩) _, by decide, by decide,
    by decide, fun h => absurd (h.ready (by decide)) (by decide)⟩

end ClusterNode

end Vntc
