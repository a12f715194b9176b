import Vntc.Server.Peer.Ready
import Vntc.Server.Peer.Routes

/-!
# Removing a peer

`remove_outbound_peer` of `server/peer_server.rs` stops the connection task of a link. The task runs
the communication loop inside a `select!`, and the clean-up of the routes stands after that loop: a
stop that arrives while the loop runs drops the loop, and the clean-up with it.

A section of the task without a suspension point is one step, so a removal between two steps is a stop
at a suspension point. The wait for the task (at most five seconds) is taken to succeed.
-/

namespace Vntc

open Lib RouteState HashMap

namespace NetworkState

variable {st : NetworkState} {source a : String}

theorem remoteSource_of_update {ips : HashSet Ipv4Addr}
    (h : ((st.updateRemoteWireguardIps source ips).1.leaseState.remoteWireguardSources.lookup
      a).isSome) : a = source ∨ (st.leaseState.remoteWireguardSources.lookup a).isSome := by
  by_cases ha : a = source
  · exact .inl ha
  · unfold updateRemoteWireguardIps at h
    dsimp only at h
    split at h
    · exact .inr h
    · refine .inr ?_
      split at h
      · rwa [lookup_erase_if, if_neg ha] at h
      · rwa [lookup_insert_if, if_neg ha] at h

theorem remoteSource_of_remove
    (h : ((st.removeRemoteWireguardSource source).1.leaseState.remoteWireguardSources.lookup
      a).isSome) : a ≠ source ∧ (st.leaseState.remoteWireguardSources.lookup a).isSome := by
  unfold removeRemoteWireguardSource at h
  split at h
  · rename_i hn
    refine ⟨?_, h⟩
    rintro rfl
    rw [hn] at h
    cases h
  · rw [lookup_erase_if] at h
    split at h
    · cases h
    · rename_i ha
      exact ⟨ha, h⟩

end NetworkState

namespace RouteState

variable {s : RouteState} {peer : Nat}

/-- The network has addresses of WireGuard peers from the source. -/
def sourceAt (s : RouteState) (networkCode source : String) : Bool :=
  (s.networkStates.lookup networkCode).any fun st =>
    (st.leaseState.remoteWireguardSources.lookup source).isSome

variable {a n : String}

theorem sourceAt_iff : s.sourceAt n a = true ↔ ∃ st, s.networkStates.lookup n = some st ∧
      (st.leaseState.remoteWireguardSources.lookup a).isSome := by
  simp [sourceAt, Option.any_eq_true]

theorem sourceAt_handleNetworkInfo {info : NetworkInfo}
    (h : (s.handleNetworkInfo peer info).sourceAt n a = true) :
    s.sourceAt n a = true ∨ n = info.networkCode ∧ a = (s.links peer).addr := by
  obtain ⟨st, hst, hs⟩ := sourceAt_iff.mp h
  simp only [handleNetworkInfo] at hst
  split at hst
  · rename_i st₀ h₀
    rcases lookup_insert_cases hst with ⟨hn, rfl⟩ | ⟨-, hst⟩
    · rcases NetworkState.remoteSource_of_update hs with ha | hs
      · exact .inr ⟨hn, ha⟩
      · exact .inl (sourceAt_iff.mpr ⟨st₀, hn ▸ h₀, hs⟩)
    · exact .inl (sourceAt_iff.mpr ⟨st, hst, hs⟩)
  · exact .inl (sourceAt_iff.mpr ⟨st, hst, hs⟩)

theorem sourceAt_cleanupNetwork {code : String}
    (h : (s.cleanupNetwork peer code).sourceAt n a = true) :
    s.sourceAt n a = true ∧ ¬ (n = code ∧ a = (s.links peer).addr) := by
  obtain ⟨st, hst, hs⟩ := sourceAt_iff.mp h
  simp only [cleanupNetwork] at hst
  split at hst
  · rename_i st₀ h₀
    rcases lookup_insert_cases hst with ⟨hn, rfl⟩ | ⟨hn, hst⟩
    · obtain ⟨ha, hs⟩ := NetworkState.remoteSource_of_remove hs
      exact ⟨sourceAt_iff.mpr ⟨st₀, hn ▸ h₀, hs⟩, fun hc => ha hc.2⟩
    · exact ⟨sourceAt_iff.mpr ⟨st, hst, hs⟩, fun hc => hn hc.1⟩
  · rename_i hno
    refine ⟨sourceAt_iff.mpr ⟨st, hst, hs⟩, ?_⟩
    rintro ⟨rfl, -⟩
    rw [hno] at hst
    cases hst

theorem sourceAt_cleanupRoutes (h : (s.cleanupRoutes peer).sourceAt n a = true) :
    s.sourceAt n a = true ∧ ¬ (n ∈ s.networkCodes peer ∧ a = (s.links peer).addr) := by
  have hfold : ∀ (codes : List String) (t : RouteState), t.links = s.links →
      (codes.foldl (fun s code => s.cleanupNetwork peer code) t).sourceAt n a = true →
      t.sourceAt n a = true ∧ ¬ (n ∈ codes ∧ a = (s.links peer).addr) := by
    intro codes
    induction codes with
    | nil => exact fun t _ ht => ⟨ht, fun hc => by cases hc.1⟩
    | cons code codes ih =>
      intro t hl ht
      obtain ⟨hs, hrest⟩ := ih (t.cleanupNetwork peer code) hl ht
      obtain ⟨hs, hcode⟩ := sourceAt_cleanupNetwork hs
      refine ⟨hs, fun hc => ?_⟩
      rcases List.mem_cons.mp hc.1 with hn | hn
      · exact hcode ⟨hn, hl ▸ hc.2⟩
      · exact hrest ⟨hn, hc.2⟩
  exact hfold _ s rfl h

end RouteState

def defaultServerLatencyMs : BitVec 32 := 10

/-- A server with its links and what it has learned over them. -/
structure PeerManager where
  node : ClusterNode
  routes : RouteState
  /-- The links that `remove_outbound_peer` has removed so far. -/
  removed : List Nat

inductive PeerManagerOp
  | addPeer (addr : String)
  | connect (peer : Nat) (res : PeerAuth)
  | accept (addr : String) (req : PeerAuth)
  | response (peer : Nat) (networks : List NetworkInfo)
  | latency (peer : Nat) (latency : BitVec 32)
  | disconnect (peer : Nat)
  | remove (addr : String)
  /-- A step of a reconciliation. -/
  | reconcile (op : ClusterNodeOp)
  /-- The first device of a network registers here. -/
  | network (networkCode : String) (state : NetworkState)

/-- The operation is a step of `reconcile_local_allocations`. -/
def ClusterNodeOp.isReconcile : ClusterNodeOp → Bool
  | .start _ | .loaded .. | .ask _ | .answer .. | .finish _ => true
  | .addPeer | .connect .. | .accept _ | .disconnect _ | .stop _ => false

namespace PeerManager

variable (s : PeerManager)

/-- The communication loop of the link runs. -/
def up (peer : Nat) : Bool := (s.node.peers.lookup peer).any (·.connected)

def withLink (peer : Nat) (link : PeerLink) : RouteState :=
  { s.routes with
    links := Function.update s.routes.links peer link
    networkCodes := Function.update s.routes.networkCodes peer ∅ }

/-- An outbound link of the address. -/
def outboundAt (addr : String) (peer : Nat) (info : PeerServerInfo) : Bool :=
  info.isOutbound && (s.routes.links peer).addr == addr

/-- `add_outbound_peer`, with a new link and its task. -/
def addPeer (addr : String) : PeerManager :=
  if s.node.peers.entries.any fun e => s.outboundAt addr e.1 e.2 then s
  else { s with node := s.node.addPeer, routes := s.withLink s.node.next ⟨addr, 0, defaultServerLatencyMs⟩ }

/-- The link is up, with an empty set of networks. -/
def connect (peer : Nat) (res : PeerAuth) : PeerManager :=
  if (s.node.peers.lookup peer).any fun p => p.isOutbound && !p.connected then
    { s with
      node := s.node.connect peer res
      routes := s.withLink peer
        { s.routes.links peer with remoteCapabilities := res.capabilities } }
  else s

def accept (addr : String) (req : PeerAuth) : PeerManager :=
  if s.node.config.serverId ≠ "" ∧ req.serverId = s.node.config.serverId then s
  else
    { s with
      node := s.node.accept req
      routes := s.withLink s.node.next ⟨addr, req.capabilities, defaultServerLatencyMs⟩ }

/-- The end of `run_peer_communication_loop`. -/
def disconnect (peer : Nat) : PeerManager :=
  if s.up peer then
    { s with node := s.node.disconnect peer, routes := s.routes.cleanupRoutes peer }
  else s

/-- `remove_outbound_peer`: the task is dropped where it stands. -/
def remove (addr : String) : PeerManager :=
  { s with
    node := { s.node with peers := s.node.peers.retain fun k p => !s.outboundAt addr k p }
    removed := (s.node.peers.retain (s.outboundAt addr)).keys ++ s.removed }

def apply : PeerManagerOp → PeerManager
  | .addPeer addr => s.addPeer addr
  | .connect peer res => s.connect peer res
  | .accept addr req => s.accept addr req
  | .response peer networks =>
    if s.up peer then { s with routes := s.routes.handleClientInfoResponse peer networks } else s
  | .latency peer latency => { s with routes := s.routes.updateLatency peer latency }
  | .disconnect peer => s.disconnect peer
  | .remove addr => s.remove addr
  | .reconcile op => if op.isReconcile then { s with node := s.node.apply op } else s
  | .network code state =>
    if (s.routes.networkStates.lookup code).isSome then s
    else { s with routes := { s.routes with
      networkStates := s.routes.networkStates.insert code
        { state with leaseState := { state.leaseState with remoteWireguardSources := ∅ } } } }

/-- A new server, with networks that know no addresses of others. -/
def Fresh : Prop :=
  s.node = .new s.node.config ∧ s.routes.ipToRoutes = ∅ ∧
    (∀ n a, s.routes.sourceAt n a = false) ∧ s.removed = []

def sys : Sys PeerManager PeerManagerOp := .ofFun Fresh apply

/-- What is left of a removed link: no route over it; no addresses from its source, unless another
link of that address is up and has announced the network; and without a link to the authority the
server is not ready. -/
structure Clean (peer : Nat) : Prop where
  routes : ∀ n ip, ∀ r ∈ s.routes.routesAt n ip, r.peer ≠ peer
  wireguard : ∀ n, s.routes.sourceAt n (s.routes.links peer).addr = true →
    ∃ k, k ≠ peer ∧ s.up k = true ∧ (s.routes.links k).addr = (s.routes.links peer).addr ∧
      n ∈ s.routes.networkCodes k
  ready : ClusterNode.Member s.node.config →
    (∀ k p, s.node.peers.lookup k = some p → s.node.authorityLink p = false) →
      s.node.clusterReady = false

/-- A removal finds each link of the address down, or up with no network announced and not to the
authority; a reconciliation that ends without a conflict ends over its own connection, or next to a
reconciled link. -/
def Attended : PeerManagerOp → Prop
  | .remove addr => ∀ e ∈ s.node.peers.entries, s.outboundAt addr e.1 e.2 = true →
      e.2.connected = true → (s.routes.networkCodes e.1).keys = [] ∧ s.node.toAuthority e.2 = false
  | .reconcile op => s.node.Steady op
  | _ => True

instance : ∀ op, Decidable (s.Attended op)
  | .remove _ => inferInstanceAs (Decidable (∀ e ∈ s.node.peers.entries, _))
  | .reconcile op => inferInstanceAs (Decidable (s.node.Steady op))
  | .addPeer _ | .connect .. | .accept .. | .response .. | .latency .. | .disconnect _
  | .network .. => inferInstanceAs (Decidable True)

/-! ## The invariant -/

structure Inv : Prop where
  below : ∀ k p, s.node.peers.lookup k = some p → k < s.node.next
  /-- Routes go over links that are up. -/
  routes : ∀ n ip, ∀ r ∈ s.routes.routesAt n ip,
    s.up r.peer = true ∧ n ∈ s.routes.networkCodes r.peer
  sources : ∀ n a, s.routes.sourceAt n a = true →
    ∃ k, s.up k = true ∧ (s.routes.links k).addr = a ∧ n ∈ s.routes.networkCodes k
  removed : ∀ k ∈ s.removed, k < s.node.next ∧ s.node.peers.lookup k = none
  member : ClusterNode.Member s.node.config → ClusterNode.Inv s.node

variable {s}

variable {k peer : Nat} {op : ClusterNodeOp}

theorem up_iff : s.up k = true ↔ ∃ p, s.node.peers.lookup k = some p ∧ p.connected = true := by
  simp [up, Option.any_eq_true]

theorem Inv.up_lt (h : s.Inv) (hk : s.up k = true) : k < s.node.next := by
  obtain ⟨p, hp, -⟩ := up_iff.mp hk
  exact h.below k p hp

theorem Inv.clean (h : s.Inv) (hk : k ∈ s.removed) : s.Clean k := by
  have hdown : ∀ k', s.up k' = true → k' ≠ k := by
    rintro k' hu rfl
    obtain ⟨p, hp, -⟩ := up_iff.mp hu
    rw [(h.removed k' hk).2] at hp
    cases hp
  refine ⟨fun n ip r hr => hdown _ (h.routes n ip r hr).1, fun n hn => ?_, fun hm hno => ?_⟩
  · obtain ⟨k', hu, ha⟩ := h.sources n _ hn
    exact ⟨k', hdown k' hu, hu, ha⟩
  · cases hr : s.node.clusterReady with
    | false => rfl
    | true =>
      obtain ⟨k', p, hp, hl, -⟩ := ClusterNode.backed_iff.mp ((h.member hm).ready hr)
      rw [hno k' p hp] at hl
      cases hl

/-! ## Steps of the node

What a step of the links does to them: which are up, and which numbers are taken. -/

section

variable (h : s.Inv)

include h

/-- The links that are up go on, and others that come up have a new set of networks. -/
theorem Inv.withNode {node : ClusterNode} {link : PeerLink}
    (hfree : s.up peer = false) (hpeer : peer ∉ s.removed ∧ peer < node.next)
    (hnext : s.node.next ≤ node.next)
    (hother : ∀ k, k ≠ peer → node.peers.lookup k = s.node.peers.lookup k)
    (hm : ClusterNode.Member node.config → ClusterNode.Inv node) :
    Inv { s with node, routes := s.withLink peer link } := by
  have hne : ∀ k, s.up k = true → k ≠ peer := by
    rintro k hu rfl
    rw [hfree] at hu
    cases hu
  have hup : ∀ k, s.up k = true → (node.peers.lookup k).any (·.connected) = true := by
    intro k hu
    rw [hother k (hne k hu)]
    exact hu
  refine ⟨fun k p hk => ?_, fun n ip r hr => ?_, fun n a ha => ?_, fun k hk => ?_, hm⟩
  · by_cases hkp : k = peer
    · rw [hkp]
      exact hpeer.2
    · rw [hother k hkp] at hk
      have := h.below k p hk
      show k < node.next
      omega
  · obtain ⟨hu, hn⟩ := h.routes n ip r hr
    refine ⟨hup _ hu, ?_⟩
    simp only [withLink, Function.update_apply, hne _ hu, if_false]
    exact hn
  · obtain ⟨k, hu, haddr, hn⟩ := h.sources n a ha
    refine ⟨k, hup k hu, ?_, ?_⟩
    · simp only [withLink, Function.update_apply, hne k hu, if_false]
      exact haddr
    · simp only [withLink, Function.update_apply, hne k hu, if_false]
      exact hn
  · obtain ⟨hlt, hnone⟩ := h.removed k hk
    have hkp : k ≠ peer := by
      rintro rfl
      exact hpeer.1 hk
    refine ⟨?_, ?_⟩
    · show k < node.next
      omega
    · show node.peers.lookup k = none
      rw [hother k hkp]
      exact hnone

theorem Inv.not_up_next : s.up s.node.next = false := by
  cases hu : s.up s.node.next with
  | false => rfl
  | true => exact absurd (h.up_lt hu) (Nat.lt_irrefl _)

theorem Inv.next_not_removed : s.node.next ∉ s.removed :=
  fun hk => Nat.lt_irrefl _ (h.removed _ hk).1

theorem Inv.addPeer (addr : String) : (s.addPeer addr).Inv := by
  unfold PeerManager.addPeer
  split
  · exact h
  · refine h.withNode h.not_up_next ⟨h.next_not_removed, Nat.lt_succ_self _⟩ (Nat.le_succ _)
      (fun k hk => ?_) fun hm => (h.member hm).addPeer
    show (s.node.peers.insert s.node.next _).lookup k = _
    rw [lookup_insert_if, if_neg hk]

theorem Inv.accept (addr : String) (req : PeerAuth) : (s.accept addr req).Inv := by
  unfold PeerManager.accept
  split
  · exact h
  · rename_i hid
    have hnode : s.node.accept req = { s.node with
        peers := s.node.peers.insert s.node.next (((PeerServerInfo.new false).setRemoteMetadata
          req.serverId (s.node.config.peerClusterCompatible req)).setConnected s.node.next)
        next := s.node.next + 1 } := by
      unfold ClusterNode.accept
      rw [if_neg hid]
    refine h.withNode h.not_up_next ⟨h.next_not_removed, ?_⟩ ?_ (fun k hk => ?_) fun hm => ?_
    · rw [hnode]
      exact Nat.lt_succ_self _
    · rw [hnode]
      exact Nat.le_succ _
    · rw [hnode]
      exact (lookup_insert_if _ _ _ _).trans (if_neg hk)
    · rw [hnode] at hm
      exact (h.member hm).accept req

theorem Inv.connect (peer : Nat) (res : PeerAuth) : (s.connect peer res).Inv := by
  unfold PeerManager.connect
  split
  · rename_i hc
    obtain ⟨p, hp, hpo⟩ := Option.any_eq_true _ _ |>.mp hc
    obtain ⟨hout, hdown⟩ : p.isOutbound = true ∧ p.connected = false := by simpa using hpo
    -- What `connect` does to a link that is down.
    have hnode : (s.node.connect peer res).config = s.node.config ∧
        (s.node.connect peer res).next = s.node.next + 1 ∧
        ∀ k, k ≠ peer → (s.node.connect peer res).peers.lookup k = s.node.peers.lookup k := by
      simp only [ClusterNode.connect, hp, hpo, if_true]
      split <;> exact ⟨rfl, rfl, fun k hk => by simp [hk]⟩
    obtain ⟨hconf, hnext, hother⟩ := hnode
    have hlt := h.below peer p hp
    refine h.withNode (by simp [up, hp, hdown]) ⟨fun hk => ?_, by omega⟩ (by omega) hother fun hm => ?_
    · rw [(h.removed peer hk).2] at hp
      cases hp
    · rw [hconf] at hm
      exact (h.member hm).connect peer res
  · exact h

theorem Inv.routesAt_cleanupRoutes (n : String) (ip : Ipv4Addr) (peer : Nat) :
    (s.routes.cleanupRoutes peer).routesAt n ip = (s.routes.routesAt n ip).filter (·.peer ≠ peer) :=
  RouteState.routesAt_cleanupRoutes (fun n ip r hr => (h.routes n ip r hr).2) n ip

theorem Inv.disconnect (peer : Nat) : (s.disconnect peer).Inv := by
  unfold PeerManager.disconnect
  split
  · rename_i hu
    obtain ⟨p, hp, hc⟩ := up_iff.mp hu
    have hnode : s.node.disconnect peer = { s.node with
        clusterReady := (s.node.disconnect peer).clusterReady
        peers := if p.isOutbound then s.node.peers.insert peer p.setDisconnected
          else s.node.peers.erase peer } := by
      simp [ClusterNode.disconnect, hp, hc]
    have hother : ∀ k, k ≠ peer →
        (s.node.disconnect peer).peers.lookup k = s.node.peers.lookup k := by
      intro k hk
      rw [hnode]
      split
      · rw [lookup_insert_if, if_neg hk]
      · rw [lookup_erase_if, if_neg hk]
    have hup : ∀ k, s.up k = true → k ≠ peer →
        ((s.node.disconnect peer).peers.lookup k).any (·.connected) = true := by
      intro k hk hne
      rw [hother k hne]
      exact hk
    refine ⟨fun k q hk => ?_, fun n ip r hr => ?_, fun n a ha => ?_, fun k hk => ?_, fun hm => ?_⟩
    · have hnext : (s.node.disconnect peer).next = s.node.next := by rw [hnode]
      rw [hnext]
      by_cases hkp : k = peer
      · exact h.below k p (hkp ▸ hp)
      · exact h.below k q ((hother k hkp).symm.trans hk)
    · rw [h.routesAt_cleanupRoutes, List.mem_filter, decide_eq_true_eq] at hr
      obtain ⟨hu', hn⟩ := h.routes n ip r hr.1
      refine ⟨hup _ hu' hr.2, ?_⟩
      simp only [cleanupRoutes, Function.update_apply, hr.2, if_false]
      exact hn
    · obtain ⟨hs, hno⟩ := sourceAt_cleanupRoutes ha
      obtain ⟨k, hu', haddr, hn⟩ := h.sources n a hs
      have hne : k ≠ peer := by
        rintro rfl
        exact hno ⟨hn, haddr.symm⟩
      refine ⟨k, hup k hu' hne, ?_, ?_⟩
      · rw [links_cleanupRoutes]
        exact haddr
      · simp only [cleanupRoutes, Function.update_apply, hne, if_false]
        exact hn
    · obtain ⟨hlt, hnone⟩ := h.removed k hk
      have hne : k ≠ peer := by
        rintro rfl
        rw [hnone] at hp
        cases hp
      refine ⟨?_, (hother k hne).trans hnone⟩
      rw [hnode]
      exact hlt
    · rw [hnode] at hm
      exact (h.member hm).disconnect peer
  · exact h

/-- A removal that is attended takes away links over which nothing was learned. -/
theorem Inv.remove {addr : String} (ha : s.Attended (.remove addr)) : (s.remove addr).Inv := by
  have hlook : ∀ k, (s.node.peers.retain fun k p => !s.outboundAt addr k p).lookup k =
      (s.node.peers.lookup k).filter fun p => !s.outboundAt addr k p := fun k =>
    lookup_retain _ _ k
  -- A link that is up and goes has announced nothing.
  have hquiet : ∀ k, s.up k = true → ¬ (((s.node.peers.retain fun k p =>
      !s.outboundAt addr k p).lookup k).any (·.connected) = true) →
      (s.routes.networkCodes k).keys = [] := by
    intro k hu hd
    obtain ⟨p, hp, hc⟩ := up_iff.mp hu
    refine (ha ⟨k, p⟩ (mem_entries.mpr hp) ?_ hc).1
    by_contra hout
    exact hd (by simp [hlook, hp, hout, hc])
  have hgone : ∀ k n, n ∈ s.routes.networkCodes k → s.up k = true →
      ((s.node.peers.retain fun k p => !s.outboundAt addr k p).lookup k).any (·.connected) = true := by
    intro k n hn hu
    by_contra hd
    have hn' : n ∈ (s.routes.networkCodes k).keys := hn
    rw [hquiet k hu hd] at hn'
    cases hn'
  refine ⟨fun k p hk => ?_, fun n ip r hr => ?_, fun n a hs => ?_, fun k hk => ?_, fun hm => ?_⟩
  · obtain ⟨hk, -⟩ := Option.filter_eq_some_iff.mp ((hlook k).symm.trans hk)
    exact h.below k p hk
  · obtain ⟨hu, hn⟩ := h.routes n ip r hr
    exact ⟨hgone _ n hn hu, hn⟩
  · obtain ⟨k, hu, haddr, hn⟩ := h.sources n a hs
    exact ⟨k, hgone k n hn hu, haddr, hn⟩
  · rcases List.mem_append.mp hk with hk | hk
    · have hin : k ∈ s.node.peers.retain (s.outboundAt addr) := hk
      obtain ⟨p, hp⟩ := Option.isSome_iff_exists.mp (AList.lookup_isSome.mpr hin)
      rw [lookup_retain] at hp
      obtain ⟨hp, hout⟩ := Option.filter_eq_some_iff.mp hp
      exact ⟨h.below k p hp, (hlook k).trans (by simp [hp, hout])⟩
    · obtain ⟨hlt, hnone⟩ := h.removed k hk
      exact ⟨hlt, (hlook k).trans (by rw [hnone]; rfl)⟩
  · refine (h.member hm).narrow (fun k p hk => ?_) fun hr => ?_
    · obtain ⟨hk, -⟩ := Option.filter_eq_some_iff.mp ((hlook k).symm.trans hk)
      exact ⟨h.below k p hk, fun _ => hk⟩
    · -- The link that backs the flag is one to the authority, so it is not taken away.
      obtain ⟨k, p, hp, hrec⟩ := ClusterNode.backed_iff.mp ((h.member hm).ready hr)
      refine ClusterNode.backed_iff.mpr ⟨k, p, ?_, hrec⟩
      obtain ⟨⟨hc, -⟩, hauth⟩ : (p.connected = true ∧ p.clusterCompatible = true) ∧
          s.node.toAuthority p = true := by simpa [ClusterNode.authorityLink] using hrec.1
      cases hout : s.outboundAt addr k p with
      | false => simp [hlook, hp, hout]
      | true =>
        have := (ha ⟨k, p⟩ (mem_entries.mpr hp) hout hc).2
        rw [hauth] at this
        cases this

/-- Another list of a link that is up. -/
theorem Inv.handleNetworkInfo (hu : s.up peer = true)
    (info : NetworkInfo) : Inv { s with routes := s.routes.handleNetworkInfo peer info } := by
  have hcodes : ∀ k n, n ∈ s.routes.networkCodes k →
      n ∈ (s.routes.handleNetworkInfo peer info).networkCodes k := by
    intro k n hn
    simp only [RouteState.handleNetworkInfo, Function.update_apply]
    split
    · rename_i hk
      rw [hk] at hn
      exact AList.mem_insert _ |>.mpr (.inr hn)
    · exact hn
  have hnew : info.networkCode ∈ (s.routes.handleNetworkInfo peer info).networkCodes peer := by
    simp [RouteState.handleNetworkInfo]
  refine ⟨h.below, fun n ip r hr => ?_, fun n a ha => ?_, h.removed, h.member⟩
  · rcases mem_routesAt_handleNetworkInfo hr with hr | ⟨rfl, c, -, rfl⟩
    · obtain ⟨hup, hn⟩ := h.routes n ip r hr
      exact ⟨hup, hcodes _ n hn⟩
    · exact ⟨hu, hnew⟩
  · rcases sourceAt_handleNetworkInfo ha with ha | ⟨rfl, rfl⟩
    · obtain ⟨k, hup, haddr, hn⟩ := h.sources n a ha
      exact ⟨k, hup, haddr, hcodes k n hn⟩
    · exact ⟨peer, hu, rfl, hnew⟩

theorem Inv.response (hu : s.up peer = true) (networks : List NetworkInfo) :
    Inv { s with routes := s.routes.handleClientInfoResponse peer networks } := by
  induction networks generalizing s with
  | nil => exact h
  | cons info networks ih => exact ih (h.handleNetworkInfo hu info) hu

theorem Inv.latency (peer : Nat) (latency : BitVec 32) :
    Inv { s with routes := s.routes.updateLatency peer latency } := by
  refine ⟨h.below, h.routes, fun n a ha => ?_, h.removed, h.member⟩
  obtain ⟨k, hu, haddr, hn⟩ := h.sources n a ha
  refine ⟨k, hu, ?_, hn⟩
  by_cases hk : k = peer
  · subst hk
    simpa [updateLatency] using haddr
  · simpa [updateLatency, hk] using haddr

end

/-- A reconciliation touches no link. -/
theorem reconcile_links (node : ClusterNode) (h : op.isReconcile = true) :
    (node.apply op).peers = node.peers ∧ (node.apply op).next = node.next ∧
      (node.apply op).config = node.config := by
  cases op with
  | addPeer | connect | accept | disconnect | stop => cases h
  | start task =>
    simp only [ClusterNode.apply, ClusterNode.start]
    split
    · split <;> exact ⟨rfl, rfl, rfl⟩
    · exact ⟨rfl, rfl, rfl⟩
  | loaded task allocations =>
    simp only [ClusterNode.apply, ClusterNode.loaded]
    split <;> exact ⟨rfl, rfl, rfl⟩
  | ask task =>
    simp only [ClusterNode.apply, ClusterNode.ask]
    split
    · split <;> exact ⟨rfl, rfl, rfl⟩
    · exact ⟨rfl, rfl, rfl⟩
  | answer task ip =>
    simp only [ClusterNode.apply, ClusterNode.answer]
    split <;> exact ⟨rfl, rfl, rfl⟩
  | finish task =>
    simp only [ClusterNode.apply, ClusterNode.finish]
    split <;> exact ⟨rfl, rfl, rfl⟩

theorem Inv.reconcile (h : s.Inv) (hop : op.isReconcile = true)
    (hs : s.node.Steady op) : Inv { s with node := s.node.apply op } := by
  obtain ⟨hpeers, hnext, hconf⟩ := reconcile_links s.node hop
  have hup : ∀ k, ({ s with node := s.node.apply op } : PeerManager).up k = s.up k := fun k => by
    unfold up
    rw [hpeers]
  refine ⟨?_, fun n ip r hr => ?_, fun n a ha => ?_, ?_, fun hm => ?_⟩
  · rw [hpeers, hnext]
    exact h.below
  · rw [hup]
    exact h.routes n ip r hr
  · obtain ⟨k, hu, hrest⟩ := h.sources n a ha
    exact ⟨k, (hup k).trans hu, hrest⟩
  · rw [hpeers, hnext]
    exact h.removed
  · rw [hconf] at hm
    exact (h.member hm).apply hs

theorem Inv.network (h : s.Inv) {code : String} {state : NetworkState}
    (hs : state.leaseState.remoteWireguardSources = ∅) : Inv { s with routes := { s.routes with
      networkStates := s.routes.networkStates.insert code state } } := by
  refine ⟨h.below, h.routes, fun n a ha => h.sources n a ?_, h.removed, h.member⟩
  obtain ⟨st, hst, hso⟩ := sourceAt_iff.mp ha
  rcases lookup_insert_cases hst with ⟨-, rfl⟩ | ⟨-, hst⟩
  · rw [hs] at hso
    cases hso
  · exact sourceAt_iff.mpr ⟨st, hst, hso⟩

theorem Inv.apply (h : s.Inv) {op : PeerManagerOp} (ha : s.Attended op) : (s.apply op).Inv := by
  cases op with
  | addPeer addr => exact h.addPeer addr
  | connect peer res => exact h.connect peer res
  | accept addr req => exact h.accept addr req
  | response peer networks =>
    simp only [PeerManager.apply]
    split
    · rename_i hu
      exact h.response hu networks
    · exact h
  | latency peer latency => exact h.latency peer latency
  | disconnect peer => exact h.disconnect peer
  | remove addr => exact h.remove ha
  | reconcile op =>
    simp only [PeerManager.apply]
    split
    · rename_i hop
      exact h.reconcile hop ha
    · exact h
  | network code state =>
    simp only [PeerManager.apply]
    split
    · exact h
    · exact h.network rfl

theorem Inv.fresh (h : s.Fresh) : s.Inv := by
  obtain ⟨hnode, hroutes, hsources, hremoved⟩ := h
  have hno : ∀ k, s.node.peers.lookup k = none := fun k => by rw [hnode]; rfl
  refine ⟨fun k p hk => ?_, fun n ip r hr => ?_, fun n a ha => ?_, fun k hk => ?_, fun hm => ?_⟩
  · rw [hno] at hk
    cases hk
  · simp [routesAt, hroutes, IpMap.routes] at hr
  · rw [hsources] at ha
    cases ha
  · rw [hremoved] at hk
    cases hk
  · rw [hnode]
    exact .new hm

theorem inv_of_attended (h : sys.ReachWith Attended s) : s.Inv := by
  refine Sys.ReachWith.invariant (fun s hs => Inv.fresh (s := s) hs)
    (fun s op s' hi ha hst => ?_) h
  obtain rfl := hst
  exact hi.apply ha

/-- **Nothing is left of a removed peer.** In every run in which a removal finds its link down or with
nothing learned over it, and a reconciliation ends over its own link, for every link that was removed:
no route goes over it, no network has addresses of WireGuard peers from it, and the server is not
ready if no link to the authority is left. -/
theorem removed_clean (s : PeerManager) (h : sys.ReachWith Attended s) :
    ∀ peer ∈ s.removed, s.Clean peer :=
  fun _ hk => (inv_of_attended h).clean hk

/-! ## A link to the authority -/

/-- Server `b` of a cluster, before its first link. -/
def serverB : PeerManager where
  node := .new ClusterNode.serverB
  routes := ⟨fun _ => ⟨"", 0, 0⟩, fun _ => ∅, ∅, ∅⟩
  removed := []

theorem serverB_fresh : serverB.Fresh := ⟨rfl, rfl, fun _ _ => rfl, rfl⟩

/-- The link to the authority comes up and is reconciled, and its list has a WireGuard peer. -/
def learned : List PeerManagerOp :=
  [.network "home" (.newFromDb "home" defaultNet 0 none none 0),
    .addPeer "a:29873", .connect 0 ClusterNode.serverA.auth, .reconcile (.start 1),
    .reconcile (.loaded 1 (some [])), .reconcile (.finish 1),
    .response 0 [⟨"home", [⟨homeIp 2, 10, true⟩]⟩]]

/-- The connection ends before the link is removed. -/
theorem removed_clean_disconnected :
    ∃ s, sys.ReachWith Attended s ∧ s.removed = [0] ∧ s.Clean 0 := by
  have hr : sys.ReachWith Attended
      ((learned ++ [PeerManagerOp.disconnect 0, .remove "a:29873"]).foldl PeerManager.apply serverB) :=
    (Sys.ReachWith.init serverB_fresh).foldl (by decide)
  exact ⟨_, hr, by decide, removed_clean _ hr 0 (by decide)⟩

/-- The link is removed while its loop runs: the route and the address of the WireGuard peer stay, and
the server is still ready, with no link left. -/
theorem removed_peer_leaves_routes :
    ∃ s, sys.Reach s ∧ s.removed = [0] ∧ s.node.peers.keys = [] ∧
      s.routes.routesAt "home" (homeIp 2) = [⟨0, 10⟩] ∧
      s.routes.sourceAt "home" "a:29873" = true ∧ s.node.clusterReady = true ∧ ¬ s.Clean 0 := by
  have hr : sys.Reach ((learned ++ [PeerManagerOp.remove "a:29873"]).foldl PeerManager.apply serverB) :=
    (Sys.Reach.init serverB_fresh).foldl _
  refine ⟨_, hr, by decide, by decide, by decide, by decide, by decide, fun h => ?_⟩
  exact h.routes "home" (homeIp 2) ⟨0, 10⟩ (by decide) rfl

end PeerManager

end Vntc
