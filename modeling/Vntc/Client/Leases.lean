import Vntc.Client.LeaseQueue

/-!
# Leases over a session

The session of a WireGuard peer and the VNT clients of its network, joined by the queues of the
clients. A request of the peer puts an offer into the queue of a client, the end of the session puts
a revocation there, and each client works off its queue by its own clock. In between the network
changes, and other sessions send their frames.
-/

namespace Vntc

open Lib NetworkState

namespace Client

/-! ## The session and its clients -/

/-- An offer of the session or the revocation of one. -/
structure OfferedLease where
  sender : NetworkSender
  targetIp : Ipv4Addr
  leaseId : BitVec 64
  deriving DecidableEq

/-- A session, its network and the clients of the network. A client is known by its queue; with a
new connection it is a new client here. -/
structure LeaseState where
  st : NetworkState
  key : PeerKey
  peer : RuntimePeer
  /-- The session is not over. -/
  active : Bool
  clients : Channel → P2pClient
  /-- The offers that were delivered, the newest first. -/
  offered : List OfferedLease
  /-- The revocations that were delivered. -/
  revoked : List OfferedLease

inductive LeaseOp
  /-- A method of the network. -/
  | method (op : NetworkOp)
  /-- A request of the peer. -/
  | request (env : AgentEnv) (request : AgentControlRequest) (source : SocketAddr)
  /-- The runtime removes the peer. -/
  | remove
  /-- A frame of another session. -/
  | other (channel : Channel) (frame : ControlFrame)
  | process (channel : Channel) (nowMs : Nat)
  | updateTimers (channel : Channel) (nowMs : Nat)

/-- The clients after a delivery. No queue is full. -/
def push (clients : Channel → P2pClient) (d : ControlDelivery) (channel : Channel) : P2pClient :=
  if d.sender = .vnt channel then (clients channel).enqueue d.frame else clients channel

/-- The queue of a VNT client. -/
def channel? : NetworkSender → Option Channel
  | .vnt channel => some channel
  | .wireGuard .. => none

def offer? : WireGuardP2pControl → Option WireGuardP2pOffer
  | .offer offer => some offer
  | _ => none

/-- The frame that revokes an offer. -/
def OfferedLease.revokeFrame (o : OfferedLease) (gateway : Ipv4Addr) : ControlDelivery :=
  ⟨o.sender, ⟨gateway, o.targetIp, .revoke o.leaseId⟩⟩

/-- The lease that a frame revokes. -/
def revocation (d : ControlDelivery) : Option OfferedLease :=
  match d.frame.control with
  | .revoke leaseId => some ⟨d.sender, d.frame.targetIp, leaseId⟩
  | _ => none

/-- The first element for `p` is the first one for `q`, if it is one and `q` allows no more. -/
theorem find?_of_imp {α : Type} {l : List α} {p q : α → Bool} {a : α} (h : l.find? p = some a)
    (ha : q a = true) (hpq : ∀ x ∈ l, q x = true → p x = true) : l.find? q = some a := by
  obtain ⟨-, before, after, rfl, hb⟩ := List.find?_eq_some_iff_append.mp h
  refine List.find?_eq_some_iff_append.mpr ⟨ha, before, after, rfl, fun x hx => ?_⟩
  have hn := hb x hx
  cases hq : q x with
  | false => rfl
  | true =>
    rw [hpq x (List.mem_append_left _ hx) hq] at hn
    cases hn

namespace LeaseState

variable (codec : ResponseCodec) (s : LeaseState)

def setClient (channel : Channel) (c : P2pClient) : LeaseState :=
  { s with clients := Function.update s.clients channel c }

def handleRequest (env : AgentEnv) (request : AgentControlRequest) (source : SocketAddr) :
    LeaseState :=
  match s.peer.handleAgentControl codec s.st s.key env request source with
  | (traffic, none) => { s with peer := { s.peer with traffic } }
  | (traffic, some d) =>
    { s with
      peer := { s.peer with traffic }
      clients := push s.clients d
      offered := ⟨d.sender, d.frame.targetIp, env.leaseId⟩ :: s.offered }

def removePeer : LeaseState :=
  let frames := s.peer.revokeLeases s.st
  { s with
    active := false
    st := s.st.apply (.disconnectPeer s.key.peerId s.peer.reservedIp)
    clients := frames.foldl push s.clients
    revoked := frames.filterMap revocation }

def step : LeaseOp → LeaseState
  | .method op => { s with st := s.st.apply op }
  | .request env request source =>
    -- `parse_agent_control` refuses the id 0.
    if s.active = true ∧ request.requestId ≠ 0 then s.handleRequest codec env request source else s
  | .remove => if s.active = true then s.removePeer else s
  | .other channel frame => s.setClient channel ((s.clients channel).enqueue frame)
  | .process channel nowMs => s.setClient channel ((s.clients channel).process nowMs)
  | .updateTimers channel nowMs => s.setClient channel ((s.clients channel).updateTimers nowMs)

/-- A new session. -/
def Started : Prop :=
  s.active = true ∧ s.offered = [] ∧ ∀ ip, s.peer.traffic.p2pLeases.lookup ip = none

def leaseSys : Sys LeaseState LeaseOp := Sys.ofFun Started (step codec)

/-- The lease ids of the offers to a client. -/
def offeredTo (channel : Channel) : List (BitVec 64) :=
  (s.offered.filter (·.sender == .vnt channel)).map (·.leaseId)

/-- The lease ids of the offers that a client takes from its queue. -/
def takenBy (channel : Channel) : List (BitVec 64) :=
  (s.offered.filter fun o =>
    o.sender == .vnt channel && (s.clients channel).takes s.st.gateway o.targetIp).map (·.leaseId)

/-- A client has no revocation of the session left in its queue. -/
def Drained (channel : Channel) : Prop :=
  ∀ frame ∈ (s.clients channel).queue, ∀ o ∈ s.revoked, frame.control ≠ .revoke o.leaseId

/-- A client that has an entry of the session does not refuse the first message for its runtime. -/
def TakesFirst (channel : Channel) (nowMs : Nat) : Prop :=
  ∀ offer ∈ (s.clients channel).pending.head?.bind offer?,
    offer.leaseId ∈ s.offeredTo channel → Holds (s.offeredTo channel) (s.clients channel).peers →
      Timely offer nowMs

/-- The lease id is a new one for the client that gets the offer. -/
def NewFor (targetIp : Ipv4Addr) (leaseId : BitVec 64) : Prop :=
  ∀ channel ∈ (s.st.controlSender targetIp).bind channel?, (s.clients channel).Unused leaseId

/-- Requests come from a port, lease ids are not used twice, a client with an entry of the session
takes the next offer, and the clients with offers are still connected when the session ends. -/
def Careful : LeaseOp → Prop
  | .request env request _ => request.sourcePort ≠ 0 ∧ s.NewFor request.targetIp env.leaseId
  | .remove => ∀ o ∈ s.offered, s.st.controlSender o.targetIp = some o.sender
  | .other channel frame => leaseIn (s.offeredTo channel) frame.control = none
  | .process channel nowMs => s.TakesFirst channel nowMs
  | .method _ | .updateTimers _ _ => True

instance (channel : Channel) (nowMs : Nat) : Decidable (s.TakesFirst channel nowMs) :=
  inferInstanceAs (Decidable (∀ _ ∈ _, _))

instance (targetIp : Ipv4Addr) (leaseId : BitVec 64) : Decidable (s.NewFor targetIp leaseId) :=
  inferInstanceAs (Decidable (∀ _ ∈ _, _))

instance : ∀ op, Decidable (s.Careful op)
  | .request .. => inferInstanceAs (Decidable (_ ∧ _))
  | .remove => inferInstanceAs (Decidable (∀ _ ∈ _, _))
  | .other .. => inferInstanceAs (Decidable (_ = _))
  | .process channel nowMs => inferInstanceAs (Decidable (s.TakesFirst channel nowMs))
  | .method _ | .updateTimers _ _ => inferInstanceAs (Decidable True)

/-! ## Invariant -/

/-- What each client has of the session, and what the session has of its offers. -/
structure Inv (s : LeaseState) : Prop where
  tracked : ∀ channel, Tracked s.peer.reservedIp s.peer.publicKey (s.clients channel).networkAddr
    (s.offeredTo channel) (s.takenBy channel) (s.clients channel).pending (s.clients channel).peers
  leases : s.active = true → ∀ ip, s.peer.traffic.p2pLeases.lookup ip =
    (s.offered.find? (·.targetIp == ip)).map (·.leaseId)
  closing : s.active = false → ∀ channel, Closing (s.offeredTo channel) (s.takenBy channel)
    (s.revoked.map (·.leaseId)) (s.clients channel).pending (s.clients channel).peers
  revoked : s.active = false → ∀ channel o,
    s.offered.find? (·.sender == .vnt channel) = some o → o ∈ s.revoked

variable {s}

theorem Started.inv (h : s.Started) : s.Inv := by
  obtain ⟨ha, ho, hl⟩ := h
  have hi : ∀ channel, s.offeredTo channel = [] := fun channel => by simp [offeredTo, ho]
  have hn : ∀ pending, leasesIn [] pending = [] := fun pending =>
    leasesIn_eq_nil.mpr fun control _ => leaseIn_eq_none.mpr fun _ _ => List.not_mem_nil
  refine ⟨fun channel => ?_, fun _ ip => by rw [hl, ho]; rfl, fun h => ?_, fun h => ?_⟩
  · rw [hi]
    refine ⟨fun id hid => ?_, fun _ _ hm => ?_, fun _ _ _ hm => ?_⟩
    · rw [hn] at hid; cases hid
    · cases hm
    · cases hm
  · rw [ha] at h; cases h
  · rw [ha] at h; cases h

/-! ## Steps of a client -/

theorem clients_setClient_self (channel : Channel) (c : P2pClient) :
    (s.setClient channel c).clients channel = c := Function.update_self _ _ _

variable {channel : Channel} {o : OfferedLease}

theorem clients_setClient_of_ne {other : Channel} (h : other ≠ channel) (c : P2pClient) :
    (s.setClient channel c).clients other = s.clients other := Function.update_of_ne h _ _

/-- A step of one client. -/
theorem Inv.setClient (h : s.Inv) {c : P2pClient}
    (haddr : c.networkAddr = (s.clients channel).networkAddr)
    (htakes : c.takes = (s.clients channel).takes)
    (ht : Tracked s.peer.reservedIp s.peer.publicKey (s.clients channel).networkAddr
      (s.offeredTo channel) (s.takenBy channel) c.pending c.peers)
    (hc : Closing (s.offeredTo channel) (s.takenBy channel) (s.revoked.map (·.leaseId))
        (s.clients channel).pending (s.clients channel).peers →
      Closing (s.offeredTo channel) (s.takenBy channel) (s.revoked.map (·.leaseId)) c.pending
        c.peers) : (s.setClient channel c).Inv := by
  have htaken : ∀ other, (s.setClient channel c).takenBy other = s.takenBy other := by
    intro other
    by_cases he : other = channel
    · subst he
      simp only [takenBy, clients_setClient_self, htakes]
      rfl
    · simp only [takenBy, clients_setClient_of_ne he]
      rfl
  refine ⟨fun other => ?_, h.leases, fun ha other => ?_, h.revoked⟩
  · rw [htaken]
    by_cases he : other = channel
    · subst he
      rw [clients_setClient_self, haddr]
      exact ht
    · rw [clients_setClient_of_ne he]
      exact h.tracked other
  · rw [htaken]
    by_cases he : other = channel
    · subst he
      rw [clients_setClient_self]
      exact hc (h.closing ha other)
    · rw [clients_setClient_of_ne he]
      exact h.closing ha other

theorem Inv.process (h : s.Inv) {nowMs : Nat} (hc : s.TakesFirst channel nowMs) :
    (s.setClient channel ((s.clients channel).process nowMs)).Inv := by
  have ht := h.tracked channel
  rcases (s.clients channel).process_cases nowMs with ⟨hq, hp⟩ | ⟨control, hq, hp⟩
  · refine h.setClient (P2pClient.networkAddr_process nowMs) (P2pClient.takes_process nowMs) ?_ ?_
    · rw [hq, hp]; exact ht
    · rw [hq, hp]; exact id
  · have htimely : ∀ offer, control = .offer offer → offer.leaseId ∈ s.offeredTo channel →
        Holds (s.offeredTo channel) (s.clients channel).peers → Timely offer nowMs := by
      rintro offer rfl
      exact hc offer (by rw [hq]; rfl)
    rw [hq] at ht
    refine h.setClient (P2pClient.networkAddr_process nowMs) (P2pClient.takes_process nowMs) ?_ ?_
    · rw [hp]; exact ht.apply htimely
    · rw [hp, hq]; exact fun hcl => hcl.apply ht

theorem Inv.updateTimers (h : s.Inv) (channel : Channel) (nowMs : Nat) :
    (s.setClient channel ((s.clients channel).updateTimers nowMs)).Inv := by
  have hp : ∀ ip peer, ((s.clients channel).updateTimers nowMs).peers.lookup ip = some peer →
      (s.clients channel).peers.lookup ip = some peer := by
    intro ip peer hip
    rw [P2pClient.updateTimers, HashMap.lookup_retain] at hip
    exact (Option.filter_eq_some_iff.mp hip).1
  refine h.setClient rfl rfl ((h.tracked channel).entries fun ip peer hip => .inl (hp ip peer hip))
    fun hcl => ?_
  cases hcl with
  | clean hl hn =>
    refine .clean hl fun hh => hn ?_
    obtain ⟨ip, peer, hip, hm⟩ := holds_iff.mp hh
    exact holds_iff.mpr ⟨ip, peer, hp ip peer hip, hm⟩
  | revoking hq hr hid hl => exact .revoking hq hr hid hl

theorem Inv.other (h : s.Inv) {frame : ControlFrame}
    (hc : leaseIn (s.offeredTo channel) frame.control = none) :
    (s.setClient channel ((s.clients channel).enqueue frame)).Inv := by
  have hl : leasesIn (s.offeredTo channel) ((s.clients channel).message frame).toList = [] := by
    unfold P2pClient.message
    split
    · exact (leasesIn_cons_none hc).trans rfl
    · rfl
  refine h.setClient rfl rfl ?_ ?_
  · rw [P2pClient.pending_enqueue]
    exact (h.tracked channel).append hl
  · rw [P2pClient.pending_enqueue]
    exact fun hcl => hcl.append hl

/-! ## Requests -/

theorem takes_push (clients : Channel → P2pClient) (d : ControlDelivery) (channel : Channel) :
    (push clients d channel).takes = (clients channel).takes := by
  unfold push
  split <;> rfl

theorem Inv.request (h : s.Inv) (ha : s.active = true) {env : AgentEnv}
    {request : AgentControlRequest} {source : SocketAddr} (hid : request.requestId ≠ 0)
    (hport : request.sourcePort ≠ 0) (hnew : s.NewFor request.targetIp env.leaseId) :
    (s.handleRequest codec env request source).Inv := by
  have hact : ∀ {P : Prop}, s.active = false → P := fun h' => by rw [ha] at h'; cases h'
  unfold handleRequest
  split
  · rename_i traffic heq
    rcases RuntimePeer.handleAgentControl_cases hid heq with ⟨-, hl⟩ | ⟨d, hd, -⟩
    · refine ⟨h.tracked, fun hac ip => ?_, fun hac => hact hac, fun hac => hact hac⟩
      exact (congrArg (AList.lookup ip) hl).trans (h.leases hac ip)
    · cases hd
  · rename_i traffic d heq
    rcases RuntimePeer.handleAgentControl_cases hid heq with ⟨hn, -⟩ | ⟨d', hd', hsend, hl⟩
    · cases hn
    cases hd'
    obtain ⟨hsender, hframe⟩ := sendControl_eq_some.mp hsend
    rw [if_neg hport] at hl
    have htarget : d.frame.targetIp = request.targetIp := by rw [hframe]
    refine ⟨fun channel => ?_, fun _ ip => ?_, fun hac => hact hac, fun hac => hact hac⟩
    · have ht := h.tracked channel
      simp only [offeredTo, takenBy, takes_push, List.filter_cons, htarget]
      by_cases he : d.sender = .vnt channel
      · -- The client of the offer.
        obtain ⟨hu, hh⟩ := hnew channel (by rw [hsender, he]; rfl)
        have hp : push s.clients d channel = (s.clients channel).enqueue d.frame := if_pos he
        rw [hp, P2pClient.pending_enqueue]
        simp only [he, beq_self_eq_true, if_true, List.map_cons, Bool.true_and]
        by_cases hk : (s.clients channel).takes s.st.gateway request.targetIp = true
        · have hm : (s.clients channel).message d.frame =
              some (.offer (env.offer s.peer.reservedIp s.peer.publicKey source)) := by
            rw [P2pClient.message, hframe, if_pos hk]
          rw [hm, if_pos hk]
          exact ht.offered (env.offer s.peer.reservedIp s.peer.publicKey source) rfl rfl
            env.leaseId_ne hu hh
        · have hm : (s.clients channel).message d.frame = none := by
            rw [P2pClient.message, hframe, if_neg hk]
          rw [hm, if_neg hk]
          simp only [Option.toList_none, List.append_nil]
          exact ht.lost hu hh
      · have hp : push s.clients d channel = s.clients channel := if_neg he
        rw [hp]
        simp only [beq_eq_false_iff_ne.mpr he, Bool.false_and, Bool.false_eq_true, if_false]
        exact ht
    · -- The newest offer for its address is the one that is kept.
      show traffic.p2pLeases.lookup ip = _
      rw [hl, HashMap.lookup_insert_if, List.find?_cons, htarget]
      by_cases he : ip = request.targetIp
      · rw [if_pos he]
        simp [he]
      · rw [if_neg he, h.leases ha ip]
        simp [beq_eq_false_iff_ne.mpr (Ne.symm he)]

/-! ## The end of the session -/

theorem foldl_push (frames : List ControlDelivery) (clients : Channel → P2pClient)
    (channel : Channel) :
    frames.foldl push clients channel =
      { clients channel with
        queue := (clients channel).queue ++
          (frames.filter (·.sender == .vnt channel)).map (·.frame) } := by
  induction frames generalizing clients with
  | nil => simp
  | cons d frames ih =>
    rw [List.foldl_cons, ih, List.filter_cons]
    unfold push
    by_cases he : d.sender = .vnt channel
    · simp [he, P2pClient.enqueue]
    · simp [he]

/-- The revocations that a client takes when the session ends. -/
def revocationsFor (s : LeaseState) (channel : Channel) : List WireGuardP2pControl :=
  (((s.peer.revokeLeases s.st).filter (·.sender == .vnt channel)).map (·.frame)).filterMap
    (s.clients channel).message

theorem pending_removePeer (channel : Channel) :
    (s.removePeer.clients channel).pending =
      (s.clients channel).pending ++ s.revocationsFor channel := by
  have hc : s.removePeer.clients channel = _ := foldl_push _ s.clients channel
  rw [hc]
  exact List.filterMap_append

theorem takenBy_removePeer (channel : Channel) :
    s.removePeer.takenBy channel = s.takenBy channel := by
  have hc : s.removePeer.clients channel = _ := foldl_push _ s.clients channel
  have hgw : s.removePeer.st.gateway = s.st.gateway :=
    gateway_effect
      (apply_effect (.disconnectPeer s.key.peerId s.peer.reservedIp))
  simp only [takenBy, hgw, hc]
  rfl

theorem leasesIn_revocationsFor (ids : List (BitVec 64)) (channel : Channel) :
    leasesIn ids (s.revocationsFor channel) = [] := by
  refine leasesIn_eq_nil.mpr fun control hm => ?_
  obtain ⟨frame, hf, hmsg⟩ := List.mem_filterMap.mp hm
  obtain ⟨d, hd, rfl⟩ := List.mem_map.mp hf
  obtain ⟨targetIp, leaseId, -, hsend⟩ :=
    RuntimePeer.mem_revokeLeases.mp (List.mem_of_mem_filter hd)
  rw [P2pClient.message, (sendControl_eq_some.mp hsend).2] at hmsg
  split at hmsg
  · cases hmsg; rfl
  · cases hmsg

theorem mem_revocationsFor (hs : o.sender = .vnt channel)
    (ht : (s.clients channel).takes s.st.gateway o.targetIp = true)
    (hd : o.revokeFrame s.st.gateway ∈ s.peer.revokeLeases s.st) :
    .revoke o.leaseId ∈ s.revocationsFor channel := by
  have hf : o.revokeFrame s.st.gateway ∈
      (s.peer.revokeLeases s.st).filter (·.sender == .vnt channel) :=
    List.mem_filter.mpr ⟨hd, beq_iff_eq.mpr hs⟩
  exact List.mem_filterMap.mpr ⟨_, List.mem_map.mpr ⟨_, hf, rfl⟩, if_pos ht⟩

theorem mem_revoked (hd : o.revokeFrame s.st.gateway ∈ s.peer.revokeLeases s.st)
    : o ∈ s.removePeer.revoked :=
  List.mem_filterMap.mpr ⟨_, hd, rfl⟩

/-- An offer that is the newest for its client is the one that the server kept for the address. -/
theorem Inv.newest (h : s.Inv) (ha : s.active = true)
    (hc : ∀ o ∈ s.offered, s.st.controlSender o.targetIp = some o.sender)
    {p : OfferedLease → Bool} (ho : s.offered.find? p = some o)
    (hp : ∀ x : OfferedLease, x.targetIp = o.targetIp → x.sender = o.sender → p x = true) :
    o.revokeFrame s.st.gateway ∈ s.peer.revokeLeases s.st := by
  have hm := List.mem_of_find?_eq_some ho
  have hf : s.offered.find? (·.targetIp == o.targetIp) = some o := by
    refine find?_of_imp ho (beq_self_eq_true _) fun x hx ht => ?_
    have ht : x.targetIp = o.targetIp := eq_of_beq ht
    -- The address has one queue at the end, so all its offers went there.
    have hs : some x.sender = some o.sender := by rw [← hc x hx, ht, hc o hm]
    exact hp x ht (Option.some.inj hs)
  refine RuntimePeer.mem_revokeLeases.mpr ⟨o.targetIp, o.leaseId, ?_, ?_⟩
  · rw [h.leases ha, hf]; rfl
  · exact sendControl_eq_some.mpr ⟨hc o hm, rfl⟩

theorem Inv.closing_removePeer (h : s.Inv) (ha : s.active = true)
    (hc : ∀ o ∈ s.offered, s.st.controlSender o.targetIp = some o.sender) (channel : Channel) :
    Closing (s.offeredTo channel) (s.takenBy channel) (s.removePeer.revoked.map (·.leaseId))
      ((s.clients channel).pending ++ s.revocationsFor channel) (s.clients channel).peers := by
  have hl := leasesIn_revocationsFor (s := s) (s.offeredTo channel) channel
  cases ht : (s.takenBy channel).head? with
  | none =>
    obtain ⟨hn, hh⟩ := ((h.tracked channel).append hl).not_holds ht
    exact .clean hn hh
  | some id =>
    have ho := ht
    rw [takenBy, List.head?_map, List.head?_filter, Option.map_eq_some_iff] at ho
    obtain ⟨o, ho, rfl⟩ := ho
    have hp := List.find?_some ho
    simp only [Bool.and_eq_true, beq_iff_eq] at hp
    have hd := h.newest ha hc ho fun x hx hs => by simp [hs, hp.1, hx, hp.2]
    -- Its revocation is on the way, and no offer is behind it.
    obtain ⟨before, after, hr⟩ := List.append_of_mem (mem_revocationsFor hp.1 hp.2 hd)
    have ha : leasesIn (s.offeredTo channel) after = [] :=
      leasesIn_eq_nil.mpr fun control hm => leasesIn_eq_nil.mp hl control
        (by rw [hr]; exact List.mem_append_right _ (List.mem_cons_of_mem _ hm))
    have hq : (s.clients channel).pending ++ s.revocationsFor channel =
        ((s.clients channel).pending ++ before) ++ .revoke o.leaseId :: after := by
      rw [hr, List.append_assoc]
    exact .revoking hq (List.mem_map_of_mem (mem_revoked hd)) ht ha

theorem Inv.removePeer (h : s.Inv) (ha : s.active = true)
    (hc : ∀ o ∈ s.offered, s.st.controlSender o.targetIp = some o.sender) : s.removePeer.Inv := by
  have hclient : ∀ channel, s.removePeer.clients channel = _ :=
    fun channel => foldl_push _ s.clients channel
  refine ⟨fun channel => ?_, fun h' => (by cases h'), fun _ channel => ?_, fun _ channel o ho => ?_⟩
  · rw [takenBy_removePeer, pending_removePeer, hclient]
    exact (h.tracked channel).append (leasesIn_revocationsFor _ channel)
  · rw [takenBy_removePeer, pending_removePeer, hclient]
    exact h.closing_removePeer ha hc channel
  · have hs : o.sender = .vnt channel := by
      have := List.find?_some ho
      exact eq_of_beq this
    exact mem_revoked (h.newest ha hc ho fun x _ hx => beq_iff_eq.mpr (hx.trans hs))

/-! ## Runs -/

theorem Inv.method (h : s.Inv) (op : NetworkOp) :
    ({ s with st := s.st.apply op } : LeaseState).Inv := by
  have ht : ∀ channel, ({ s with st := s.st.apply op } : LeaseState).takenBy channel =
      s.takenBy channel := by
    intro channel
    simp only [takenBy, gateway_effect (apply_effect op)]
  refine ⟨fun channel => ?_, h.leases, fun ha channel => ?_, h.revoked⟩
  · rw [ht]; exact h.tracked channel
  · rw [ht]; exact h.closing ha channel

theorem Inv.step (h : s.Inv) {op : LeaseOp} (hc : s.Careful op) : (s.step codec op).Inv := by
  cases op with
  | method op => exact h.method op
  | request env request source =>
    simp only [LeaseState.step]
    split
    · rename_i hr
      exact h.request codec hr.1 hr.2 hc.1 hc.2
    · exact h
  | remove =>
    simp only [LeaseState.step]
    split
    · rename_i ha
      exact h.removePeer ha hc
    · exact h
  | other channel frame => exact h.other hc
  | process channel nowMs => exact h.process hc
  | updateTimers channel nowMs => exact h.updateTimers channel nowMs

theorem inv_of_careful (h : (leaseSys codec).ReachWith Careful s) : s.Inv :=
  h.invariant_of (I := Inv) (fun _ h0 => Started.inv h0) fun _ _ hi hc => hi.step codec hc

/-- After the session the last offer to each client is revoked, and a client that has processed the
revocations has no entry of the session. -/
theorem leases_end (codec : ResponseCodec) (s : LeaseState)
    (h : (leaseSys codec).ReachWith Careful s) (ha : s.active = false) (channel : Channel) :
    (∀ o, s.offered.find? (·.sender == .vnt channel) = some o → o ∈ s.revoked) ∧
      (s.Drained channel → ∀ peer, (s.clients channel).peers.lookup s.peer.reservedIp = some peer →
        peer.leaseId ∉ s.offeredTo channel) := by
  have hi := inv_of_careful codec h
  refine ⟨hi.revoked ha channel, fun hd peer hp hm => ?_⟩
  cases hi.closing ha channel with
  | clean hl hn => exact hn (holds_iff.mpr ⟨_, peer, hp, hm⟩)
  | @revoking before after id hq hr ht hl =>
    -- The revocation would still be in the queue.
    obtain ⟨o, ho, rfl⟩ := List.mem_map.mp hr
    have hmem : .revoke o.leaseId ∈ (s.clients channel).pending := by rw [hq]; simp
    obtain ⟨frame, hf, hmsg⟩ := List.mem_filterMap.mp hmem
    unfold P2pClient.message at hmsg
    split at hmsg
    · exact hd frame hf o ho (Option.some.inj hmsg)
    · cases hmsg

/-! ## A phone and a laptop -/

def laptopIp : Ipv4Addr := homeIp 2

def phoneEndpoint : SocketAddr := .v4 (Ipv4Addr.new 198 51 100 7) 40000

/-- The session of a phone, in a network with a laptop at the queue 2. -/
def phoneSession : LeaseState where
  st := RuntimeState.phoneHome.state
  key := ⟨"home", "phone"⟩
  peer := ⟨⟨RevokeState.phoneIp, []⟩, List.replicate 32 1, 5, ⟨some phoneEndpoint, 0, 0, ∅⟩⟩
  active := true
  clients _ := ⟨true, true, .ofReg RuntimeState.phoneHome.state.net
    RuntimeState.phoneHome.state.gateway laptopIp, [], ∅⟩
  offered := []
  revoked := []

theorem phoneSession_started : phoneSession.Started := ⟨rfl, rfl, fun _ => rfl⟩

/-- An encoding that says only that there is an answer. -/
def shortCodec : ResponseCodec where
  encode _ := [0]
  length_encode _ _ _ := ⟨Nat.zero_lt_one, Nat.le_of_ble_eq_true rfl⟩

/-- A request for the laptop at the time `nowMs`. -/
def askLaptop (leaseId : BitVec 64) (h : leaseId ≠ 0) (nowMs sourcePort : Nat)
    (source : SocketAddr) : LeaseOp :=
  .request
    ⟨RuntimeState.plainTunnel,
      some ⟨List.replicate 32 2, .v4 (Ipv4Addr.new 203 0 113 9) 50000, rfl⟩, leaseId, h, nowMs⟩
    ⟨sourcePort, laptopIp, 1⟩ source

/-- The phone's session after operations. -/
def after (ops : List LeaseOp) : LeaseState := ops.foldl (step shortCodec) phoneSession

/-- Two offers, the second renews the lease, and then the session ends. -/
def renewedLease : List LeaseOp :=
  [askLaptop 7 (by decide) 1000 51821 phoneEndpoint, .process 2 1500,
    askLaptop 8 (by decide) 2000 51821 phoneEndpoint, .process 2 2500, .remove, .process 2 3000]

theorem leases_end_renewed :
    (after renewedLease).offeredTo 2 = [8, 7] ∧
      ⟨.vnt 2, laptopIp, 8⟩ ∈ (after renewedLease).revoked ∧
      ∀ peer, ((after renewedLease).clients 2).peers.lookup
          RevokeState.phoneIp = some peer →
        peer.leaseId ∉ (after renewedLease).offeredTo 2 := by
  obtain ⟨hr, hd⟩ := leases_end shortCodec (after renewedLease)
    (Sys.ReachWith.foldl
      (Sys.ReachWith.init (S := leaseSys shortCodec) (C := Careful) phoneSession_started)
      (by decide)) (by decide) 2
  have hq : ((after renewedLease).clients 2).queue = [] := by decide
  refine ⟨by decide, hr _ (by decide), hd fun frame hf => ?_⟩
  cases hf

/-- The request came from the port 0. -/
def portZero : List LeaseOp :=
  [askLaptop 7 (by decide) 1000 0 phoneEndpoint, .process 2 1500, .remove]

/-- The offer is delivered and the laptop has an entry, but the session ends without a
revocation. -/
theorem lease_stays :
    (leaseSys shortCodec).Reach (after portZero) ∧
      (after portZero).active = false ∧
      (after portZero).offered = [⟨.vnt 2, laptopIp, 7⟩] ∧
      (after portZero).revoked = [] ∧
      ((after portZero).clients 2).queue = [] ∧
      (((after portZero).clients 2).peers.lookup
        RevokeState.phoneIp).map (·.leaseId) = some 7 :=
  ⟨Sys.Reach.foldl (Sys.Reach.init (S := leaseSys shortCodec) phoneSession_started) _, by decide,
    by decide, by decide, by decide, by decide⟩

/-- The phone moves to an IPv6 network between two requests. The laptop refuses the second offer and
has an entry of the first, but only the second is revoked. -/
def roaming : List LeaseOp :=
  [askLaptop 7 (by decide) 1000 51821 phoneEndpoint, .process 2 1500,
    askLaptop 8 (by decide) 2000 51821 (.v6 1 40000), .process 2 2500, .remove, .process 2 3000]

example : (((after roaming).clients 2).peers.lookup
    RevokeState.phoneIp).map (·.leaseId) = some 7 := by decide

end LeaseState

end Client

end Vntc
