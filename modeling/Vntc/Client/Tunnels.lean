import Vntc.Client.Runtime
import Vntc.Lib.Sys

/-!
# Runs of the runtime of direct tunnels

The events of the runtime come in any order: messages of the server with any fields, datagrams from
anywhere, packets to send, ticks of the timer, and time. The runtime handles one after the other,
since one task owns it. A run keeps a record of what the runtime got, so that its entries can be
traced back to offers and to datagrams.
-/

namespace Vntc

open Lib

namespace Client

/-- A message as it comes: the endpoint of an offer is a text. -/
inductive ControlMessage
  | offer (leaseId : BitVec 64) (expiresAtUnixMs : Nat) (peerIp : Ipv4Addr) (peerPublicKey : Bytes)
      (peerEndpoint : String)
  | revoke (leaseId : BitVec 64)
  | missing

/-- An offer whose endpoint is not a socket address is ignored like a message without a payload. -/
def ControlMessage.read (parse : String → Option SocketAddr) :
    ControlMessage → WireGuardP2pControl
  | .offer leaseId expiresAtUnixMs peerIp peerPublicKey peerEndpoint =>
    match parse peerEndpoint with
    | some endpoint => .offer ⟨leaseId, expiresAtUnixMs, peerIp, peerPublicKey, endpoint⟩
    | none => .missing
  | .revoke leaseId => .revoke leaseId
  | .missing => .missing

/-- The wall clock `nowMs` can jump; the clock of `wait` cannot. -/
inductive RuntimeEvent (N : Noise)
  | control (message : ControlMessage) (e : N.Entropy) (draws : Draws)
      (nowMs : Nat)
  | datagram (packet : Bytes) (source : SocketAddr) (e : N.Entropy)
  | send (destination : Ipv4Addr) (packet : Bytes) (e : N.Entropy) (nowMs : Nat) (sent : Bool)
  | timer (e : N.Entropy) (nowMs : Nat)
  | wait (elapsed : Nat)

/-- A datagram with its time; `cookie` says that a cookie counted as a packet of the peer. -/
structure Received where
  time : Nat
  packet : Bytes
  cookie : Bool

/-- The runtime, the time, and what it got so far: offers and datagrams. -/
structure RunState (N : Noise) where
  runtime : Runtime N
  clock : Nat
  offers : List WireGuardP2pOffer
  datagrams : List Received

def offersOf : WireGuardP2pControl → List WireGuardP2pOffer
  | .offer offer => [offer]
  | _ => []

/-- The leases alone. Messages and the timer change them as in `P2p.lean`; a packet puts an entry
back, and one from the peer can change its endpoint. -/
def leaseTable (parse : String → Option SocketAddr) (addr : NetworkAddr) (N : Noise) :
    Sys (HashMap Ipv4Addr ActivePeer) (RuntimeEvent N) where
  init m := m = ∅
  step m event m' :=
    match event with
    | .control message _ _ nowMs => m' = applyControl addr m (message.read parse) nowMs
    | .timer _ nowMs => m' = m.retain fun _ peer => decide (nowMs < peer.expiresAtUnixMs)
    | .datagram _ source _ => m' = m ∨ ∃ ip peer, m.lookup ip = some peer ∧
        (m' = m.insert ip peer ∨ m' = m.insert ip { peer with endpoint := source })
    | .send destination _ _ _ _ => m' = m ∨ ∃ peer, m.lookup destination = some peer ∧
        m' = m.insert destination peer
    | .wait _ => m' = m

namespace RunState

variable {N : Noise} (parse : String → Option SocketAddr) (s : RunState N)

/-- There is no state while an offer waits for an index that is not in use. -/
def handle : RuntimeEvent N → Option (RunState N × Out)
  | .control message e draws nowMs =>
    (s.runtime.applyControl e draws (message.read parse) nowMs).map fun r =>
      ({ s with runtime := r.1, offers := offersOf (message.read parse) ++ s.offers }, r.2)
  | .datagram packet source e =>
    let r := s.runtime.handleDatagram e packet source s.clock
    let received := ⟨s.clock, packet, s.runtime.countsCookie e packet source⟩
    some ({ s with runtime := r.1, datagrams := received :: s.datagrams }, r.2)
  | .send destination packet e nowMs sent =>
    let r := s.runtime.sendInner e destination packet nowMs s.clock sent
    some ({ s with runtime := r.1 }, r.2.1)
  | .timer e nowMs =>
    let r := s.runtime.updateTimers e nowMs
    some ({ s with runtime := r.1 }, r.2)
  | .wait elapsed => some ({ s with clock := s.clock + elapsed }, .empty)

/-- The runtime starts without entries. -/
structure Fresh (s : RunState N) : Prop where
  peers : s.runtime.peers = ∅
  receiverIndices : s.runtime.receiverIndices = ∅

def sys (N : Noise) : Sys (RunState N) (RuntimeEvent N) where
  init := Fresh
  step s event s' := ∃ out, s.handle parse event = some (s', out)

/-- A packet of the peer came at this time. -/
def Authenticated (publicKey : Bytes) (last : Nat) : Prop :=
  last ≤ s.clock ∧ ∃ d ∈ s.datagrams, d.time = last ∧ N.Authentic publicKey d.packet

/-- A datagram of this time counted as a packet of the peer, and it is one or there was a cookie. -/
def Counted (publicKey : Bytes) (last : Nat) : Prop :=
  last ≤ s.clock ∧
    ∃ d ∈ s.datagrams, d.time = last ∧ (d.cookie = false → N.Authentic publicKey d.packet)

/-- No cookie counted within the time for which a packet of a peer counts. -/
def NoCookie : Prop :=
  ∀ d ∈ s.datagrams, s.clock - d.time ≤ authenticatedRouteTtl → d.cookie = false

/-- The offer is the origin of the entry's address, key and lease. -/
def Offered (ip : Ipv4Addr) (peer : ActivePeer) : Prop :=
  ∃ offer ∈ s.offers, offer.peerIp = ip ∧ offer.peerPublicKey = peer.publicKey ∧
    offer.leaseId = peer.leaseId ∧ offer.expiresAtUnixMs = peer.expiresAtUnixMs

/-- The invariant of an entry. -/
structure Entry (addr : NetworkAddr) (ip : Ipv4Addr) (peer : TunnelPeer N) : Prop where
  valid : validPeer addr ip = true
  key : N.peerKey peer.tunnel = peer.publicKey
  offered : s.Offered ip peer.toActivePeer
  counted : ∀ last ∈ peer.lastAuthenticated, s.Counted peer.publicKey last

/-- The invariant of a runtime with an address. -/
structure Inv (addr : NetworkAddr) : Prop where
  addr_eq : s.runtime.networkAddr = addr
  table : s.runtime.Table (s.Entry addr)

variable {s} {s' : RunState N} {addr : NetworkAddr}

/-- The runtime only gets more offers and datagrams, and the clock does not go back. -/
structure Later (s s' : RunState N) : Prop where
  clock : s.clock ≤ s'.clock
  offers : ∀ offer ∈ s.offers, offer ∈ s'.offers
  datagrams : ∀ d ∈ s.datagrams, d ∈ s'.datagrams

theorem Counted.later {publicKey : Bytes} {last : Nat} (h : s.Counted publicKey last)
    (hl : Later s s') : s'.Counted publicKey last := by
  obtain ⟨hle, d, hm, hd⟩ := h
  exact ⟨hle.trans hl.clock, d, hl.datagrams _ hm, hd⟩

theorem Counted.authenticated {publicKey : Bytes} {last : Nat} (h : s.Counted publicKey last)
    (hn : s.NoCookie) (hle : s.clock - last ≤ authenticatedRouteTtl) :
    s.Authenticated publicKey last := by
  obtain ⟨hclock, d, hm, rfl, ha⟩ := h
  exact ⟨hclock, d, hm, rfl, ha (hn d hm hle)⟩

variable {ip : Ipv4Addr} {event : RuntimeEvent N} {out : Out}

theorem Entry.later {peer : TunnelPeer N} (h : s.Entry addr ip peer)
    (hl : Later s s') : s'.Entry addr ip peer := by
  obtain ⟨offer, hm, ho⟩ := h.offered
  exact ⟨h.valid, h.key, ⟨offer, hl.offers _ hm, ho⟩, fun last hlast =>
    (h.counted last hlast).later hl⟩

theorem Entry.allowsTunnel (s : RunState N) (addr : NetworkAddr) :
    Runtime.AllowsTunnel (s.Entry addr) :=
  fun _ _ _ h hk => ⟨h.valid, hk.trans h.key, h.offered, h.counted⟩

theorem Entry.allowsOffer {offer : WireGuardP2pOffer} (h : offer ∈ s.offers) :
    Runtime.AllowsOffer (s.Entry addr) addr offer where
  renew _ hp hk := ⟨hp.valid, hp.key, ⟨offer, h, rfl, hk.symm, rfl, rfl⟩, hp.counted⟩
  create _ _ hv hk := ⟨hv, hk, ⟨offer, h, rfl, rfl, rfl, rfl⟩, fun _ hlast => (by cases hlast)⟩

theorem later_handle (hs : s.handle parse event = some (s', out)) : Later s s' := by
  cases event with
  | wait elapsed => cases hs; exact ⟨Nat.le_add_right .., fun _ => id, fun _ => id⟩
  | timer e nowMs | send destination packet e nowMs sent =>
    cases hs; exact ⟨le_rfl, fun _ => id, fun _ => id⟩
  | datagram packet source e =>
    cases hs; exact ⟨le_rfl, fun _ => id, fun _ => List.mem_cons_of_mem _⟩
  | control message e draws nowMs =>
    obtain ⟨_, -, hr⟩ := Option.map_eq_some_iff.mp hs
    cases hr
    exact ⟨le_rfl, fun _ => List.mem_append_right _, fun _ => id⟩

/-- The step lemma: each event keeps the invariant. -/
theorem inv_handle (h : s.Inv addr) (hs : s.handle parse event = some (s', out)) : s'.Inv addr := by
  obtain ⟨rfl, ht⟩ := h
  -- The entries so far are fine with what the runtime got in the end.
  have hlater := later_handle parse hs
  replace ht := ht.mono fun _ _ hp => Entry.later hp hlater
  cases event with
  | wait elapsed => cases hs; exact ⟨rfl, ht⟩
  | timer e nowMs =>
    cases hs
    exact ⟨Runtime.networkAddr_foldl_removePeer .., ht.updateTimers (Entry.allowsTunnel _ _)⟩
  | send destination packet e nowMs sent =>
    cases hs
    obtain ⟨ht, ha⟩ := ht.sendInner (Entry.allowsTunnel _ _)
    exact ⟨ha, ht⟩
  | datagram packet source e =>
    have hmem : ⟨s.clock, packet, s.runtime.countsCookie e packet source⟩ ∈ s'.datagrams := by
      cases hs; exact List.mem_cons_self
    have hclock : s'.clock = s.clock := by cases hs; rfl
    have hr : s'.runtime = (s.runtime.handleDatagram e packet source s.clock).1 := by cases hs; rfl
    obtain ⟨limiter, ⟨ip, hd, ha⟩ | ⟨hd, -⟩⟩ :=
      s.runtime.handleDatagram_cases e packet source s.clock
    · rw [hd] at hr
      suffices h : s'.runtime.Table (s'.Entry _) ∧ s'.runtime.networkAddr = _ from ⟨h.2, h.1⟩
      rw [hr]
      refine Runtime.Table.receive ⟨ht.indexed, ht.bounded, ht.entry⟩ (Entry.allowsTunnel _ _) ?_
      intro peer tunnel hl hp hk hne
      refine ⟨hp.valid, hk.trans hp.key, hp.offered, fun last hlast => ?_⟩
      cases hlast
      exact ⟨hclock.ge, _, hmem, rfl, fun hc => hp.key ▸ ha peer hl hne hc⟩
    · rw [hd] at hr
      exact ⟨by rw [hr], by rw [hr]; exact ⟨ht.indexed, ht.bounded, ht.entry⟩⟩
  | control message e draws nowMs =>
    obtain ⟨⟨r', out'⟩, hr, he⟩ := Option.map_eq_some_iff.mp hs
    cases he
    obtain ⟨ht', ha⟩ := ht.applyControl hr fun offer ho =>
      Entry.allowsOffer (List.mem_append_left _ (by rw [ho]; exact List.mem_singleton_self _))
    exact ⟨ha, ht'⟩

theorem inv_reach (h : (sys parse N).Reach s) : s.Inv s.runtime.networkAddr := by
  have hI : ∃ addr, s.Inv addr := by
    refine Sys.Reach.invariant (I := fun s => ∃ addr, s.Inv addr) ?_ ?_ h
    · intro s hf
      refine ⟨_, rfl, ?_, ?_, ?_⟩
      · rw [hf.peers, hf.receiverIndices]
        exact HashMap.IndexedBy.empty
      · rw [hf.peers]
        exact Nat.zero_le _
      · intro ip peer hp
        rw [hf.peers] at hp
        cases hp
    · rintro s event s' ⟨addr, hi⟩ ⟨out, hs⟩
      exact ⟨addr, inv_handle parse hi hs⟩
  obtain ⟨addr, hi⟩ := hI
  exact hi.addr_eq ▸ hi

/-- The address is one of a host: in the network, and not one of its special addresses. -/
structure IsHost (addr : NetworkAddr) (ip : Ipv4Addr) : Prop where
  contains : addr.network.contains ip = true
  ne_network : ip ≠ addr.network.network
  ne_broadcast : ip ≠ addr.network.broadcast
  ne_gateway : ip ≠ addr.gateway

theorem isHost_of_validPeer (h : validPeer addr ip = true) : IsHost addr ip := by
  obtain ⟨route, hroute⟩ := Option.isSome_iff_exists.mp h
  obtain ⟨⟨-, rfl⟩, -, hok⟩ := validateInnerIpv4_eq_some.mp hroute
  simp only [not_or, not_not] at hok
  exact ⟨hok.1, hok.2.2.1, hok.2.2.2.1, hok.2.2.2.2.1⟩

/-- The two maps are inverse to each other, and the peers are hosts, not too many. -/
structure TableSafe (s : RunState N) : Prop where
  index_of_peer : ∀ ip peer, s.runtime.peers.lookup ip = some peer →
    s.runtime.receiverIndices.lookup peer.receiverIndex = some ip
  peer_of_index : ∀ index ip, s.runtime.receiverIndices.lookup index = some ip →
    ∃ peer, s.runtime.peers.lookup ip = some peer ∧ peer.receiverIndex = index
  bounded : s.runtime.peers.len ≤ maxActivePeers
  host : ∀ ip peer, s.runtime.peers.lookup ip = some peer → IsHost s.runtime.networkAddr ip

theorem Inv.tableSafe (h : s.Inv s.runtime.networkAddr) : s.TableSafe where
  index_of_peer _ _ hp := h.table.indexed.find hp
  peer_of_index index ip hi := (h.table.indexed index ip).mp hi
  bounded := h.table.bounded
  host _ _ hp := isHost_of_validPeer (h.table.entry _ _ hp).valid

/-- Only datagrams give packets to the pipeline. -/
theorem mem_inbound_handle (hs : s.handle parse event = some (s', out)) {frame : NetPacket}
    (hm : (ip, frame) ∈ out.inbound) :
    (∃ peer, s.runtime.peers.lookup ip = some peer) ∧ Ipv4Packet.source frame.payload = ip ∧
      Ipv4Packet.destination frame.payload = s.runtime.networkAddr.ip := by
  cases event with
  | wait elapsed => cases hs; cases hm
  | timer e nowMs => cases hs; cases hm
  | send destination packet e nowMs sent =>
    cases hs
    rcases s.runtime.sendInner_cases e destination packet nowMs s.clock sent with
      hr | ⟨_, _, _, _, _, _, -, hr⟩
    · rw [hr] at hm; cases hm
    · rw [hr] at hm; cases hm
  | control message e draws nowMs =>
    obtain ⟨⟨r', out'⟩, hr, he⟩ := Option.map_eq_some_iff.mp hs
    cases he
    rw [Runtime.inbound_applyControl hr] at hm
    cases hm
  | datagram packet source e =>
    cases hs
    obtain ⟨limiter, ⟨_, hd, -⟩ | ⟨-, hd⟩⟩ :=
      s.runtime.handleDatagram_cases e packet source s.clock
    · rw [hd] at hm
      have hin := Runtime.mem_inbound_receive hm
      exact hin
    · rw [hd] at hm; cases hm

/-- In every run: the table is consistent; what a peer sends to the client is from its address and
for the client; and if no cookie has counted lately, the client sends to a peer only with a lease
that is not over, after a recent authentic packet of the peer. -/
theorem table_safe (h : (sys parse N).Reach s) :
    s.TableSafe ∧
      (∀ event s' out, s.handle parse event = some (s', out) →
        ∀ ip frame, (ip, frame) ∈ out.inbound →
          ∃ peer, s.runtime.peers.lookup ip = some peer ∧ s.Offered ip peer.toActivePeer ∧
            Ipv4Packet.source frame.payload = ip ∧
            Ipv4Packet.destination frame.payload = s.runtime.networkAddr.ip) ∧
      (s.NoCookie → ∀ e destination packet nowMs sent,
        (s.runtime.sendInner e destination packet nowMs s.clock sent).2.1.sent ≠ [] →
          ∃ peer last, s.runtime.peers.lookup destination = some peer ∧
            nowMs < peer.expiresAtUnixMs ∧ s.Authenticated peer.publicKey last ∧
            s.clock - last ≤ authenticatedRouteTtl) := by
  have hi := inv_reach parse h
  refine ⟨hi.tableSafe, ?_, ?_⟩
  · intro event s' out hs ip frame hm
    obtain ⟨⟨peer, hp⟩, hsrc, hdst⟩ := mem_inbound_handle parse hs hm
    exact ⟨peer, hp, (hi.table.entry _ _ hp).offered, hsrc, hdst⟩
  · intro hn e destination packet nowMs sent hsent
    rcases s.runtime.sendInner_cases e destination packet nowMs s.clock sent with
      hr | ⟨peer, last, hp, hexp, hlast, hle, -⟩
    · rw [hr] at hsent
      exact absurd rfl hsent
    · have hcounted := (hi.table.entry _ _ hp).counted last hlast
      exact ⟨peer, last, hp, hexp, hcounted.authenticated hn hle, hle⟩

theorem lookup_leases {r : Runtime N} {peer : TunnelPeer N} (h : r.peers.lookup ip = some peer) :
    r.leases.lookup ip = some peer.toActivePeer :=
  (HashMap.lookup_mapValues ..).trans (by rw [h]; rfl)

theorem leaseTable_receive (r : Runtime N) (e : N.Entropy) (packet : Bytes) (source : SocketAddr)
    (now : Nat) (ip : Ipv4Addr) (addr : NetworkAddr) :
    (leaseTable parse addr N).step r.leases (.datagram packet source e)
      (r.receive e packet source now ip).1.leases := by
  unfold Runtime.receive
  cases hl : r.peers.lookup ip with
  | none => exact .inl rfl
  | some peer =>
    refine .inr ⟨ip, peer.toActivePeer, lookup_leases hl, ?_⟩
    simp only
    split
    · exact .inr (HashMap.mapValues_insert ..)
    · exact .inl (HashMap.mapValues_insert ..)

/-- The runtime with its tunnels refines the table of leases, event by event. -/
theorem leaseTable_handle (hs : s.handle parse event = some (s', out)) :
    (leaseTable parse s.runtime.networkAddr N).step s.runtime.leases event s'.runtime.leases := by
  cases event with
  | wait elapsed => cases hs; rfl
  | timer e nowMs => cases hs; exact Runtime.leases_updateTimers ..
  | send destination packet e nowMs sent =>
    cases hs
    rcases s.runtime.sendInner_cases e destination packet nowMs s.clock sent with
      hr | ⟨peer, _, hp, _, _, _, hr, -⟩
    · exact .inl (by simp only [hr])
    · refine .inr ⟨peer.toActivePeer, lookup_leases hp, ?_⟩
      simp only [hr]
      exact HashMap.mapValues_insert ..
  | control message e draws nowMs =>
    obtain ⟨⟨r', out'⟩, hr, he⟩ := Option.map_eq_some_iff.mp hs
    cases he
    exact Runtime.leases_applyControl hr
  | datagram packet source e =>
    cases hs
    obtain ⟨limiter, ⟨ip, hd, -⟩ | ⟨hd, -⟩⟩ :=
      s.runtime.handleDatagram_cases e packet source s.clock
    · simp only [hd]
      exact leaseTable_receive parse { s.runtime with rateLimiter := limiter } ..
    · exact .inl (by simp only [hd]; rfl)

/-- The state after an event that has ended. -/
def next (s : RunState N) (event : RuntimeEvent N) : RunState N :=
  ((s.handle parse event).map Prod.fst).getD s

theorem reach_foldl (h : (sys parse N).Reach s) (events : List (RuntimeEvent N)) :
    (sys parse N).Reach (events.foldl (next parse) s) := by
  induction events generalizing s with
  | nil => exact h
  | cons event events ih =>
    refine ih ?_
    unfold next
    cases hs : s.handle parse event with
    | none => exact h
    | some r => exact h.next event ⟨r.2, hs⟩

end RunState

/-- Tunnels in the clear: a packet has its type, the key that it names, the key that it was made
with, and what is inside. The eleventh handshake is answered with a cookie. -/
def plainNoise : Noise where
  Tunn := Bytes × Nat
  RateLimiter := Unit
  Entropy := Unit
  new _ _ key _ := (key, 0)
  formatHandshakeInitiation _ t := (t, .writeToNetwork ([1, 0, 0, 0] ++ t.1))
  decapsulate _ src p t :=
    if src = none then (t, .done)
    else if p.take 4 = [1, 0, 0, 0] then
      if 10 ≤ t.2 then (t, .writeToNetwork [3, 0, 0, 0])
      else ((t.1, t.2 + 1),
        if (p.drop 36).take 32 = t.1 then .writeToNetwork [2, 0, 0, 0] else .err)
    else
      (t, if (p.drop 36).take 32 = t.1 then
          .writeToTunnelV4 (p.drop 68) (Ipv4Packet.source (p.drop 68))
        else .err)
  encapsulate _ p t := (t, .writeToNetwork ([4, 0, 0, 0] ++ p))
  updateTimers _ t := (t, .done)
  verifyPacket _ _ p l := (l, .ok (if p.take 4 = [1, 0, 0, 0] then .handshakeInit else .data 0x700))
  parseHandshakeAnon _ _ p := some ((p.drop 4).take 32)
  peerKey t := t.1
  peerKey_new _ _ _ _ := rfl
  peerKey_format _ _ := rfl
  peerKey_decapsulate _ _ _ _ := by split_ifs <;> rfl
  peerKey_encapsulate _ _ _ := rfl
  peerKey_timers _ _ := rfl
  queued _ := 0
  queued_decapsulate _ _ _ h := by cases h
  Authentic key p := (p.drop 36).take 32 = key
  authenticates _ _ p _ _ t _ hne _ hc := by
    by_contra hkey
    revert hne hc
    simp only [reduceCtorEq, if_false, hkey]
    split_ifs <;> simp [Noise.Answer.isCookie]

namespace RunState

def phoneIp : Ipv4Addr := homeIp 2

def laptopAddr : NetworkAddr :=
  .ofReg defaultNet (homeIp 1) (homeIp 3)

def phoneKey : Bytes := List.replicate 32 7

def phoneEndpoint : SocketAddr := .v4 (Ipv4Addr.new 203 0 113 5) 51820

def laptopStart : RunState plainNoise := ⟨⟨[], [], (), ∅, ∅, laptopAddr⟩, 0, [], []⟩

/-- The laptop gets an offer for the phone, and then a packet of the phone. -/
def meeting : List (RuntimeEvent plainNoise) :=
  [.control (.offer 1 100000 phoneIp phoneKey "203.0.113.5:51820") () [⟨7, by decide⟩] 1000,
    .datagram ([4, 0, 0, 0] ++ phoneKey ++ phoneKey ++ syntheticIpv4 phoneIp laptopAddr.ip)
      phoneEndpoint ()]

/-- The laptop after the meeting and more events. -/
def after (events : List (RuntimeEvent plainNoise)) : RunState plainNoise :=
  (meeting ++ events).foldl (next fun _ => some phoneEndpoint) laptopStart

theorem reach_after (events : List (RuntimeEvent plainNoise)) :
    (sys (fun _ => some phoneEndpoint) plainNoise).Reach (after events) :=
  reach_foldl _ (.init ⟨rfl, rfl⟩) _

def phoneMet : RunState plainNoise := after [.wait 30000000000]

/-- A packet to the phone goes out 30 seconds after the phone's. -/
theorem table_safe_phoneMet :
    (phoneMet.runtime.sendInner () phoneIp (syntheticIpv4 laptopAddr.ip phoneIp) 31000
        phoneMet.clock true).2.1.sent ≠ [] ∧
      ∃ peer last, phoneMet.runtime.peers.lookup phoneIp = some peer ∧
        31000 < peer.expiresAtUnixMs ∧ phoneMet.Authenticated peer.publicKey last ∧
        phoneMet.clock - last ≤ authenticatedRouteTtl := by
  have hsent : (phoneMet.runtime.sendInner () phoneIp (syntheticIpv4 laptopAddr.ip phoneIp) 31000
      phoneMet.clock true).2.1.sent ≠ [] := by decide +kernel
  have hcookie : phoneMet.NoCookie := by unfold NoCookie; decide +kernel
  exact ⟨hsent, (table_safe _ (reach_after _)).2.2 hcookie _ _ _ _ _ hsent⟩

def attackerEndpoint : SocketAddr := .v4 (Ipv4Addr.new 198 51 100 66) 4000

/-- A minute later someone sends handshakes that name the phone's key. -/
def phoneForged : RunState plainNoise :=
  after (.wait 60000000000 :: List.replicate 11
    (.datagram ([1, 0, 0, 0] ++ phoneKey) attackerEndpoint ()))

/-- The cookie counts as a packet of the phone: what is for the phone goes to who sent the
handshakes, though the phone's last packet is too old. -/
theorem cookie_authenticates :
    (sys (fun _ => some phoneEndpoint) plainNoise).Reach phoneForged ∧
      (∀ last, phoneForged.Authenticated phoneKey last →
        authenticatedRouteTtl < phoneForged.clock - last) ∧
      (phoneForged.runtime.sendInner () phoneIp (syntheticIpv4 laptopAddr.ip phoneIp) 62000
        phoneForged.clock true).2.1.sent.map Prod.snd = [attackerEndpoint] := by
  refine ⟨reach_after _, ?_, by decide +kernel⟩
  have hold : ∀ d ∈ phoneForged.datagrams, (d.packet.drop 36).take 32 = phoneKey →
      authenticatedRouteTtl < phoneForged.clock - d.time := by decide +kernel
  rintro last ⟨-, d, hm, rfl, ha⟩
  exact hold d hm ha

/-- A revoke with the lease of the phone removes its entry. -/
theorem leaseTable_handle_revoke :
    (phoneMet.runtime.leases.lookup phoneIp).isSome = true ∧
      ∃ s' out, phoneMet.handle (fun _ => some phoneEndpoint) (.control (.revoke 1) () [] 31000) =
          some (s', out) ∧
        (leaseTable (fun _ => some phoneEndpoint) phoneMet.runtime.networkAddr plainNoise).step
          phoneMet.runtime.leases (.control (.revoke 1) () [] 31000) s'.runtime.leases ∧
        s'.runtime.leases.lookup phoneIp = none := by
  have hs : (phoneMet.handle (fun _ => some phoneEndpoint)
      (.control (.revoke 1) () [] 31000)).isSome = true := by decide +kernel
  refine ⟨by decide +kernel, _, _, (Option.some_get hs).symm, ?_, by decide +kernel⟩
  exact leaseTable_handle _ (Option.some_get hs).symm

end RunState

end Client

end Vntc
