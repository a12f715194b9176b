import Mathlib.Data.Finset.Card
import Vntc.Client.P2p
import Vntc.Lib.Indexed
import Vntc.Lib.Noise

/-!
# The runtime of direct tunnels

The runtime of `wireguard_p2p.rs` in `vnt-core` with its tunnels: the entry of an address has a
tunnel and a receiver index, by which datagrams find it. `P2p.lean` has the leases alone; here they
are what the runtime shows of its entries (`Runtime.leases`). BoringTun is a parameter.

Each operation has a lemma that keeps the invariant of the table (`Runtime.Table`), for a property
of the entries that the operation allows.
-/

namespace Vntc

open Lib HashMap

def SocketAddr.ip : SocketAddr → IpAddr
  | .v4 ip _ => .v4 ip
  | .v6 ip _ => .v6 ip

namespace Client

def maxReceiverIndex : Nat := 0x00ffffff

/-- The numbers that the loop of `allocate_receiver_index` draws. -/
abbrev Draws := List (Fin (maxReceiverIndex + 1))

/-- Between a packet of a peer and the last one to it, in nanoseconds. -/
def authenticatedRouteTtl : Nat := 45000000000

/-- An entry with its tunnel. -/
structure TunnelPeer (N : Noise) extends ActivePeer where
  receiverIndex : Nat
  lastAuthenticated : Option Nat
  tunnel : N.Tunn

structure Runtime (N : Noise) where
  privateKey : Bytes
  publicKey : Bytes
  rateLimiter : N.RateLimiter
  peers : HashMap Ipv4Addr (TunnelPeer N)
  receiverIndices : HashMap Nat Ipv4Addr
  networkAddr : NetworkAddr

/-- What the runtime gives to its socket and to the client's pipeline. -/
structure Out where
  sent : List (Bytes × SocketAddr)
  inbound : List (Ipv4Addr × NetPacket)

def Out.empty : Out := ⟨[], []⟩

/-- The first draw that is not in use ends the loop. -/
def allocateReceiverIndex (used : HashMap Nat Ipv4Addr)
    (draws : Draws) : Option Nat :=
  (draws.map (·.1)).find? fun index => (used.lookup index).isNone

/-- What a tunnel has for its peer. -/
def responses : Noise.Answer → List Bytes
  | .writeToNetwork packet => [packet]
  | _ => []

namespace Runtime

variable {N : Noise} (r : Runtime N)

def removePeer (ip : Ipv4Addr) : Runtime N :=
  match r.peers.lookup ip with
  | some peer =>
    { r with
      peers := r.peers.erase ip
      receiverIndices := r.receiverIndices.erase peer.receiverIndex }
  | none => r

/-- The end of `apply_offer`: a new entry. There is none yet while the loop draws indices. -/
def addPeer (e : N.Entropy) (draws : Draws)
    (offer : WireGuardP2pOffer) : Option (Runtime N × Out) :=
  let r := r.removePeer offer.peerIp
  match allocateReceiverIndex r.receiverIndices draws with
  | none => none
  | some receiverIndex =>
    let handshake := N.formatHandshakeInitiation e
      (N.new e r.privateKey offer.peerPublicKey receiverIndex)
    some
      ({ r with
          receiverIndices := r.receiverIndices.insert receiverIndex offer.peerIp
          peers := r.peers.insert offer.peerIp
            { publicKey := offer.peerPublicKey
              endpoint := offer.peerEndpoint
              receiverIndex
              leaseId := offer.leaseId
              expiresAtUnixMs := offer.expiresAtUnixMs
              lastAuthenticated := none
              tunnel := handshake.1 } },
        ⟨(responses handshake.2).map (·, offer.peerEndpoint), []⟩)

def applyOffer (e : N.Entropy) (draws : Draws)
    (offer : WireGuardP2pOffer) (nowMs : Nat) : Option (Runtime N × Out) :=
  if offer.peerPublicKey.length ≠ 32 then some (r, .empty)
  else if offer.peerEndpoint.isIpv4 = false then some (r, .empty)
  else if offer.leaseId = 0 ∨ offer.expiresAtUnixMs ≤ nowMs ∨
      maxLeaseAheadMs < offer.expiresAtUnixMs - nowMs ∨
      validPeer r.networkAddr offer.peerIp = false then
    some (r, .empty)
  else if maxActivePeers ≤ r.peers.len ∧ (r.peers.lookup offer.peerIp).isNone = true then
    some (r, .empty)
  else
    match (r.peers.lookup offer.peerIp).filter (·.publicKey == offer.peerPublicKey) with
    | some peer =>
      some
        ({ r with
            peers := r.peers.insert offer.peerIp
              { peer with
                endpoint := offer.peerEndpoint
                leaseId := offer.leaseId
                expiresAtUnixMs := offer.expiresAtUnixMs } },
          .empty)
    | none => r.addPeer e draws offer

def applyControl (e : N.Entropy) (draws : Draws) :
    WireGuardP2pControl → Nat → Option (Runtime N × Out)
  | .offer offer, nowMs => r.applyOffer e draws offer nowMs
  | .revoke leaseId, _ =>
    match r.peers.findMap fun ip peer => if peer.leaseId = leaseId then some ip else none with
    | some ip => some (r.removePeer ip, .empty)
    | none => some (r, .empty)
  | .missing, _ => some (r, .empty)

/-! ## Datagrams -/

/-- The entry that a datagram is for. -/
def target (packet : Bytes) : Noise.Message → Option Ipv4Addr
  | .handshakeInit =>
    match N.parseHandshakeAnon r.privateKey r.publicKey packet with
    | some key => r.peers.findMap fun ip peer => if peer.publicKey = key then some ip else none
    | none => none
  | .handshakeResponse receiverIdx => r.receiverIndices.lookup (receiverIdx >>> 8).toNat
  | .cookieReply receiverIdx => r.receiverIndices.lookup (receiverIdx >>> 8).toNat
  | .data receiverIdx => r.receiverIndices.lookup (receiverIdx >>> 8).toNat

/-- A header with one hop, and the packet. -/
def directBuffer (peerIp ip : Ipv4Addr) (inner : Bytes) : Bytes :=
  [NetPacket.typeByte .wireGuardRelay, 17, 0, 0, 0, 0, 0, 0] ++
    (Bytes.ofU32 peerIp ++ (Bytes.ofU32 ip ++ inner))

theorem head_le_directBuffer (peerIp ip : Ipv4Addr) (inner : Bytes) :
    headLength ≤ (directBuffer peerIp ip inner).length := by
  simp only [directBuffer, Bytes.ofU32, List.length_append, List.length_cons, List.length_nil,
    headLength]
  omega

/-- The frame of a packet from a tunnel. -/
def directFrame (peerIp ip : Ipv4Addr) (inner : Bytes) : NetPacket :=
  ⟨directBuffer peerIp ip inner, head_le_directBuffer peerIp ip inner⟩

/-- What a packet from the tunnel of an entry gives to the pipeline. -/
def deliver (peerIp : Ipv4Addr) : Noise.Answer → List (Ipv4Addr × NetPacket)
  | .writeToTunnelV4 inner source =>
    if source = peerIp ∧
        (validateInnerIpv4 inner peerIp r.networkAddr (some r.networkAddr.ip)).isSome = true then
      [(peerIp, directFrame peerIp r.networkAddr.ip inner)]
    else []
  | _ => []

/-- The answers that count as a packet of the peer. -/
def processed : Noise.Answer → Bool
  | .done => true
  | .writeToNetwork _ => true
  | .writeToTunnelV4 _ _ => true
  | _ => false

/-- The entry gets a datagram. -/
def receive (e : N.Entropy) (packet : Bytes) (source : SocketAddr) (now : Nat)
    (peerIp : Ipv4Addr) : Runtime N × Out :=
  match r.peers.lookup peerIp with
  | none => (r, .empty)
  | some peer =>
    let answer := N.decapsulate e (some source.ip) packet peer.tunnel
    if processed answer.2 then
      let flushed := N.flush e answer.1
      ({ r with
          peers := r.peers.insert peerIp
            { peer with
              endpoint := source
              lastAuthenticated := some now
              tunnel := flushed.1 } },
        ⟨(responses answer.2 ++ flushed.2).map (·, source), r.deliver peerIp answer.2⟩)
    else ({ r with peers := r.peers.insert peerIp { peer with tunnel := answer.1 } }, .empty)

def handleDatagram (e : N.Entropy) (packet : Bytes) (source : SocketAddr) (now : Nat) :
    Runtime N × Out :=
  let verified := N.verifyPacket e source.ip packet r.rateLimiter
  let r := { r with rateLimiter := verified.1 }
  match verified.2 with
  | .ok message =>
    match r.target packet message with
    | some peerIp => r.receive e packet source now peerIp
    | none => (r, .empty)
  | .error (.writeToNetwork cookie) => (r, ⟨[(cookie, source)], []⟩)
  | .error _ => (r, .empty)

/-- A cookie counts as a packet of the peer: the tunnel of the entry gets one, or answers with
one. -/
def countsCookie (e : N.Entropy) (packet : Bytes) (source : SocketAddr) : Bool :=
  match (N.verifyPacket e source.ip packet r.rateLimiter).2 with
  | .ok message =>
    match (r.target packet message).bind r.peers.lookup with
    | some peer =>
      message.isCookie || (N.decapsulate e (some source.ip) packet peer.tunnel).2.isCookie
    | none => false
  | .error _ => false

/-! ## Packets to peers -/

/-- `sent` is what the socket says; the last component answers the caller. -/
def sendInner (e : N.Entropy) (destination : Ipv4Addr) (packet : Bytes) (nowMs now : Nat)
    (sent : Bool) : Runtime N × Out × Bool :=
  if (validateInnerIpv4 packet r.networkAddr.ip r.networkAddr (some destination)).isNone = true then
    (r, .empty, false)
  else
    match r.peers.lookup destination with
    | none => (r, .empty, false)
    | some peer =>
      if peer.expiresAtUnixMs ≤ nowMs ∨
          (peer.lastAuthenticated.all fun last => decide (authenticatedRouteTtl < now - last)) =
            true then
        (r, .empty, false)
      else
        let answer := N.encapsulate e packet peer.tunnel
        let r := { r with peers := r.peers.insert destination { peer with tunnel := answer.1 } }
        match answer.2 with
        | .writeToNetwork networkPacket => (r, ⟨[(networkPacket, peer.endpoint)], []⟩, sent)
        | _ => (r, .empty, false)

/-! ## The timer -/

def expired (nowMs : Nat) : List Ipv4Addr :=
  (r.peers.entries.filter fun entry => decide (entry.2.expiresAtUnixMs ≤ nowMs)).map (·.1)

def updateTimers (e : N.Entropy) (nowMs : Nat) : Runtime N × Out :=
  let r := (r.expired nowMs).foldl removePeer r
  ({ r with
      peers := r.peers.mapValues fun peer =>
        { peer with tunnel := (N.updateTimers e peer.tunnel).1 } },
    ⟨r.peers.values.flatMap fun peer =>
        (responses (N.updateTimers e peer.tunnel).2).map (·, peer.endpoint), []⟩)

/-! ## The table -/

/-- The table is consistent, and `P` holds of its entries. -/
structure Table (P : Ipv4Addr → TunnelPeer N → Prop) : Prop where
  indexed : r.peers.IndexedBy (fun _ peer => peer.receiverIndex) fun i => r.receiverIndices.lookup i
  bounded : r.peers.len ≤ maxActivePeers
  entry : ∀ ip peer, r.peers.lookup ip = some peer → P ip peer

variable {r} {P Q : Ipv4Addr → TunnelPeer N → Prop} {e : N.Entropy} {ip : Ipv4Addr}
  {peer : TunnelPeer N}

theorem Table.mono (h : r.Table P) (hPQ : ∀ ip peer, P ip peer → Q ip peer) : r.Table Q :=
  ⟨h.indexed, h.bounded, fun ip peer hp => hPQ ip peer (h.entry ip peer hp)⟩

theorem peers_removePeer (r : Runtime N) (ip : Ipv4Addr) :
    (r.removePeer ip).peers = r.peers.erase ip := by
  unfold removePeer
  cases h : r.peers.lookup ip with
  | none => exact (erase_of_none h).symm
  | some peer => rfl

@[simp] theorem networkAddr_removePeer (r : Runtime N) (ip : Ipv4Addr) :
    (r.removePeer ip).networkAddr = r.networkAddr := by
  unfold removePeer
  split <;> rfl

theorem Table.removePeer (h : r.Table P) (ip : Ipv4Addr) : (r.removePeer ip).Table P := by
  refine ⟨?_, ?_, fun ip' peer hp => h.entry ip' peer ?_⟩
  · unfold Runtime.removePeer
    cases hl : r.peers.lookup ip with
    | none => exact h.indexed
    | some peer => exact h.indexed.erase hl fun i => lookup_erase_if ..
  · rw [peers_removePeer]
    exact (len_erase_le _ _).trans h.bounded
  · rw [peers_removePeer, lookup_erase_if] at hp
    split at hp
    · cases hp
    · exact hp

/-- An entry changes and keeps its index. -/
theorem Table.update (h : r.Table P) (hp : r.peers.lookup ip = some peer) {peer' : TunnelPeer N}
    (hi : peer'.receiverIndex = peer.receiverIndex) (hP : P ip peer') :
    { r with peers := r.peers.insert ip peer' }.Table P := by
  refine ⟨h.indexed.update hp hi, ?_, fun ip' peer'' hp'' => ?_⟩
  · exact (len_insert_of_some hp _).trans_le h.bounded
  · rcases lookup_insert_cases hp'' with ⟨he, rfl⟩ | ⟨-, hp''⟩
    · exact he ▸ hP
    · exact h.entry ip' peer'' hp''

/-- A new entry with an index that is not in use. -/
theorem Table.add (h : r.Table P) (hl : r.peers.lookup ip = none)
    (hb : r.peers.len < maxActivePeers) (hi : r.receiverIndices.lookup peer.receiverIndex = none)
    (hP : P ip peer) :
    { r with
      receiverIndices := r.receiverIndices.insert peer.receiverIndex ip
      peers := r.peers.insert ip peer }.Table P := by
  refine ⟨h.indexed.insert hl hi fun i => lookup_insert_if .., ?_, fun ip' peer' hp => ?_⟩
  · exact (len_insert_of_none hl _).trans_le hb
  · rcases lookup_insert_cases hp with ⟨he, rfl⟩ | ⟨-, hp⟩
    · exact he ▸ hP
    · exact h.entry ip' peer' hp

theorem Table.foldl_removePeer (h : r.Table P) (ips : List Ipv4Addr) :
    (ips.foldl Runtime.removePeer r).Table P := by
  induction ips generalizing r with
  | nil => exact h
  | cons ip ips ih => exact ih (h.removePeer ip)

@[simp] theorem networkAddr_foldl_removePeer (r : Runtime N) (ips : List Ipv4Addr) :
    (ips.foldl removePeer r).networkAddr = r.networkAddr := by
  induction ips generalizing r with
  | nil => rfl
  | cons ip ips ih => rw [List.foldl_cons, ih, networkAddr_removePeer]

/-! ## What the operations do to the table -/

/-- `P` does not depend on the state of the tunnel. -/
def AllowsTunnel (P : Ipv4Addr → TunnelPeer N → Prop) : Prop :=
  ∀ ip peer tunnel, P ip peer → N.peerKey tunnel = N.peerKey peer.tunnel → P ip { peer with tunnel }

variable {draws : Draws} {nowMs now : Nat} {offer : WireGuardP2pOffer} {out : Out} {r' : Runtime N}
  {control : WireGuardP2pControl} {packet : Bytes}

/-- What of an offer is checked before the entries are changed. -/
def RefusesOffer (addr : NetworkAddr) (len : Nat) (isNone : Bool) (offer : WireGuardP2pOffer)
    (nowMs : Nat) : Prop :=
  offer.peerPublicKey.length ≠ 32 ∨ offer.peerEndpoint.isIpv4 = false ∨
    (offer.leaseId = 0 ∨ offer.expiresAtUnixMs ≤ nowMs ∨
      maxLeaseAheadMs < offer.expiresAtUnixMs - nowMs ∨ validPeer addr offer.peerIp = false) ∨
    (maxActivePeers ≤ len ∧ isNone = true)

/-- The entry after an offer with its key. -/
def renew (peer : TunnelPeer N) (offer : WireGuardP2pOffer) : TunnelPeer N :=
  { peer with
    endpoint := offer.peerEndpoint
    leaseId := offer.leaseId
    expiresAtUnixMs := offer.expiresAtUnixMs }

/-- An offer is refused, renews an entry with its key, or makes an entry. -/
theorem applyOffer_cases (hr : r.applyOffer e draws offer nowMs = some (r', out)) :
    out.inbound = [] ∧
      (RefusesOffer r.networkAddr r.peers.len (r.peers.lookup offer.peerIp).isNone offer nowMs ∧
          r' = r ∨
        ¬ RefusesOffer r.networkAddr r.peers.len (r.peers.lookup offer.peerIp).isNone offer nowMs ∧
          ((∃ peer, r.peers.lookup offer.peerIp = some peer ∧ peer.publicKey = offer.peerPublicKey ∧
              r' = { r with peers := r.peers.insert offer.peerIp (renew peer offer) }) ∨
            (∀ peer, r.peers.lookup offer.peerIp = some peer →
              peer.publicKey ≠ offer.peerPublicKey) ∧
            ∃ index tunnel,
              (r.removePeer offer.peerIp).receiverIndices.lookup index = none ∧
              N.peerKey tunnel = offer.peerPublicKey ∧
              r' = { r.removePeer offer.peerIp with
                receiverIndices := (r.removePeer offer.peerIp).receiverIndices.insert index
                  offer.peerIp
                peers := (r.removePeer offer.peerIp).peers.insert offer.peerIp
                  ⟨⟨offer.peerPublicKey, offer.peerEndpoint, offer.leaseId,
                    offer.expiresAtUnixMs⟩, index, none, tunnel⟩ })) := by
  simp only [Runtime.applyOffer, ← ite_or] at hr
  split at hr
  · rename_i href
    cases hr
    exact ⟨rfl, .inl ⟨href, rfl⟩⟩
  rename_i href
  split at hr
  · rename_i peer hp
    cases hr
    obtain ⟨hp, hk⟩ := Option.filter_eq_some_iff.mp hp
    exact ⟨rfl, .inr ⟨href, .inl ⟨peer, hp, beq_iff_eq.mp hk, rfl⟩⟩⟩
  · rename_i hp
    have hkey : ∀ peer, r.peers.lookup offer.peerIp = some peer →
        peer.publicKey ≠ offer.peerPublicKey := by
      intro peer hl hk
      simp [hl, hk] at hp
    simp only [addPeer] at hr
    split at hr
    · cases hr
    · rename_i index hi
      cases hr
      have hfree := Option.isNone_iff_eq_none.mp (List.find?_some hi :)
      exact ⟨rfl, .inr ⟨href, .inr ⟨hkey, index, _, hfree,
        (N.peerKey_format ..).trans (N.peerKey_new ..), rfl⟩⟩⟩

/-- `P` holds of the entry that an offer renews or makes. -/
structure AllowsOffer (P : Ipv4Addr → TunnelPeer N → Prop) (addr : NetworkAddr)
    (offer : WireGuardP2pOffer) : Prop where
  renew : ∀ peer, P offer.peerIp peer → peer.publicKey = offer.peerPublicKey →
    P offer.peerIp (renew peer offer)
  create : ∀ index tunnel, validPeer addr offer.peerIp = true →
    N.peerKey tunnel = offer.peerPublicKey →
    P offer.peerIp ⟨⟨offer.peerPublicKey, offer.peerEndpoint, offer.leaseId,
      offer.expiresAtUnixMs⟩, index, none, tunnel⟩

theorem Table.applyOffer (h : r.Table P) (hr : r.applyOffer e draws offer nowMs = some (r', out))
    (ha : AllowsOffer P r.networkAddr offer) : r'.Table P ∧ r'.networkAddr = r.networkAddr := by
  obtain ⟨-, ⟨-, rfl⟩ | ⟨href, ⟨peer, hp, hk, rfl⟩ | ⟨-, index, tunnel, hi, hk, rfl⟩⟩⟩ :=
    applyOffer_cases hr
  · exact ⟨h, rfl⟩
  · exact ⟨h.update hp rfl (ha.renew peer (h.entry _ _ hp) hk), rfl⟩
  · simp only [RefusesOffer, not_or, Bool.not_eq_false] at href
    obtain ⟨-, -, ht, hfull⟩ := href
    -- The old entry, if there is one, makes room for the new one.
    have hb : (r.removePeer offer.peerIp).peers.len < maxActivePeers := by
      rw [peers_removePeer]
      cases hl : r.peers.lookup offer.peerIp with
      | none =>
        refine (len_erase_le _ _).trans_lt (Nat.lt_of_not_le fun hle => hfull ⟨hle, ?_⟩)
        rw [hl]; rfl
      | some peer => exact (len_erase_lt hl).trans_le h.bounded
    have hl : (r.removePeer offer.peerIp).peers.lookup offer.peerIp = none := by
      rw [peers_removePeer, lookup_erase_if, if_pos rfl]
    exact ⟨(h.removePeer offer.peerIp).add hl hb hi (ha.create index _ ht.2.2.2 hk),
      networkAddr_removePeer ..⟩

theorem Table.applyControl (h : r.Table P)
    (hr : r.applyControl e draws control nowMs = some (r', out))
    (ha : ∀ offer, control = .offer offer → AllowsOffer P r.networkAddr offer) :
    r'.Table P ∧ r'.networkAddr = r.networkAddr := by
  cases control with
  | missing => cases hr; exact ⟨h, rfl⟩
  | revoke leaseId =>
    simp only [Runtime.applyControl] at hr
    split at hr
    · cases hr; exact ⟨h.removePeer _, networkAddr_removePeer ..⟩
    · cases hr; exact ⟨h, rfl⟩
  | offer offer => exact h.applyOffer hr (ha offer rfl)

theorem inbound_applyControl
    (hr : r.applyControl e draws control nowMs = some (r', out)) : out.inbound = [] := by
  cases control with
  | missing => cases hr; rfl
  | revoke leaseId =>
    simp only [Runtime.applyControl] at hr
    split at hr <;> cases hr <;> rfl
  | offer offer => exact (applyOffer_cases hr).1

variable {frame : NetPacket} {ip' : Ipv4Addr} {source : SocketAddr}

theorem mem_deliver {answer : Noise.Answer} (h : (ip', frame) ∈ r.deliver ip answer) :
    ip' = ip ∧ Ipv4Packet.source frame.payload = ip ∧
      Ipv4Packet.destination frame.payload = r.networkAddr.ip := by
  cases answer with
  | writeToTunnelV4 inner source =>
    simp only [deliver] at h
    split at h
    · rename_i hv
      obtain ⟨rfl, rfl⟩ := Prod.mk.inj (List.mem_singleton.mp h)
      obtain ⟨route, hroute⟩ := Option.isSome_iff_exists.mp hv.2
      obtain ⟨⟨⟨-, rfl⟩, hs⟩, hd, -⟩ := validateInnerIpv4_eq_some.mp hroute
      exact ⟨rfl, hs, hd _ rfl⟩
    · cases h
  | _ => cases h

/-- A datagram changes the entry that it is for. The entry counts as authenticated only if the
tunnel took the datagram. -/
theorem Table.receive (h : r.Table P) (htunnel : AllowsTunnel P)
    (hauth : ∀ peer tunnel, r.peers.lookup ip = some peer → P ip peer →
      N.peerKey tunnel = N.peerKey peer.tunnel →
      (N.decapsulate e (some source.ip) packet peer.tunnel).2 ≠ .err →
      P ip { peer with endpoint := source, lastAuthenticated := some now, tunnel }) :
    (r.receive e packet source now ip).1.Table P ∧
      (r.receive e packet source now ip).1.networkAddr = r.networkAddr := by
  unfold Runtime.receive
  cases hl : r.peers.lookup ip with
  | none => exact ⟨h, rfl⟩
  | some peer =>
    have hkey := N.peerKey_decapsulate e (some source.ip) packet peer.tunnel
    simp only
    split
    · rename_i hproc
      have hne : (N.decapsulate e (some source.ip) packet peer.tunnel).2 ≠ .err := by
        intro he
        rw [he] at hproc
        cases hproc
      exact ⟨h.update hl rfl (hauth peer _ hl (h.entry _ _ hl)
        ((Noise.peerKey_flush _).trans hkey) hne), rfl⟩
    · exact ⟨h.update hl rfl (htunnel ip peer _ (h.entry _ _ hl) hkey), rfl⟩

theorem mem_inbound_receive (h : (ip', frame) ∈ (r.receive e packet source now ip).2.inbound) :
    (∃ peer, r.peers.lookup ip' = some peer) ∧ Ipv4Packet.source frame.payload = ip' ∧
      Ipv4Packet.destination frame.payload = r.networkAddr.ip := by
  unfold receive at h
  cases hl : r.peers.lookup ip with
  | none => rw [hl] at h; cases h
  | some peer =>
    simp only [hl] at h
    split at h
    · obtain ⟨rfl, hs, hd⟩ := mem_deliver h
      exact ⟨⟨peer, hl⟩, hs, hd⟩
    · cases h

/-- A datagram reaches an entry, or it changes nothing but the rate limiter. If no cookie counts, it
is authentic when the tunnel takes it. -/
theorem handleDatagram_cases (r : Runtime N) (e : N.Entropy) (packet : Bytes) (source : SocketAddr)
    (now : Nat) :
    ∃ limiter, (∃ ip, r.handleDatagram e packet source now =
        { r with rateLimiter := limiter }.receive e packet source now ip ∧
        ∀ peer, r.peers.lookup ip = some peer →
          (N.decapsulate e (some source.ip) packet peer.tunnel).2 ≠ .err →
          r.countsCookie e packet source = false → N.Authentic (N.peerKey peer.tunnel) packet) ∨
      (r.handleDatagram e packet source now).1 = { r with rateLimiter := limiter } ∧
        (r.handleDatagram e packet source now).2.inbound = [] := by
  refine ⟨(N.verifyPacket e source.ip packet r.rateLimiter).1, ?_⟩
  unfold handleDatagram
  simp only
  split
  · rename_i message hv
    split
    · rename_i ip ht
      refine .inl ⟨ip, rfl, fun peer hp hne hc => ?_⟩
      replace ht : r.target packet message = some ip := ht
      simp only [countsCookie, hv, ht, Option.bind_some, hp, Bool.or_eq_false_iff] at hc
      exact N.authenticates _ _ _ _ _ _ hv hne hc.1 hc.2
    · exact .inr ⟨rfl, rfl⟩
  · exact .inr ⟨rfl, rfl⟩
  · exact .inr ⟨rfl, rfl⟩

/-- A packet is refused and nothing changes, or it is for an entry with a lease that is not over and
with a recent packet. -/
theorem sendInner_cases (r : Runtime N) (e : N.Entropy) (destination : Ipv4Addr) (packet : Bytes)
    (nowMs now : Nat) (sent : Bool) :
    r.sendInner e destination packet nowMs now sent = (r, .empty, false) ∨
      ∃ peer last, r.peers.lookup destination = some peer ∧ nowMs < peer.expiresAtUnixMs ∧
        peer.lastAuthenticated = some last ∧ now - last ≤ authenticatedRouteTtl ∧
        (r.sendInner e destination packet nowMs now sent).1 =
          { r with
            peers := r.peers.insert destination
              { peer with tunnel := (N.encapsulate e packet peer.tunnel).1 } } ∧
        (r.sendInner e destination packet nowMs now sent).2.1.inbound = [] := by
  unfold sendInner
  split
  · exact .inl rfl
  cases hl : r.peers.lookup destination with
  | none => exact .inl rfl
  | some peer =>
    simp only
    split
    · exact .inl rfl
    rename_i hguard
    obtain ⟨hexp, hall⟩ := not_or.mp hguard
    obtain ⟨last, hlast⟩ : ∃ last, peer.lastAuthenticated = some last := by
      refine Option.ne_none_iff_exists'.mp fun hnone => hall ?_
      rw [hnone]; rfl
    rw [hlast, Option.all_some, decide_eq_true_eq, Nat.not_lt] at hall
    refine .inr ⟨peer, last, rfl, Nat.lt_of_not_le hexp, hlast, hall, ?_⟩
    split <;> exact ⟨rfl, rfl⟩

theorem Table.sendInner {destination : Ipv4Addr} {sent : Bool}
    (h : r.Table P) (htunnel : AllowsTunnel P) :
    (r.sendInner e destination packet nowMs now sent).1.Table P ∧
      (r.sendInner e destination packet nowMs now sent).1.networkAddr = r.networkAddr := by
  rcases sendInner_cases r e destination packet nowMs now sent with
    hr | ⟨peer, _, hl, _, _, _, hr, -⟩
  · rw [hr]
    exact ⟨h, rfl⟩
  · rw [hr]
    exact ⟨h.update hl rfl (htunnel _ _ _ (h.entry _ _ hl) (N.peerKey_encapsulate ..)), rfl⟩

theorem Table.updateTimers (h : r.Table P) (htunnel : AllowsTunnel P) :
    (r.updateTimers e nowMs).1.Table P := by
  have hf := h.foldl_removePeer (r.expired nowMs)
  refine ⟨hf.indexed.mapValues fun _ _ => rfl, ?_, fun ip peer hp => ?_⟩
  · exact (len_mapValues _ _).trans_le hf.bounded
  · obtain ⟨peer', hp', rfl⟩ := Option.map_eq_some_iff.mp
      ((lookup_mapValues _ _ _).symm.trans hp)
    exact htunnel ip peer' _ (hf.entry _ _ hp') (N.peerKey_timers ..)

/-! ## The leases -/

/-- What the runtime shows of its entries. -/
def leases (r : Runtime N) : HashMap Ipv4Addr ActivePeer := r.peers.mapValues (·.toActivePeer)

theorem leases_removePeer (r : Runtime N) (ip : Ipv4Addr) :
    (r.removePeer ip).leases = r.leases.erase ip := by
  rw [leases, peers_removePeer]
  exact mapValues_erase ..

theorem leases_applyOffer (hr : r.applyOffer e draws offer nowMs = some (r', out)) :
    r'.leases = Client.applyOffer r.networkAddr r.leases offer nowMs := by
  have hlookup : r.leases.lookup offer.peerIp =
      (r.peers.lookup offer.peerIp).map (·.toActivePeer) := lookup_mapValues ..
  have hnone : (r.leases.lookup offer.peerIp).isNone = (r.peers.lookup offer.peerIp).isNone := by
    rw [hlookup, Option.isNone_map]
  have hlen : r.leases.len = r.peers.len := len_mapValues ..
  simp only [Client.applyOffer, ← ite_or]
  rw [hlen, hnone]
  obtain ⟨-, ⟨href, rfl⟩ | ⟨href, ⟨peer, hp, hk, rfl⟩ | ⟨hne, index, tunnel, -, -, rfl⟩⟩⟩ :=
    applyOffer_cases hr
  · exact (if_pos href).symm
  · refine Eq.trans ?_ (if_neg href).symm
    rw [hlookup, hp]
    simp only [Option.map_some, if_pos hk]
    exact mapValues_insert ..
  · refine Eq.trans ?_ (if_neg href).symm
    rw [hlookup]
    refine (mapValues_insert ..).trans ?_
    rw [show mapValues _ _ = _ from leases_removePeer r offer.peerIp]
    cases hl : r.peers.lookup offer.peerIp with
    | none =>
      -- There is nothing to remove.
      rw [erase_of_none (by rw [hlookup, hl]; rfl)]
      rfl
    | some peer => simp only [Option.map_some, if_neg (hne peer hl)]

/-- A message changes the leases as `P2p.lean` says. -/
theorem leases_applyControl (hr : r.applyControl e draws control nowMs = some (r', out)) :
    r'.leases = Client.applyControl r.networkAddr r.leases control nowMs := by
  cases control with
  | missing => cases hr; rfl
  | offer offer => exact leases_applyOffer hr
  | revoke leaseId =>
    simp only [Runtime.applyControl] at hr
    simp only [Client.applyControl, leases, findMap_mapValues]
    split at hr
    · rename_i ip hip
      cases hr
      rw [hip]
      exact leases_removePeer r ip
    · rename_i hip
      cases hr
      rw [hip]
      rfl

theorem leases_foldl_removePeer (r : Runtime N) (ips : List Ipv4Addr) :
    (ips.foldl removePeer r).leases = ips.foldl (fun m ip => m.erase ip) r.leases := by
  induction ips generalizing r with
  | nil => rfl
  | cons ip ips ih => rw [List.foldl_cons, ih, leases_removePeer, List.foldl_cons]

theorem mem_expired :
    ip ∈ r.expired nowMs ↔
      ∃ peer, r.peers.lookup ip = some peer ∧ peer.expiresAtUnixMs ≤ nowMs := by
  simp only [expired, List.mem_map, List.mem_filter, decide_eq_true_eq]
  constructor
  · rintro ⟨⟨ip, peer⟩, ⟨hm, hle⟩, rfl⟩
    exact ⟨peer, mem_entries.mp hm, hle⟩
  · rintro ⟨peer, hp, hle⟩
    exact ⟨⟨ip, peer⟩, ⟨mem_entries.mpr hp, hle⟩, rfl⟩

/-- The timer removes the leases that are over, and nothing else of them changes. -/
theorem leases_updateTimers (r : Runtime N) (e : N.Entropy) (nowMs : Nat) :
    (r.updateTimers e nowMs).1.leases =
      r.leases.retain fun _ peer => decide (nowMs < peer.expiresAtUnixMs) := by
  have htick : (r.updateTimers e nowMs).1.leases = ((r.expired nowMs).foldl removePeer r).leases :=
    AList.ext (List.map_map ..)
  rw [htick, leases_foldl_removePeer, foldl_erase_eq_retain]
  simp only [leases, retain_mapValues]
  congr 1
  refine AList.ext (List.filter_congr fun entry hm => ?_)
  have hp : r.peers.lookup entry.1 = some entry.2 := mem_entries.mp hm
  by_cases h : entry.2.expiresAtUnixMs ≤ nowMs
  · have hmem : entry.1 ∈ r.expired nowMs := mem_expired.mpr ⟨_, hp, h⟩
    simp [hmem, h]
  · have hmem : entry.1 ∉ r.expired nowMs := by
      intro hmem
      obtain ⟨peer, hp', hle⟩ := mem_expired.mp hmem
      cases hp.symm.trans hp'
      exact h hle
    simp [hmem, Nat.lt_of_not_le h]

end Runtime

end Client

end Vntc
