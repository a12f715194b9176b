import Vntc.Client.Bridge
import Vntc.Server.WireGuard.P2p

/-!
# The client's side of direct tunnels

A VNT client takes the control frames of its server (`handle_server_data` of
`tunnel_core/server/inbound.rs` in `vnt-core`) and keeps the peers with a lease in the runtime of
`wireguard_p2p.rs`: an offer makes or renews the entry of an address, a revocation removes the entry
with its lease id, and the timer removes the entries whose lease is over.

The tunnels of the entries and their receiver indices are left out: no lease depends on them. A
client works off its frames in order, from the connection through the channel of the runtime, so
both are one queue here.
-/

namespace Vntc

open Lib

def SocketAddr.isIpv4 : SocketAddr → Bool
  | .v4 .. => true
  | .v6 .. => false

namespace Client

/-- An entry of the runtime. -/
structure ActivePeer where
  publicKey : Bytes
  endpoint : SocketAddr
  leaseId : BitVec 64
  expiresAtUnixMs : Nat
  deriving DecidableEq

def maxActivePeers : Nat := 64

def maxLeaseAheadMs : Nat := 120000

def syntheticIpv4 (source destination : Ipv4Addr) : Bytes :=
  [0x45, 0, 0, 20, 0, 0, 0, 0, 64, 17, 0, 0] ++ (Bytes.ofU32 source ++ Bytes.ofU32 destination)

/-- A packet from the peer to the client is one of the network. -/
def validPeer (addr : NetworkAddr) (peerIp : Ipv4Addr) : Bool :=
  (validateInnerIpv4 (syntheticIpv4 peerIp addr.ip) peerIp addr (some addr.ip)).isSome

/-- The entries after an offer. -/
def applyOffer (addr : NetworkAddr) (peers : HashMap Ipv4Addr ActivePeer)
    (offer : WireGuardP2pOffer) (nowMs : Nat) : HashMap Ipv4Addr ActivePeer :=
  if offer.peerPublicKey.length ≠ 32 then peers
  else if offer.peerEndpoint.isIpv4 = false then peers
  else if offer.leaseId = 0 ∨ offer.expiresAtUnixMs ≤ nowMs ∨
      maxLeaseAheadMs < offer.expiresAtUnixMs - nowMs ∨ validPeer addr offer.peerIp = false then
    peers
  else if maxActivePeers ≤ peers.len ∧ (peers.lookup offer.peerIp).isNone = true then peers
  else
    let peer : ActivePeer :=
      ⟨offer.peerPublicKey, offer.peerEndpoint, offer.leaseId, offer.expiresAtUnixMs⟩
    match peers.lookup offer.peerIp with
    | none => peers.insert offer.peerIp peer
    | some old =>
      if old.publicKey = offer.peerPublicKey then
        -- The tunnel stays.
        peers.insert offer.peerIp
          { old with
            endpoint := offer.peerEndpoint
            leaseId := offer.leaseId
            expiresAtUnixMs := offer.expiresAtUnixMs }
      else (peers.erase offer.peerIp).insert offer.peerIp peer

/-- The entries after a message. -/
def applyControl (addr : NetworkAddr) (peers : HashMap Ipv4Addr ActivePeer) :
    WireGuardP2pControl → Nat → HashMap Ipv4Addr ActivePeer
  | .offer offer, nowMs => applyOffer addr peers offer nowMs
  | .revoke leaseId, _ =>
    peers.eraseOpt (peers.findMap fun ip peer => if peer.leaseId = leaseId then some ip else none)
  | .missing, _ => peers

/-- A client with the control frames on their way to it. -/
structure P2pClient where
  allowWireGuard : Bool
  /-- There is a runtime for tunnels. -/
  wireguardP2p : Bool
  networkAddr : NetworkAddr
  queue : List ControlFrame
  peers : HashMap Ipv4Addr ActivePeer

namespace P2pClient

variable (c : P2pClient)

/-- The client takes frames between these addresses. -/
def takes (gateway targetIp : Ipv4Addr) : Bool :=
  c.allowWireGuard && c.wireguardP2p && gateway == c.networkAddr.gateway &&
    targetIp == c.networkAddr.ip

/-- The message of a frame for the runtime. -/
def message (frame : ControlFrame) : Option WireGuardP2pControl :=
  if c.takes frame.gateway frame.targetIp then some frame.control else none

/-- The messages on their way to the runtime. -/
def pending : List WireGuardP2pControl := c.queue.filterMap c.message

def enqueue (frame : ControlFrame) : P2pClient := { c with queue := c.queue ++ [frame] }

/-- The client handles the first frame of its queue. -/
def process (nowMs : Nat) : P2pClient :=
  match c.queue with
  | [] => c
  | frame :: queue =>
    { c with
      queue
      peers :=
        match c.message frame with
        | none => c.peers
        | some control => applyControl c.networkAddr c.peers control nowMs }

def updateTimers (nowMs : Nat) : P2pClient :=
  { c with peers := c.peers.retain fun _ peer => decide (nowMs < peer.expiresAtUnixMs) }

variable {c}

theorem pending_enqueue (frame : ControlFrame) :
    (c.enqueue frame).pending = c.pending ++ (c.message frame).toList := by
  have hm : (c.enqueue frame).message = c.message := rfl
  simp only [pending, hm]
  simp only [enqueue, List.filterMap_append]
  cases h : c.message frame with
  | none => rw [List.filterMap_cons_none h]; rfl
  | some control => rw [List.filterMap_cons_some h]; rfl

theorem takes_process (nowMs : Nat) : (c.process nowMs).takes = c.takes := by
  unfold process
  split <;> rfl

theorem networkAddr_process (nowMs : Nat) : (c.process nowMs).networkAddr = c.networkAddr := by
  unfold process
  split <;> rfl

/-- The client has no frame for its runtime, or the runtime gets the first message. -/
theorem process_cases (c : P2pClient) (nowMs : Nat) :
    (c.process nowMs).pending = c.pending ∧ (c.process nowMs).peers = c.peers ∨
      ∃ control, c.pending = control :: (c.process nowMs).pending ∧
        (c.process nowMs).peers = applyControl c.networkAddr c.peers control nowMs := by
  have hm : (c.process nowMs).message = c.message := by
    funext frame
    simp only [message, takes_process]
  simp only [pending, hm]
  cases hq : c.queue with
  | nil => exact .inl (by simp only [process, hq, and_self])
  | cons frame queue =>
    simp only [process, hq]
    cases hf : c.message frame with
    | none => exact .inl ⟨(List.filterMap_cons_none hf).symm, rfl⟩
    | some control => exact .inr ⟨control, List.filterMap_cons_some hf, rfl⟩

end P2pClient

/-! ## Offers -/

/-- What of an offer does not depend on the time: the peer's key and address. -/
def Admits (addr : NetworkAddr) (peerIp : Ipv4Addr) (publicKey : Bytes) : Prop :=
  publicKey.length = 32 ∧ validPeer addr peerIp = true

/-- The runtime can use the endpoint, and the lease is neither over nor too far ahead. -/
def Timely (offer : WireGuardP2pOffer) (nowMs : Nat) : Prop :=
  offer.peerEndpoint.isIpv4 = true ∧ nowMs < offer.expiresAtUnixMs ∧
    offer.expiresAtUnixMs - nowMs ≤ maxLeaseAheadMs

instance (offer : WireGuardP2pOffer) (nowMs : Nat) : Decidable (Timely offer nowMs) :=
  inferInstanceAs (Decidable (_ ∧ _ ∧ _))

section
variable (addr : NetworkAddr) (peers : HashMap Ipv4Addr ActivePeer) (offer : WireGuardP2pOffer)
  (nowMs : Nat)

/-- A timely offer for an address that has an entry is never refused. -/
theorem applyOffer_cases :
    applyOffer addr peers offer nowMs = peers ∧
        ¬ (Admits addr offer.peerIp offer.peerPublicKey ∧ offer.leaseId ≠ 0 ∧ Timely offer nowMs ∧
          (peers.lookup offer.peerIp).isSome = true) ∨
      Admits addr offer.peerIp offer.peerPublicKey ∧
        ∀ ip, (applyOffer addr peers offer nowMs).lookup ip = if ip = offer.peerIp then
            some ⟨offer.peerPublicKey, offer.peerEndpoint, offer.leaseId, offer.expiresAtUnixMs⟩
          else peers.lookup ip := by
  unfold applyOffer
  split
  · rename_i hk
    exact .inl ⟨rfl, fun h => hk h.1.1⟩
  rename_i hk
  split
  · rename_i he
    refine .inl ⟨rfl, fun h => ?_⟩
    rw [h.2.2.1.1] at he
    cases he
  split
  · rename_i ht
    refine .inl ⟨rfl, ?_⟩
    rintro ⟨⟨-, hv⟩, h0, ⟨-, hlt, hle⟩, -⟩
    rcases ht with h | h | h | h
    · exact h0 h
    · omega
    · omega
    · rw [hv] at h; cases h
  rename_i ht
  split
  · rename_i hf
    refine .inl ⟨rfl, fun h => ?_⟩
    rw [Option.isNone_iff_eq_none.mp hf.2] at h
    cases h.2.2.2
  -- The offer is accepted; the three ways to set the entry agree.
  simp only [not_or, Bool.not_eq_false] at ht
  refine .inr ⟨⟨not_not.mp hk, ht.2.2.2⟩, fun ip => ?_⟩
  split
  · rw [HashMap.lookup_insert_if]
  · split
    · rename_i old _ hp
      rw [HashMap.lookup_insert_if, hp]
    · rw [HashMap.lookup_insert_if, HashMap.lookup_erase_if]
      split <;> rfl

variable {addr peers nowMs}

/-- Every entry after a message was there before or is the one of an offer. -/
theorem mem_applyControl {control : WireGuardP2pControl} {ip : Ipv4Addr} {peer : ActivePeer}
    (h : (applyControl addr peers control nowMs).lookup ip = some peer) :
    peers.lookup ip = some peer ∨
      ∃ offer, control = .offer offer ∧ peer.leaseId = offer.leaseId := by
  cases control with
  | missing => exact .inl h
  | revoke leaseId =>
    simp only [applyControl, HashMap.lookup_eraseOpt] at h
    split at h
    · cases h
    · exact .inl h
  | offer offer =>
    simp only [applyControl] at h
    rcases applyOffer_cases addr peers offer nowMs with ⟨he, -⟩ | ⟨-, he⟩
    · rw [he] at h
      exact .inl h
    · rw [he] at h
      split at h
      · cases h
        exact .inr ⟨offer, rfl, rfl⟩
      · exact .inl h

end

/-! ## Frames as bytes -/

/-- What the client does with bytes before it reads them. -/
structure ControlReader where
  decompress : NetPacket → Option NetPacket
  decompress_plain : ∀ p, p.isCompressed = false → decompress p = some p
  decode : Bytes → Option WireGuardP2pControl

/-- The message for the runtime in a frame of the server. -/
def P2pClient.readControl (reader : ControlReader) (c : P2pClient) (data : Bytes) :
    Option WireGuardP2pControl := do
  let packet ← NetPacket.new data
  let kind ← msgType packet
  let plain ← reader.decompress packet
  if kind ≠ .shared .wireGuardP2pControl then none
  else if c.allowWireGuard = false ∨ plain.isGateway = false ∨ plain.ttl = 0 ∨
      packet.srcId ≠ c.networkAddr.gateway ∨ plain.destId ≠ c.networkAddr.ip then none
  else if c.wireguardP2p then reader.decode plain.payload
  else none

/-- A client reads the message of a frame from its bytes, if the frame is for it. -/
theorem P2pClient.readControl_bytes (reader : ControlReader) (c : P2pClient)
    {encode : WireGuardP2pControl → Bytes} (frame : ControlFrame)
    (hcodec : reader.decode (encode frame.control) = some frame.control) :
    c.readControl reader (frame.bytes encode) = c.message frame := by
  obtain ⟨p, hp, hm⟩ := frame.new_bytes encode
  have hb := NetPacket.buffer_of_new hp
  have hm' : msgType p = some (.shared .wireGuardP2pControl) := MsgType.ofByte_eq_shared.mpr hm
  have h2 : p.buffer.byteAt 2 = 64 := by rw [hb]; rfl
  have hplain : reader.decompress p = some p :=
    reader.decompress_plain p (by rw [NetPacket.isCompressed, h2]; decide)
  have hg : p.isGateway = true := by rw [NetPacket.isGateway, h2]; decide
  have ht : p.ttl = 1 := by
    have h1 : p.buffer.byteAt 1 = 17 := by rw [hb]; rfl
    rw [NetPacket.ttl, h1]; rfl
  have hsrc : p.srcId = frame.gateway := by
    rw [NetPacket.srcId, hb]
    exact Bytes.readU32_ofU32 _ _ _
  have hdest : p.destId = frame.targetIp := by
    rw [NetPacket.destId, hb, ControlFrame.bytes, p2pControlFrame, ← List.append_assoc]
    exact Bytes.readU32_ofU32 _ _ _
  have hpay : p.payload = encode frame.control := by rw [NetPacket.payload, hb]; rfl
  simp only [readControl, hp, hm', hplain, Option.bind_eq_bind, Option.bind_some, hg, ht, hsrc,
    hdest, hpay, hcodec, message, takes]
  by_cases hga : frame.gateway = c.networkAddr.gateway
  · by_cases hip : frame.targetIp = c.networkAddr.ip
    · by_cases ha : c.allowWireGuard = true
      · simp [hga, hip, ha]
      · simp [ha]
    · simp [hip]
  · simp [hga]

/-- The frame that a request sends goes to the queue of its target. The client there reads the offer
from its bytes if it takes such frames, and another client reads nothing. -/
theorem P2pClient.readControl_offer (reader : ControlReader) (c : P2pClient)
    (encode : WireGuardP2pControl → Bytes) (decode : Bytes → Option (Ipv4Addr × BitVec 64))
    (st : NetworkState) (env : AgentEnv) (peerIp : Ipv4Addr) (publicKey : Bytes)
    (source : SocketAddr) (request : AgentControlRequest)
    (hcodec : reader.decode (encode (.offer (env.offer peerIp publicKey source))) =
      some (.offer (env.offer peerIp publicKey source))) :
    ∀ d ∈ st.resolveAgentRequest
        ⟨decode, false, (st.wireguardP2pEndpoint env.registered request.targetIp).isSome,
          encode (.offer (env.offer peerIp publicKey source))⟩ peerIp request,
      st.controlSender request.targetIp = some d.sender ∧ c.readControl reader d.data =
        if c.takes st.gateway request.targetIp then
          some (.offer (env.offer peerIp publicKey source))
        else none := by
  intro d hd
  rw [NetworkState.resolveAgentRequest_eq, Option.mem_toList, Option.map_eq_some_iff] at hd
  obtain ⟨control, hsent, rfl⟩ := hd
  rcases (NetworkState.resolution st env peerIp publicKey source request).sent with
    ⟨hn, -⟩ | ⟨d, hsend, hs, -⟩
  · rw [hn] at hsent
    cases hsent
  · rw [hs] at hsent
    cases hsent
    obtain ⟨hsender, hframe⟩ := NetworkState.sendControl_eq_some.mp hsend
    refine ⟨hsender, (c.readControl_bytes reader control.frame ?_).trans ?_⟩
    · rw [hframe]
      exact hcodec
    · rw [message, hframe]

def laptop : P2pClient :=
  ⟨true, true, .ofReg RuntimeState.phoneHome.state.net RuntimeState.phoneHome.state.gateway
    (homeIp 2), [], ∅⟩

/-- The phone asks for the laptop. -/
def laptopEnv : AgentEnv where
  toEgressEnv := RuntimeState.plainTunnel
  registered := some ⟨List.replicate 32 3, .v4 0 1, rfl⟩
  leaseId := 7
  leaseId_ne h := nomatch h
  nowMs := 1000

def laptopOffer : WireGuardP2pOffer :=
  laptopEnv.offer RevokeState.phoneIp (List.replicate 32 2) (.v4 (Ipv4Addr.new 198 51 100 7) 40000)

/-- The offer as the first field of a protobuf message: lease id, expiry, address, key and the text
of the endpoint. -/
def laptopOfferBytes : Bytes :=
  [0x0a, 65, 0x08, 7, 0x10, 0xc8, 0xdc, 0x03, 0x1d, 7, 0, 26, 10, 0x22, 32] ++
    (List.replicate 32 2 ++ 0x2a :: 18 ::
      [49, 57, 56, 46, 53, 49, 46, 49, 48, 48, 46, 55, 58, 52, 48, 48, 48, 48])

def laptopEncode (control : WireGuardP2pControl) : Bytes :=
  if control = .offer laptopOffer then laptopOfferBytes else []

def laptopReader : ControlReader where
  decompress := some
  decompress_plain _ _ := rfl
  decode data := if data = laptopOfferBytes then some (.offer laptopOffer) else none

theorem P2pClient.readControl_offer_laptop :
    ∃ d ∈ RuntimeState.phoneHome.state.resolveAgentRequest
        ⟨fun _ => none, false, true, laptopOfferBytes⟩ RevokeState.phoneIp
        ⟨51821, laptop.networkAddr.ip, 1⟩,
      laptop.readControl laptopReader d.data = some (.offer laptopOffer) := by
  have hd : ⟨laptop.networkAddr.ip, .vnt 2, p2pControlFrame laptop.networkAddr.gateway
      laptop.networkAddr.ip laptopOfferBytes⟩ ∈ RuntimeState.phoneHome.state.resolveAgentRequest
      ⟨fun _ => none, false, true, laptopOfferBytes⟩ RevokeState.phoneIp
      ⟨51821, laptop.networkAddr.ip, 1⟩ := by
    decide
  have hcodec : laptopReader.decode (laptopEncode (.offer laptopOffer)) =
      some (.offer laptopOffer) := by decide
  exact ⟨_, hd, (readControl_offer laptopReader laptop laptopEncode _ _ laptopEnv _ _ _ _ hcodec _
    hd).2.trans (if_pos (by decide))⟩

end Client

end Vntc
