import Vntc.Server.WireGuard.Egress

/-!
# Offers of direct tunnels

A WireGuard peer can ask the server for a tunnel to a VNT client (`server/wireguard_p2p.rs` and
`handle_agent_control` of `server/wireguard_runtime.rs`). The server sends the client an offer with
a new lease id, answers the peer and keeps the lease id in the peer's session; when the session ends
it revokes the leases that it kept.

The messages are those that `prost` encodes. A control frame is a message between two addresses;
`deliveries_sendControl` says that its bytes go where `try_deliver` sends them, for any encoding.
-/

namespace Vntc

open Lib

/-! ## Messages -/

/-- The endpoint is a text in the message. -/
structure WireGuardP2pOffer where
  leaseId : BitVec 64
  expiresAtUnixMs : Nat
  peerIp : Ipv4Addr
  peerPublicKey : Bytes
  peerEndpoint : SocketAddr
  deriving DecidableEq

/-- The payload of a message can be missing. -/
inductive WireGuardP2pControl
  | offer (offer : WireGuardP2pOffer)
  | revoke (leaseId : BitVec 64)
  | missing
  deriving DecidableEq

inductive WireGuardP2pStatus
  | ok
  | notFound
  | notCapable
  | rejected
  | busy
  deriving DecidableEq

structure WireGuardP2pAgentResponse where
  requestId : BitVec 64
  status : WireGuardP2pStatus
  targetIp : Ipv4Addr
  targetPublicKey : Bytes
  targetEndpoint : Option SocketAddr
  leaseId : BitVec 64
  expiresAtUnixMs : Nat
  deriving DecidableEq

/-- The encoding of answers. An id makes it longer than nothing, and a key of at most 32 bytes
leaves it far below the limit. -/
structure ResponseCodec where
  encode : WireGuardP2pAgentResponse → Bytes
  length_encode : ∀ r, r.requestId ≠ 0 → r.targetPublicKey.length ≤ 32 →
    0 < (encode r).length ∧ (encode r).length ≤ maxControlPayload

/-- A control frame with its message. -/
structure ControlFrame where
  gateway : Ipv4Addr
  targetIp : Ipv4Addr
  control : WireGuardP2pControl
  deriving DecidableEq

def ControlFrame.bytes (encode : WireGuardP2pControl → Bytes) (frame : ControlFrame) : Bytes :=
  p2pControlFrame frame.gateway frame.targetIp (encode frame.control)

/-- A control frame for a queue. -/
structure ControlDelivery where
  sender : NetworkSender
  frame : ControlFrame
  deriving DecidableEq

def ControlDelivery.delivery (encode : WireGuardP2pControl → Bytes) (d : ControlDelivery) :
    Delivery :=
  ⟨d.frame.targetIp, d.sender, d.frame.bytes encode⟩

theorem ControlFrame.new_bytes (encode : WireGuardP2pControl → Bytes) (frame : ControlFrame) :
    ∃ p, NetPacket.new (frame.bytes encode) = some p ∧ p.msgType = some .wireGuardP2pControl := by
  have hl : headLength ≤ (frame.bytes encode).length := by
    simp only [bytes, p2pControlFrame, Bytes.ofU32, List.length_append, List.length_cons,
      List.length_nil, headLength]
    omega
  have hp : NetPacket.new (frame.bytes encode) = some ⟨_, hl⟩ := dif_pos hl
  exact ⟨_, hp, p2pControlFrame_msgType hp⟩

/-! ## Requests -/

/-- What a client registers for tunnels. -/
structure WireGuardP2pEndpoint where
  publicKey : Bytes
  endpoint : SocketAddr
  length_publicKey : publicKey.length = 32

structure GrantedLease where
  targetIp : Ipv4Addr
  leaseId : BitVec 64
  deriving DecidableEq

/-- The answer to a request, with the frame for the target. -/
structure ResolvedAgentRequest where
  response : WireGuardP2pAgentResponse
  granted : Option GrantedLease
  sent : Option ControlDelivery

/-- What a request gets from elsewhere. -/
structure AgentEnv extends EgressEnv where
  /-- What the target registered. -/
  registered : Option WireGuardP2pEndpoint
  /-- A random number; zeros are drawn again. -/
  leaseId : BitVec 64
  leaseId_ne : leaseId ≠ 0
  nowMs : Nat

def leaseDurationMs : Nat := 60000

def maxU64 : Nat := 18446744073709551615

def AgentEnv.expiresAtUnixMs (env : AgentEnv) : Nat := min (env.nowMs + leaseDurationMs) maxU64

def AgentEnv.offer (env : AgentEnv) (peerIp : Ipv4Addr) (peerPublicKey : Bytes)
    (peerEndpoint : SocketAddr) : WireGuardP2pOffer :=
  ⟨env.leaseId, env.expiresAtUnixMs, peerIp, peerPublicKey, peerEndpoint⟩

namespace NetworkState

variable (st : NetworkState)

def wireguardP2pEndpoint (registered : Option WireGuardP2pEndpoint) (ip : Ipv4Addr) :
    Option WireGuardP2pEndpoint :=
  match st.onlineEndpoints.lookup ip with
  | some (.vnt _ true _ true) => registered
  | _ => none

/-- The queue that takes control frames for an address. -/
def controlSender (targetIp : Ipv4Addr) : Option NetworkSender :=
  match st.onlineEndpoints.lookup targetIp with
  | some (.vnt ..) => st.senderMap.lookup targetIp
  | _ => none

/-- A control message for an address. No queue is full or closed. -/
def sendControl (targetIp : Ipv4Addr) (control : WireGuardP2pControl) : Option ControlDelivery :=
  (st.controlSender targetIp).map fun sender => ⟨sender, ⟨st.gateway, targetIp, control⟩⟩

/-- `resolve_agent_request` with its answer; the deliveries alone are `resolveAgentRequest`. -/
def resolvedAgentRequest (env : AgentEnv) (peerIp : Ipv4Addr) (peerPublicKey : Bytes)
    (peerEndpoint : SocketAddr) (request : AgentControlRequest) : ResolvedAgentRequest :=
  let response : WireGuardP2pAgentResponse :=
    ⟨request.requestId, .notFound, request.targetIp, [], none, 0, 0⟩
  if request.targetIp = peerIp ∨ request.targetIp = st.gateway ∨
      ¬ st.net.contains request.targetIp = true then
    ⟨{ response with status := .rejected }, none, none⟩
  else
    match st.wireguardP2pEndpoint env.registered request.targetIp with
    | none => ⟨{ response with status := .notCapable }, none, none⟩
    | some target =>
      match st.sendControl request.targetIp
          (.offer (env.offer peerIp peerPublicKey peerEndpoint)) with
      | none => ⟨{ response with status := .busy }, none, none⟩
      | some d =>
        ⟨{ response with
            status := .ok
            targetPublicKey := target.publicKey
            targetEndpoint := some target.endpoint
            leaseId := env.leaseId
            expiresAtUnixMs := env.expiresAtUnixMs },
          some ⟨request.targetIp, env.leaseId⟩, some d⟩

end NetworkState

/-- The answer as a UDP packet from the gateway. -/
def buildAgentResponse (gateway destination : Ipv4Addr) (destinationPort : Nat) (payload : Bytes) :
    Option Bytes :=
  if destinationPort = 0 ∨ payload = [] ∨ maxControlPayload < payload.length then none
  else
    let addresses := Bytes.ofU32 gateway ++ Bytes.ofU32 destination
    let ipv4 : Bytes :=
      [0x45, 0, 0, 0, 0, 0, 0, 0, 64, UInt8.ofNat Ipv4Packet.udp, 0, 0] ++ addresses
    let ipv4 := ipv4.writeU16 2 (20 + 8 + payload.length)
    let udp : Bytes := [0, 0, 0, 0, 0, 0, 0, 0] ++ payload
    let udp := ((udp.writeU16 0 agentControlPort).writeU16 2 destinationPort).writeU16 4
      (8 + payload.length)
    -- The checksum covers the addresses, the protocol and the length as well.
    let pseudo : Bytes := Bytes.writeU16 (addresses ++ [0, UInt8.ofNat Ipv4Packet.udp, 0, 0]) 10
      (8 + payload.length)
    some (ipv4.writeU16 10 (Ipv4Packet.headerChecksum ipv4) ++
      udp.writeU16 6 (Bytes.checksum (pseudo ++ udp) 9))

/-- What a request leaves of the session, and the frame for the target. -/
def RuntimePeer.handleAgentControl (codec : ResponseCodec) (st : NetworkState) (key : PeerKey)
    (peer : RuntimePeer) (env : AgentEnv) (request : AgentControlRequest) (source : SocketAddr) :
    PeerTraffic × Option ControlDelivery :=
  let resolution := st.resolvedAgentRequest env peer.reservedIp peer.publicKey source request
  match buildAgentResponse st.gateway peer.reservedIp request.sourcePort
      (codec.encode resolution.response) with
  | none => (peer.traffic, resolution.sent)
  | some inner =>
    let traffic :=
      match resolution.granted with
      | none => peer.traffic
      | some granted =>
        { peer.traffic with
          p2pLeases := peer.traffic.p2pLeases.insert granted.targetIp granted.leaseId }
    match traffic.endpoint with
    | none => (traffic.drop, resolution.sent)
    | some _ => (env.encapsulated key traffic inner, resolution.sent)

/-- The revocations when the session ends. -/
def RuntimePeer.revokeLeases (st : NetworkState) (peer : RuntimePeer) : List ControlDelivery :=
  peer.traffic.p2pLeases.entries.filterMap fun e => st.sendControl e.1 (.revoke e.2)

/-! ## What a request does -/

namespace NetworkState

variable {st : NetworkState}

theorem sendControl_eq_some {targetIp : Ipv4Addr} {control : WireGuardP2pControl}
    {d : ControlDelivery} :
    st.sendControl targetIp control = some d ↔
      st.controlSender targetIp = some d.sender ∧ d.frame = ⟨st.gateway, targetIp, control⟩ := by
  simp only [sendControl, Option.map_eq_some_iff]
  constructor
  · rintro ⟨sender, hs, rfl⟩
    exact ⟨hs, rfl⟩
  · rintro ⟨hs, hf⟩
    exact ⟨d.sender, hs, by rw [← hf]⟩

/-- The frame goes where `try_deliver` sends its bytes. -/
theorem deliveries_sendControl (encode : WireGuardP2pControl → Bytes) (targetIp : Ipv4Addr)
    (control : WireGuardP2pControl) :
    (st.tryDeliver targetIp (p2pControlFrame st.gateway targetIp (encode control))
      .wireGuard).deliveries =
      ((st.sendControl targetIp control).map (·.delivery encode)).toList := by
  obtain ⟨p, hp, hm⟩ := ControlFrame.new_bytes encode ⟨st.gateway, targetIp, control⟩
  have hm' : (NetPacket.new (p2pControlFrame st.gateway targetIp (encode control))).bind
      NetPacket.msgType = some .wireGuardP2pControl := Option.bind_eq_some_iff.mpr ⟨p, hp, hm⟩
  unfold tryDeliver sendControl controlSender
  cases st.onlineEndpoints.lookup targetIp with
  | none => rfl
  | some endpoint =>
    simp only [hm']
    cases endpoint with
    | wireGuard => rfl
    | vnt =>
      cases st.senderMap.lookup targetIp with
      | none => rfl
      | some sender => rfl

variable {env : AgentEnv} {peerIp : Ipv4Addr} {peerPublicKey : Bytes} {peerEndpoint : SocketAddr}
  {request : AgentControlRequest}

/-- What an answer can be. -/
structure Resolution (st : NetworkState) (env : AgentEnv) (request : AgentControlRequest)
    (offer : WireGuardP2pOffer) (r : ResolvedAgentRequest) : Prop where
  requestId : r.response.requestId = request.requestId
  length_publicKey : r.response.targetPublicKey.length ≤ 32
  sent : r.sent = none ∧ r.granted = none ∨
    ∃ d, st.sendControl request.targetIp (.offer offer) = some d ∧ r.sent = some d ∧
      r.granted = some ⟨request.targetIp, env.leaseId⟩

theorem resolution (st : NetworkState) (env : AgentEnv) (peerIp : Ipv4Addr) (peerPublicKey : Bytes)
    (peerEndpoint : SocketAddr) (request : AgentControlRequest) :
    Resolution st env request (env.offer peerIp peerPublicKey peerEndpoint)
      (st.resolvedAgentRequest env peerIp peerPublicKey peerEndpoint request) := by
  unfold resolvedAgentRequest
  split
  · exact ⟨rfl, Nat.zero_le _, .inl ⟨rfl, rfl⟩⟩
  split
  · exact ⟨rfl, Nat.zero_le _, .inl ⟨rfl, rfl⟩⟩
  · rename_i target _
    split
    · exact ⟨rfl, Nat.zero_le _, .inl ⟨rfl, rfl⟩⟩
    · rename_i d hd
      exact ⟨rfl, target.length_publicKey.le, .inr ⟨d, hd, rfl, rfl⟩⟩

/-- The frame of the answer is what `resolveAgentRequest` delivers. -/
theorem resolveAgentRequest_eq (encode : WireGuardP2pControl → Bytes)
    (decode : Bytes → Option (Ipv4Addr × BitVec 64)) :
    st.resolveAgentRequest
        ⟨decode, false, (st.wireguardP2pEndpoint env.registered request.targetIp).isSome,
          encode (.offer (env.offer peerIp peerPublicKey peerEndpoint))⟩ peerIp request =
      ((st.resolvedAgentRequest env peerIp peerPublicKey peerEndpoint request).sent.map
        (·.delivery encode)).toList := by
  unfold resolveAgentRequest resolvedAgentRequest
  by_cases hr : request.targetIp = peerIp ∨ request.targetIp = st.gateway ∨
      ¬ st.net.contains request.targetIp = true
  · rw [if_pos hr, if_pos (by rcases hr with h | h | h <;> simp [h])]
    rfl
  · rw [if_neg hr]
    cases ht : st.wireguardP2pEndpoint env.registered request.targetIp with
    | none => rw [if_pos (by simp)]; rfl
    | some target =>
      rw [if_neg (by simpa [not_or] using hr)]
      simp only [deliveries_sendControl encode]
      cases st.sendControl request.targetIp
          (.offer (env.offer peerIp peerPublicKey peerEndpoint)) with
      | none => rfl
      | some d => rfl

end NetworkState

theorem p2pLeases_encapsulated {env : EgressEnv} {key : PeerKey} {traffic : PeerTraffic}
    {inner : Bytes} : (env.encapsulated key traffic inner).p2pLeases = traffic.p2pLeases := by
  unfold EgressEnv.encapsulated
  split
  · split <;> rfl
  · rfl
  · rfl

namespace RuntimePeer

variable {codec : ResponseCodec} {st : NetworkState} {key : PeerKey} {peer : RuntimePeer}
  {env : AgentEnv} {request : AgentControlRequest} {source : SocketAddr}

/-- A request without an offer keeps no lease. An offer's lease is kept, unless the request came
from the port 0: then there is no answer, and the handler returns before it keeps the lease. -/
theorem handleAgentControl_cases (hid : request.requestId ≠ 0) {traffic : PeerTraffic}
    {sent : Option ControlDelivery}
    (h : peer.handleAgentControl codec st key env request source = (traffic, sent)) :
    sent = none ∧ traffic.p2pLeases = peer.traffic.p2pLeases ∨ ∃ d, sent = some d ∧
        st.sendControl request.targetIp
          (.offer (env.offer peer.reservedIp peer.publicKey source)) = some d ∧ traffic.p2pLeases =
          if request.sourcePort = 0 then peer.traffic.p2pLeases
          else peer.traffic.p2pLeases.insert request.targetIp env.leaseId := by
  obtain ⟨hr, hk, hs⟩ := st.resolution env peer.reservedIp peer.publicKey source request
  unfold handleAgentControl at h
  generalize st.resolvedAgentRequest env peer.reservedIp peer.publicKey source request = r
    at h hr hk hs
  obtain ⟨hpos, hle⟩ := codec.length_encode r.response (hr.trans_ne hid) hk
  -- The encoding has a length for an answer, so only the port decides.
  have hbuild : buildAgentResponse st.gateway peer.reservedIp request.sourcePort
      (codec.encode r.response) = none ↔ request.sourcePort = 0 := by
    unfold buildAgentResponse
    simp only [List.ne_nil_of_length_pos hpos, hle.not_gt, or_false]
    split
    · rename_i h0
      exact ⟨fun _ => h0, fun _ => rfl⟩
    · rename_i h0
      exact ⟨fun h => (by cases h), fun h => absurd h h0⟩
  simp only at h
  split at h
  · rename_i hb
    cases h
    rw [if_pos (hbuild.mp hb)]
    rcases hs with ⟨hs, -⟩ | ⟨d, hd, hs, -⟩
    · exact .inl ⟨hs, rfl⟩
    · exact .inr ⟨d, hs, hd, rfl⟩
  · rename_i inner hb
    have h0 : request.sourcePort ≠ 0 := fun h0 => by rw [hbuild.mpr h0] at hb; cases hb
    rw [if_neg h0]
    rcases hs with ⟨hs, hg⟩ | ⟨d, hd, hs, hg⟩
    · refine .inl ?_
      simp only [hg] at h
      split at h
      · cases h; exact ⟨hs, rfl⟩
      · cases h; exact ⟨hs, p2pLeases_encapsulated⟩
    · refine .inr ⟨d, ?_⟩
      simp only [hg] at h
      split at h
      · cases h; exact ⟨hs, hd, rfl⟩
      · cases h; exact ⟨hs, hd, p2pLeases_encapsulated⟩

theorem mem_revokeLeases {d : ControlDelivery} :
    d ∈ peer.revokeLeases st ↔
      ∃ targetIp leaseId, peer.traffic.p2pLeases.lookup targetIp = some leaseId ∧
        st.sendControl targetIp (.revoke leaseId) = some d := by
  unfold revokeLeases
  rw [List.mem_filterMap]
  constructor
  · rintro ⟨⟨targetIp, leaseId⟩, hm, hd⟩
    exact ⟨targetIp, leaseId, HashMap.mem_entries.mp hm, hd⟩
  · rintro ⟨targetIp, leaseId, hl, hd⟩
    exact ⟨⟨targetIp, leaseId⟩, HashMap.mem_entries.mpr hl, hd⟩

end RuntimePeer

/-! ## The runtime -/

namespace RuntimeState

end RuntimeState

end Vntc
