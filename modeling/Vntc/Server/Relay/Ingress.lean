import Mathlib.Data.List.Induction
import Vntc.Server.Relay.Deliver

/-!
# Packets of WireGuard peers

What the server does with an IPv4 packet out of a peer's tunnel: `process_peer_packet` of
`server/wireguard_runtime.rs`, and the control messages of peers and their answers from
`server/wireguard_p2p.rs`.
-/

namespace Vntc

open Lib

/-! ## Control messages -/

def agentControlPort : Nat := 51821

def maxControlPayload : Nat := 1024

structure AgentControlRequest where
  sourcePort : Nat
  targetIp : Ipv4Addr
  requestId : BitVec 64
  deriving DecidableEq

inductive AgentControlParse
  | notControl
  | invalid
  | request (r : AgentControlRequest)
  deriving DecidableEq

/-- `decode` reads the target and the id of a `WireGuardP2pAgentRequest`. -/
def parseAgentControl (decode : Bytes → Option (Ipv4Addr × BitVec 64)) (packet : Bytes)
    (expectedSource gateway : Ipv4Addr) : AgentControlParse :=
  if packet.length < Ipv4Packet.minimumPacketSize ∨ Ipv4Packet.version packet ≠ 4 ∨
      Ipv4Packet.source packet ≠ expectedSource ∨ Ipv4Packet.destination packet ≠ gateway ∨
      Ipv4Packet.nextLevelProtocol packet ≠ Ipv4Packet.udp then .notControl
  else
    let headerLen := Ipv4Packet.headerLength packet
    if headerLen < 20 ∨ Ipv4Packet.totalLength packet ≠ packet.length ∨
        packet.length < headerLen + 8 ∨ packet.readU16 6 % 2 ^ 14 ≠ 0 then .invalid
    else
      let udp : Bytes := packet.drop headerLen
      if udp.readU16 2 ≠ agentControlPort then .notControl
      else if udp.readU16 4 ≠ udp.length ∨ udp.length = 8 ∨ 8 + maxControlPayload < udp.length then
        .invalid
      else match decode (udp.drop 8) with
        | none => .invalid
        | some (targetIp, requestId) =>
          if requestId = 0 ∨ targetIp.isUnspecified = true ∨ targetIp.isMulticast = true then
            .invalid
          else .request ⟨udp.readU16 0, targetIp, requestId⟩

/-- A control message of the server to a client: `WireGuardP2pControl` with the gateway flag and
one hop. -/
def p2pControlFrame (gateway targetIp : Ipv4Addr) (payload : Bytes) : Bytes :=
  [NetPacket.typeByte .wireGuardP2pControl, 0x11, 0x40, 0, 0, 0, 0, 0] ++
    (Bytes.ofU32 gateway ++ (Bytes.ofU32 targetIp ++ payload))

theorem p2pControlFrame_msgType {gateway targetIp : Ipv4Addr} {payload : Bytes} {p : NetPacket}
    (h : NetPacket.new (p2pControlFrame gateway targetIp payload) = some p) :
    p.msgType = some .wireGuardP2pControl :=
  NetPacket.msgType_of_typeByte (NetPacket.buffer_of_new h)

/-! ## The packet -/

structure WireGuardPeerRouteRecord where
  lanNetwork : Ipv4Net
  vntCliIp : Ipv4Addr
  deriving DecidableEq

/-- A peer with a tunnel. -/
structure ActivePeer where
  reservedIp : Ipv4Addr
  routes : List WireGuardPeerRouteRecord
  deriving DecidableEq

/-- The last of the longest prefixes counts, as for `max_by_key`. -/
def longestPrefixRoute (routes : List WireGuardPeerRouteRecord) (destination : Ipv4Addr) :
    Option WireGuardPeerRouteRecord :=
  (routes.filter (·.lanNetwork.contains destination)).foldl (fun best route =>
    match best with
    | none => some route
    | some b => if b.lanNetwork.prefixLen ≤ route.lanNetwork.prefixLen then some route else some b)
    none

section
variable {routes : List WireGuardPeerRouteRecord} {destination : Ipv4Addr}
  {r : WireGuardPeerRouteRecord}

/-- What the fold over the matching routes gives. -/
theorem longestPrefixRoute_cases (routes : List WireGuardPeerRouteRecord) (destination : Ipv4Addr) :
    longestPrefixRoute routes destination = none ∧
        routes.filter (·.lanNetwork.contains destination) = [] ∨
      ∃ r, longestPrefixRoute routes destination = some r ∧
        r ∈ routes.filter (·.lanNetwork.contains destination) ∧
        ∀ r' ∈ routes.filter (·.lanNetwork.contains destination),
          r'.lanNetwork.prefixLen ≤ r.lanNetwork.prefixLen := by
  unfold longestPrefixRoute
  generalize routes.filter (·.lanNetwork.contains destination) = l
  -- The fold goes on at the end of the list, so the induction does.
  induction l using List.reverseRecOn with
  | nil => exact .inl ⟨rfl, rfl⟩
  | append_singleton l route ih =>
    refine .inr ?_
    rw [List.foldl_append, List.foldl_cons, List.foldl_nil]
    rcases ih with ⟨hnone, rfl⟩ | ⟨b, hb, hmem, hmax⟩
    · exact ⟨route, rfl, List.mem_singleton_self route, fun r' hr' => by
        rw [List.mem_singleton.mp hr']⟩
    · rw [hb]
      by_cases hle : b.lanNetwork.prefixLen ≤ route.lanNetwork.prefixLen
      · refine ⟨route, if_pos hle, List.mem_append_right l (List.mem_singleton_self route), ?_⟩
        intro r' hr'
        rcases List.mem_append.mp hr' with hr' | hr'
        · exact (hmax r' hr').trans hle
        · rw [List.mem_singleton.mp hr']
      · refine ⟨b, if_neg hle, List.mem_append_left _ hmem, ?_⟩
        intro r' hr'
        rcases List.mem_append.mp hr' with hr' | hr'
        · exact hmax r' hr'
        · rw [List.mem_singleton.mp hr']
          exact (Nat.lt_of_not_le hle).le

/-- A route to an address that no route with a longer prefix leads to. -/
structure LongestMatch (routes : List WireGuardPeerRouteRecord) (destination : Ipv4Addr)
    (r : WireGuardPeerRouteRecord) : Prop where
  mem : r ∈ routes
  contains : r.lanNetwork.contains destination = true
  longest : ∀ r' ∈ routes, r'.lanNetwork.contains destination = true →
    r'.lanNetwork.prefixLen ≤ r.lanNetwork.prefixLen

theorem longestMatch_of_some (h : longestPrefixRoute routes destination = some r) :
    LongestMatch routes destination r := by
  rcases longestPrefixRoute_cases routes destination with ⟨hnone, -⟩ | ⟨b, hb, hmem, hmax⟩
  · rw [hnone] at h
    cases h
  · cases hb.symm.trans h
    obtain ⟨hm, hc⟩ := List.mem_filter.mp hmem
    exact ⟨hm, hc, fun r' hr' hc' => hmax r' (List.mem_filter.mpr ⟨hr', hc'⟩)⟩

theorem longestPrefixRoute_eq_none :
    longestPrefixRoute routes destination = none ↔
      ∀ r ∈ routes, ¬ r.lanNetwork.contains destination = true := by
  constructor
  · intro h
    rcases longestPrefixRoute_cases routes destination with ⟨-, hnil⟩ | ⟨b, hb, -⟩
    · exact List.filter_eq_nil_iff.mp hnil
    · rw [h] at hb
      cases hb
  · intro h
    unfold longestPrefixRoute
    rw [List.filter_eq_nil_iff.mpr h, List.foldl_nil]

end

/-- What a packet is for. -/
inductive Ingress
  | rejected
  | control (request : AgentControlRequest)
  /-- The answer goes back through the tunnel. -/
  | reply (packet : Bytes)
  | unicast (destination : Ipv4Addr) (data : Bytes)
  | broadcast (source : Ipv4Addr) (inner : Bytes)
  | subnet (vntGateway : Ipv4Addr) (data : Bytes)

/-- What `process_peer_packet` gets from elsewhere. -/
structure PeerEnv where
  /-- `WireGuardP2pAgentRequest::decode`. -/
  decode : Bytes → Option (Ipv4Addr × BitVec 64)
  /-- The last request of the peer is less than an interval ago. -/
  limited : Bool
  /-- The target of a request registered an endpoint for tunnels. -/
  capable : Bool
  /-- The encoded offer to the target. -/
  offer : Bytes

namespace NetworkState

variable (st : NetworkState)

/-- `sourceIp` is the source that the tunnel reports. -/
def ingress (env : PeerEnv) (peer : ActivePeer) (inner : Bytes) (sourceIp : Ipv4Addr) : Ingress :=
  if sourceIp ≠ peer.reservedIp then .rejected
  else match parseAgentControl env.decode inner peer.reservedIp st.gateway with
    | .request r => if env.limited then .rejected else .control r
    | .invalid => .rejected
    | .notControl =>
      match buildGatewayEchoReply inner peer.reservedIp st.gateway with
      | .error _ => .rejected
      | .ok (some reply) => .reply reply
      | .ok none =>
        match validateBroadcastInnerIpv4 inner peer.reservedIp st.net st.gateway with
        | .ok route => .broadcast route.source inner
        | .error _ =>
          match validateInnerIpv4 inner peer.reservedIp st.net st.gateway with
          | .ok route => .unicast route.destination (buildWireguardRelay inner route)
          | .error _ =>
            match longestPrefixRoute peer.routes (Ipv4Packet.destination inner) with
            | none => .rejected
            | some r =>
              match validateSubnetInnerIpv4 inner peer.reservedIp st.net st.gateway r.lanNetwork with
              | .error _ => .rejected
              | .ok route =>
                .subnet r.vntCliIp (buildWireguardSubnetRelay inner route r.vntCliIp)

/-- The offer of a tunnel to the client that a peer asks for. -/
def resolveAgentRequest (env : PeerEnv) (peerIp : Ipv4Addr) (request : AgentControlRequest) :
    List Delivery :=
  if request.targetIp = peerIp ∨ request.targetIp = st.gateway ∨
      ¬ st.net.contains request.targetIp = true ∨ ¬ env.capable = true then []
  else
    (st.tryDeliver request.targetIp (p2pControlFrame st.gateway request.targetIp env.offer)
      .wireGuard).deliveries

def revokeLease (targetIp : Ipv4Addr) (control : Bytes) : List Delivery :=
  (st.tryDeliver targetIp (p2pControlFrame st.gateway targetIp control) .wireGuard).deliveries

def processPeerPacket (env : PeerEnv) (peer : ActivePeer) (inner : Bytes) (sourceIp : Ipv4Addr) :
    List Delivery :=
  match st.ingress env peer inner sourceIp with
  | .rejected | .reply _ => []
  | .control request => st.resolveAgentRequest env peer.reservedIp request
  | .unicast destination data => st.routeWireguardRelay destination data .wireGuard
  | .broadcast source inner => st.routeWireguardBroadcast source inner .wireGuard
  | .subnet vntGateway data => st.routeWireguardRelay vntGateway data .wireGuard

end NetworkState

/-- What was checked of a packet, by what it is for. -/
inductive IngressChecked (st : NetworkState) (peer : ActivePeer) (inner : Bytes) : Ingress → Prop
  | rejected : IngressChecked st peer inner .rejected
  | control (request : AgentControlRequest) : IngressChecked st peer inner (.control request)
  | reply (packet : Bytes) : IngressChecked st peer inner (.reply packet)
  | unicast {route : Ipv4Route}
      (hv : validateInnerIpv4 inner peer.reservedIp st.net st.gateway = .ok route) :
      IngressChecked st peer inner (.unicast route.destination (buildWireguardRelay inner route))
  | broadcast {route : Ipv4Route}
      (hv : validateBroadcastInnerIpv4 inner peer.reservedIp st.net st.gateway = .ok route) :
      IngressChecked st peer inner (.broadcast route.source inner)
  | subnet {route : Ipv4Route} {r : WireGuardPeerRouteRecord}
      (hv : validateSubnetInnerIpv4 inner peer.reservedIp st.net st.gateway r.lanNetwork =
        .ok route) :
      IngressChecked st peer inner
        (.subnet r.vntCliIp (buildWireguardSubnetRelay inner route r.vntCliIp))

theorem NetworkState.ingress_checked (st : NetworkState) (env : PeerEnv) (peer : ActivePeer)
    (inner : Bytes) (sourceIp : Ipv4Addr) :
    IngressChecked st peer inner (st.ingress env peer inner sourceIp) := by
  unfold ingress
  -- One case for each outcome of the chain of checks.
  split
  · exact .rejected
  split
  · split
    · exact .rejected
    · exact .control _
  · exact .rejected
  split
  · exact .rejected
  · exact .reply _
  split
  · rename_i hv
    exact .broadcast hv
  split
  · rename_i hv
    exact .unicast hv
  split
  · exact .rejected
  split
  · exact .rejected
  · rename_i hv
    exact .subnet hv

/-- Where a delivery of a packet can come from. -/
inductive PeerSent (st : NetworkState) (peer : ActivePeer) (inner : Bytes) (d : Delivery) : Prop
  | unicast {route : Ipv4Route}
      (hv : validateInnerIpv4 inner peer.reservedIp st.net st.gateway = .ok route)
      (hd : st.tryDeliver route.destination (buildWireguardRelay inner route) .wireGuard = .sent d)
  | broadcast (hd : d ∈ st.routeWireguardBroadcast peer.reservedIp inner .wireGuard)
  | subnet {route : Ipv4Route} {r : WireGuardPeerRouteRecord}
      (hd : st.tryDeliver r.vntCliIp (buildWireguardSubnetRelay inner route r.vntCliIp) .wireGuard =
        .sent d)
  | control {targetIp : Ipv4Addr} {payload : Bytes}
      (hd : st.tryDeliver targetIp (p2pControlFrame st.gateway targetIp payload) .wireGuard =
        .sent d)

namespace NetworkState

variable {st : NetworkState}

theorem peerSent_of_mem {env : PeerEnv} {peer : ActivePeer} {inner : Bytes} {sourceIp : Ipv4Addr}
    {d : Delivery} (hd : d ∈ st.processPeerPacket env peer inner sourceIp) :
    PeerSent st peer inner d := by
  have ha := st.ingress_checked env peer inner sourceIp
  unfold processPeerPacket at hd
  generalize st.ingress env peer inner sourceIp = i at ha hd
  cases ha with
  | rejected => cases hd
  | reply => cases hd
  | control request =>
    simp only [resolveAgentRequest] at hd
    split at hd
    · cases hd
    · exact .control (LocalDelivery.mem_deliveries.mp hd)
  | unicast hv => exact .unicast hv (LocalDelivery.mem_deliveries.mp hd)
  | broadcast hv =>
    have hs := (validateBroadcastInnerIpv4_ok.mp hv).2.2.1
    simp only [hs] at hd
    exact .broadcast hd
  | subnet hv => exact .subnet (LocalDelivery.mem_deliveries.mp hd)

end NetworkState

end Vntc
