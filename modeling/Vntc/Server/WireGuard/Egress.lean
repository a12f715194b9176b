import Vntc.Server.WireGuard.Sessions

/-!
# Frames for WireGuard peers

What the runtime does with the frames that the network queues for its peers
(`handle_bridge_packet` of `server/wireguard_runtime.rs`): it finds the session by the destination
of the frame, checks the frame again, now with the source that the frame names, and hands the
payload to the tunnel.
-/

namespace Vntc

open Lib

/-- What the tunnel answers to a packet. -/
inductive TunnResult
  | done
  | err
  | writeToNetwork (packet : Bytes)
  | writeToTunnel

structure WireGuardBridgePacket where
  networkCode : String
  data : Bytes

/-- What `handle_bridge_packet` gets from elsewhere. -/
structure EgressEnv where
  /-- The tunnel of a session. -/
  encapsulate : PeerKey → Bytes → TunnResult
  /-- The socket sends the datagram. -/
  sent : Bool

def PeerTraffic.reject (t : PeerTraffic) : PeerTraffic :=
  { t with rejectedPackets := t.rejectedPackets + 1 }

def PeerTraffic.drop (t : PeerTraffic) : PeerTraffic :=
  { t with droppedPackets := t.droppedPackets + 1 }

/-- The check of a frame for a peer. -/
def ActivePeer.valid (peer : ActivePeer) (network : Ipv4Net) (gateway : Ipv4Addr)
    (packet : NetPacket) : Bool :=
  let source := packet.srcId
  match packet.msgType with
  | some .wireGuardRelay => (validateVntRelay packet source network gateway).isOk
  | some .wireGuardBroadcastRelay =>
    (validateBroadcastInnerIpv4 packet.payload source network gateway).isOk
  | some .wireGuardSubnetRelay =>
    match validateVntSubnetRelay packet source network gateway with
    | .ok route => (longestPrefixRoute peer.routes route.source).any (·.vntCliIp == source)
    | .error _ => false
  | _ => false

/-- The packet is in the tunnel's hands. -/
def EgressEnv.encapsulated (env : EgressEnv) (key : PeerKey) (traffic : PeerTraffic)
    (payload : Bytes) : PeerTraffic :=
  match env.encapsulate key payload with
  | .writeToNetwork _ => if env.sent then traffic else traffic.drop
  | .err => traffic.reject
  | _ => traffic.drop

/-- What a frame leaves of the session, and what goes to the tunnel. -/
def EgressEnv.egress (env : EgressEnv) (st : NetworkState) (key : PeerKey) (peer : RuntimePeer)
    (packet : NetPacket) : PeerTraffic × Option Bytes :=
  if !peer.valid st.net st.gateway packet then (peer.traffic.reject, none)
  else
    match peer.traffic.endpoint with
    | none => (peer.traffic.drop, none)
    | some _ => (env.encapsulated key peer.traffic packet.payload, some packet.payload)

/-- A valid frame is not refused, unless the tunnel refuses its payload. -/
theorem EgressEnv.egress_valid {env : EgressEnv} {st : NetworkState} {key : PeerKey}
    {peer : RuntimePeer} {packet : NetPacket} (hv : peer.valid st.net st.gateway packet = true)
    (ht : env.encapsulate key packet.payload ≠ .err) :
    (env.egress st key peer packet).2 = peer.traffic.endpoint.map (fun _ => packet.payload) ∧
      (env.egress st key peer packet).1.rejectedPackets = peer.traffic.rejectedPackets := by
  simp only [egress, hv, Bool.not_true, Bool.false_eq_true, if_false]
  cases peer.traffic.endpoint with
  | none => exact ⟨rfl, rfl⟩
  | some endpoint =>
    refine ⟨rfl, ?_⟩
    simp only [encapsulated]
    split
    · split <;> rfl
    · rename_i he
      exact absurd he ht
    · rfl

namespace RuntimeState

/-- The session and what goes to the tunnel. -/
def handleBridgePacket (s : RuntimeState) (env : EgressEnv) (bridge : WireGuardBridgePacket) :
    RuntimeState × Option Bytes :=
  match NetPacket.new bridge.data with
  | none => (s, none)
  | some packet =>
    match s.runtime.peersByReservedIp.lookup (bridge.networkCode, packet.destId) with
    | none => (s, none)
    | some key =>
      match s.runtime.peers.lookup key, s.networks.lookup key.networkCode with
      | some peer, some st =>
        let r := env.egress st.state key peer packet
        ({ s with runtime := s.runtime.setTraffic key r.1 }, r.2)
      | _, _ => (s, none)

variable {s : RuntimeState}

/-! ## Networks during a run -/

/-- The network is still there, with its addresses. -/
def SameNet (st : PeerRecords) (o : Option PeerRecords) : Prop :=
  ∃ st', o = some st' ∧ st'.state.net = st.state.net ∧ st'.state.gateway = st.state.gateway

theorem SameNet.refl (st : PeerRecords) : SameNet st (some st) := ⟨st, rfl, rfl, rfl⟩

theorem sameNet_apply (st : NetworkState) (op : NetworkOp) :
    (st.apply op).net = st.net ∧ (st.apply op).gateway = st.gateway :=
  ⟨NetworkState.net_effect (NetworkState.apply_effect op),
    NetworkState.gateway_effect (NetworkState.apply_effect op)⟩

variable {n : String} {st : PeerRecords}

theorem sameNet_onNetwork {m : String} {f : PeerRecords → PeerRecords}
    (h : SameNet st (s.networks.lookup n))
    (hf : ∀ st', (f st').state.net = st'.state.net ∧ (f st').state.gateway = st'.state.gateway) :
    SameNet st ((s.onNetwork m f).networks.lookup n) := by
  obtain ⟨st', hst', hnet, hgw⟩ := h
  simp only [onNetwork, HashMap.lookup_modify]
  split
  · rename_i hn
    obtain ⟨hn', hg'⟩ := hf st'
    exact ⟨f st', by rw [← hn, hst']; rfl, hn'.trans hnet, hg'.trans hgw⟩
  · exact ⟨st', hst', hnet, hgw⟩

theorem sameNet_removePeer (h : SameNet st (s.networks.lookup n)) (key : PeerKey) :
    SameNet st ((s.removePeer key).networks.lookup n) := by
  unfold removePeer
  split
  · rename_i peer _
    exact sameNet_onNetwork h fun st' =>
      sameNet_apply st'.state (.disconnectPeer key.peerId peer.reservedIp)
  · exact h

theorem sameNet_removePeers (h : SameNet st (s.networks.lookup n)) (keys : List PeerKey) :
    SameNet st ((keys.foldl removePeer s).networks.lookup n) := by
  induction keys generalizing s with
  | nil => exact h
  | cons key keys ih => exact ih (sameNet_removePeer h key)

theorem sameNet_section {op : RevokeOp} (hop : op.isSection = true) (st' : PeerRecords) :
    (st'.section op).state.net = st'.state.net ∧
      (st'.section op).state.gateway = st'.state.gateway := by
  unfold PeerRecords.section
  split
  · rename_i hg
    rcases RevokeState.state_section hop hg with he | ⟨m, he⟩
    · rw [he]; exact ⟨rfl, rfl⟩
    · rw [he]; exact sameNet_apply _ m
  · exact ⟨rfl, rfl⟩

theorem sameNet_activatePeer (h : SameNet st (s.networks.lookup n))
    (record : WireGuardRuntimePeer) (ready : Bool) (generate : Nat → Nat) (sender : Channel)
    (now : SystemTime) :
    SameNet st ((s.activatePeer record ready generate sender now).networks.lookup n) := by
  unfold activatePeer
  split
  · exact h
  · split
    · rename_i st₀ index hst₀ _
      simp only
      split
      · -- The network that the peer connects to is the one that is looked up.
        obtain ⟨st', hst', hnet, hgw⟩ := h
        obtain ⟨hn, hg⟩ := sameNet_apply st₀.state
          (.connectPeer record.key.peerId record.ip sender now)
        simp only [onNetwork, HashMap.lookup_modify]
        split
        · rename_i hk
          rw [hk, hst₀] at hst'
          cases hst'
          exact ⟨_, by rw [hst₀]; rfl, hn.trans hnet, hg.trans hgw⟩
        · exact ⟨st', hst', hnet, hgw⟩
      · exact h
    · exact h

theorem sameNet_step (h : SameNet st (s.networks.lookup n)) (op : RuntimeOp) :
    SameNet st ((s.step op).networks.lookup n) := by
  cases op with
  | network m op =>
    simp only [step]
    split
    · rename_i hop
      exact sameNet_onNetwork h (sameNet_section hop)
    · exact h
  | handle m c =>
    simp only [step, handle]
    split
    · exact sameNet_onNetwork (sameNet_removePeer h _) fun _ => ⟨rfl, rfl⟩
    · exact h
  | handshake publicKey ok =>
    simp only [step, handshake]
    split
    · exact h
    · split <;> exact h
  | loadRoutes ok =>
    simp only [step, loadRoutes]
    split
    · split <;> exact h
    · exact h
  | activate ready generate sender now =>
    simp only [step, activate]
    split
    · exact sameNet_activatePeer (s := { s with loading := none }) h _ ready generate sender now
    · exact h
  | packet destination traffic | bridgePacket m destination traffic =>
    simp only [step]
    split <;> exact h
  | updateTimers expired =>
    simp only [step]
    split
    · exact h
    · exact sameNet_removePeers h expired
  | shutdown =>
    simp only [step]
    split
    · exact h
    · exact sameNet_removePeers h _

theorem sameNet_run (h : SameNet st (s.networks.lookup n)) (ops : List RuntimeOp) :
    SameNet st ((ops.foldl step s).networks.lookup n) := by
  induction ops generalizing s with
  | nil => exact h
  | cons op ops ih => exact ih (sameNet_step h op)

end RuntimeState

/-! ## Frames that were checked on the way in -/

/-- The frame `d` was queued for the packet `inner`: of a VNT client, of a WireGuard peer, or as a
broadcast of either. -/
inductive Ingested (st : NetworkState) (d : Delivery) : Bytes → Prop
  | vnt {env : DataEnv} {session : Session} {buf : Bytes} {packet : NetPacket}
      {ds : List Delivery} (hf : Frame buf packet .wireGuardRelay)
      (hok : st.handleData env (some session) buf = .ok ds) (hd : d ∈ ds) :
      Ingested st d packet.payload
  | wireGuard {env : PeerEnv} {peer : ActivePeer} {inner : Bytes} {sourceIp destination : Ipv4Addr}
      {data : Bytes} (hi : st.ingress env peer inner sourceIp = .unicast destination data)
      (hd : d ∈ st.processPeerPacket env peer inner sourceIp) : Ingested st d inner
  | broadcast {source : Ipv4Addr} {inner : Bytes} {origin : RelayOrigin} {ds : List Delivery}
      (hok : st.relayWireguardBroadcast source inner origin = .ok ds) (hd : d ∈ ds) :
      Ingested st d inner

/-- What the check at the other end finds: the frame is for `d.target`, has `inner` as its payload,
and is valid for every peer. -/
structure PassesEgress (st : NetworkState) (d : Delivery) (inner : Bytes) (packet : NetPacket) :
    Prop where
  new : NetPacket.new d.data = some packet
  destId : packet.destId = d.target
  payload : packet.payload = inner
  plain : PlainIpv4 inner
  valid : ∀ peer : ActivePeer, peer.valid st.net st.gateway packet = true

namespace NetworkState

variable {st : NetworkState} {d : Delivery} {inner : Bytes}

variable {packet : NetPacket} {route : Ipv4Route} {source : Ipv4Addr}

theorem valid_relay (he : Envelope packet .wireGuardRelay source) (httl : packet.ttl ≠ 0)
    (hv : validateInnerIpv4 packet.payload source st.net st.gateway = .ok route)
    (hd : packet.destId = route.destination) (peer : ActivePeer) :
    peer.valid st.net st.gateway packet = true := by
  simp only [ActivePeer.valid, he.msgType, isOk_iff]
  refine ⟨route, validateVntRelay_ok.mpr ⟨⟨⟨he.msgType, he.isCompressed, he.isGateway, rfl⟩, httl⟩,
    ?_, hd⟩⟩
  rw [he.srcId]
  exact hv

theorem valid_broadcast (he : Envelope packet .wireGuardBroadcastRelay source)
    (hv : validateBroadcastInnerIpv4 packet.payload source st.net st.gateway = .ok route)
    (peer : ActivePeer) : peer.valid st.net st.gateway packet = true := by
  simp only [ActivePeer.valid, he.msgType, isOk_iff]
  exact ⟨route, by rw [he.srcId]; exact hv⟩

/-- A frame of a VNT client goes on with one hop less, and the second check finds the client's
address as the source. -/
theorem passes_vnt {next : NetPacket} {ip : Ipv4Addr}
    (hv : validateVntRelay packet ip st.net st.gateway = .ok route)
    (hn : packet.decrTtl = some next)
    (hd : st.tryDeliver packet.destId next.buffer .vnt = .sent d) :
    PassesEgress st d packet.payload next := by
  obtain ⟨ht, hdata, -⟩ := tryDeliver_sent hd
  obtain ⟨⟨he, -⟩, hi, hdest⟩ := validateVntRelay_ok.mp hv
  obtain ⟨-, -, -, -, hdn, hpn⟩ := NetPacket.decrTtl_some hn
  have httl : next.ttl ≠ 0 := by
    have hone : ¬ packet.ttl ≤ 1 := fun hle => by
      rw [NetPacket.decrTtl_eq_none.mpr hle] at hn
      cases hn
    have := NetPacket.ttl_decrTtl hn
    omega
  refine ⟨by rw [hdata]; exact NetPacket.new_buffer next, by rw [hdn, ht], hpn,
    (validateInnerIpv4_ok.mp hi).1, ?_⟩
  exact valid_relay (he.decrTtl hn) httl (by rw [hpn]; exact hi) (by rw [hdn]; exact hdest)

theorem passes_wireGuard {ip : Ipv4Addr}
    (hv : validateInnerIpv4 inner ip st.net st.gateway = .ok route)
    (hd : st.tryDeliver route.destination (buildWireguardRelay inner route) .wireGuard = .sent d) :
    ∃ packet, PassesEgress st d inner packet := by
  obtain ⟨ht, hdata, -⟩ := tryDeliver_sent hd
  obtain ⟨hpl, -, hs, -, -⟩ := validateInnerIpv4_ok.mp hv
  obtain ⟨packet, hp, he, hdest, hpay⟩ :=
    envelope_build .wireGuardRelay inner route.source route.destination
  refine ⟨packet, by rw [hdata]; exact hp, by rw [hdest, ht], hpay, hpl, ?_⟩
  refine valid_relay he ?_ (by rw [hpay, hs]; exact hv) hdest
  rw [ttl_build hp]
  decide

theorem passes_broadcast {target : Ipv4Addr} {origin : RelayOrigin}
    (hv : validateBroadcastInnerIpv4 inner source st.net st.gateway = .ok route)
    (hd : st.tryDeliver target (buildWireguardBroadcastRelay inner route target) origin = .sent d) :
    ∃ packet, PassesEgress st d inner packet := by
  obtain ⟨ht, hdata, -⟩ := tryDeliver_sent hd
  obtain ⟨hpl, -, hs, -, -⟩ := validateBroadcastInnerIpv4_ok.mp hv
  obtain ⟨packet, hp, he, hdest, hpay⟩ :=
    envelope_build .wireGuardBroadcastRelay inner route.source target
  refine ⟨packet, by rw [hdata]; exact hp, by rw [hdest, ht], hpay, hpl, ?_⟩
  exact valid_broadcast he (by rw [hpay, hs]; exact hv)

/-- A relay frame of a client that was delivered has passed its check. -/
theorem relay_of_handleData {env : DataEnv} {session : Session} {buf : Bytes}
    {ds : List Delivery} (hf : Frame buf packet .wireGuardRelay)
    (hok : st.handleData env (some session) buf = .ok ds) (hd : d ∈ ds) :
    ∃ route next, validateVntRelay packet session.ip st.net st.gateway = .ok route ∧
      packet.decrTtl = some next ∧ st.tryDeliver packet.destId next.buffer .vnt = .sent d := by
  rcases handleData_ok.mp hok with ⟨-, rfl⟩ | ⟨-, -, p, kind, hn, hk, ⟨-, rfl⟩ | ⟨-, h⟩⟩
  · cases hd
  · cases hd
  · rw [hf.new] at hn
    cases hn
    rw [hf.msgType] at hk
    cases hk
    simp only [handleFrame] at h
    obtain ⟨next, hn, hd⟩ := hop_of_mem h hd
    obtain ⟨route, hv, hn⟩ := nextHop_some hn
    exact ⟨route, next, hv, hn, LocalDelivery.mem_deliveries.mp hd⟩

theorem passesEgress_of_ingested (h : Ingested st d inner) :
    ∃ packet, PassesEgress st d inner packet := by
  cases h with
  | vnt hf hok hd =>
    obtain ⟨route, next, hv, hn, hd⟩ := relay_of_handleData hf hok hd
    exact ⟨next, passes_vnt hv hn hd⟩
  | @wireGuard env peer _ sourceIp destination data hi hd =>
    have hc := st.ingress_checked env peer inner sourceIp
    rw [hi] at hc
    simp only [processPeerPacket, hi] at hd
    cases hc with
    | unicast hv => exact passes_wireGuard hv (LocalDelivery.mem_deliveries.mp hd)
  | @broadcast source _ origin ds hok hd =>
    have hm : d ∈ st.routeWireguardBroadcast source inner origin := by
      rw [routeWireguardBroadcast, hok]
      exact hd
    obtain ⟨route, target, hv, hd⟩ := mem_routeWireguardBroadcast hm
    exact passes_broadcast hv hd

end NetworkState

namespace RuntimeState

/-- The number of frames that the session of a peer has refused. -/
def rejected (s : RuntimeState) (key : PeerKey) : Option Nat :=
  (s.runtime.peers.lookup key).map (·.traffic.rejectedPackets)

/-- **What passes on the way in passes on the way out.** A frame that a network has queued for a
packet which passed its checks is taken from the queue later in the run. If its target has a session
then, the frame passes the second check, the tunnel gets the packet that came in (if the session has
an endpoint), and the frame does not count as refused. -/
theorem egress_of_ingested (s : RuntimeState) (n : String) (st : PeerRecords)
    (hst : s.networks.lookup n = some st) (d : Delivery) (inner : Bytes)
    (hi : Ingested st.state d inner) (ops : List RuntimeOp) (p : String) (peer : RuntimePeer)
    (hip : (ops.foldl step s).runtime.peersByReservedIp.lookup (n, d.target) = some ⟨n, p⟩)
    (hp : (ops.foldl step s).runtime.peers.lookup ⟨n, p⟩ = some peer) (env : EgressEnv)
    (htunnel : ∀ payload, payload.length ≤ maxInnerIpv4PacketSize →
      env.encapsulate ⟨n, p⟩ payload ≠ .err) :
    (∃ packet st', NetPacket.new d.data = some packet ∧
      (ops.foldl step s).networks.lookup n = some st' ∧
      peer.valid st'.state.net st'.state.gateway packet = true) ∧
    ((ops.foldl step s).handleBridgePacket env ⟨n, d.data⟩).2 =
      peer.traffic.endpoint.map (fun _ => inner) ∧
    ((ops.foldl step s).handleBridgePacket env ⟨n, d.data⟩).1.rejected ⟨n, p⟩ =
      (ops.foldl step s).rejected ⟨n, p⟩ := by
  obtain ⟨packet, h⟩ := NetworkState.passesEgress_of_ingested hi
  have hsame : SameNet st (s.networks.lookup n) := by
    rw [hst]
    exact SameNet.refl st
  obtain ⟨st', hst', hnet, hgw⟩ := sameNet_run hsame ops
  have hvalid : peer.valid st'.state.net st'.state.gateway packet = true := by
    rw [hnet, hgw]
    exact h.valid _
  obtain ⟨hout, hrej⟩ := EgressEnv.egress_valid hvalid 
    (htunnel _ (by rw [h.payload]; exact h.plain.le_max))
  have hhandle : (ops.foldl step s).handleBridgePacket env ⟨n, d.data⟩ =
      ({ ops.foldl step s with
        runtime := (ops.foldl step s).runtime.setTraffic ⟨n, p⟩
          (env.egress st'.state ⟨n, p⟩ peer packet).1 },
        (env.egress st'.state ⟨n, p⟩ peer packet).2) := by
    rw [← h.destId] at hip
    simp only [handleBridgePacket, h.new, hip, hp, hst']
  refine ⟨⟨packet, st', h.new, hst', hvalid⟩, ?_, ?_⟩
  · rw [hhandle, hout, h.payload]
  · rw [hhandle]
    simp only [rejected, WireGuardRuntime.setTraffic, HashMap.lookup_modify, if_true, hp,
      Option.map_some, hrej]

/-- A client that takes part in the relay. -/
def laptopReq : RegRequestMsg :=
  { anyIpReq "laptop" none with allowWireGuard := true }

/-- The phone has a session, and the laptop is online at `10.26.0.2`. -/
def phoneOnline : RuntimeState :=
  [.handshake [1] true, .loadRoutes true, .activate true (fun _ => 5) 0 0,
    .packet (.receiverIndex 5) ⟨some (.v4 (Ipv4Addr.new 198 51 100 7) 40000), 0, 0, ∅⟩,
    .network "home" (.method (.register laptopReq 7 2 0))].foldl step phoneServer

def phoneHome : PeerRecords :=
  (phoneOnline.networks.lookup "home").getD RevokeState.phoneState.toPeerRecords

/-- An IPv4 packet from the laptop to the phone. -/
def toPhone : Bytes := [0x45, 0, 0, 20, 0, 0, 0, 0, 64, 17, 0, 0, 10, 26, 0, 2, 10, 26, 0, 7]

def toPhoneFrame : Bytes := buildWireguardRelay toPhone ⟨homeIp 2, RevokeState.phoneIp⟩

/-- The frame in the queue has one hop less. -/
def queuedToPhone : Delivery :=
  ⟨RevokeState.phoneIp, .wireGuard "home" 0, List.set toPhoneFrame 1 0x54⟩

def laptopSession : Session :=
  NetworkState.registerSession "home" laptopReq (homeIp 2) 7

theorem toPhone_ingested : Ingested phoneHome.state queuedToPhone toPhone := by
  have hl : headLength ≤ toPhoneFrame.length := by decide
  have hok : phoneHome.state.handleData ⟨fun _ => none, true, false⟩ (some laptopSession)
      toPhoneFrame = .ok [queuedToPhone] := by decide +kernel
  have hn : NetPacket.new toPhoneFrame = some ⟨toPhoneFrame, hl⟩ := dif_pos hl
  obtain ⟨he, -, -⟩ := envelope_of_build hn
  exact .vnt ⟨hn, he.msgType, he.isGateway⟩ hok List.mem_cons_self

/-- A tunnel that sends each packet as it is. -/
def plainTunnel : EgressEnv := ⟨fun _ payload => .writeToNetwork payload, true⟩

theorem egress_of_ingested_toPhone :
    Ingested phoneHome.state queuedToPhone toPhone ∧
      (phoneOnline.handleBridgePacket plainTunnel ⟨"home", queuedToPhone.data⟩).2 =
        some toPhone := by
  have hst : phoneOnline.networks.lookup "home" = some phoneHome := rfl
  have hip : phoneOnline.runtime.peersByReservedIp.lookup ("home", queuedToPhone.target) =
      some ⟨"home", "phone"⟩ := by decide
  obtain ⟨peer, hp⟩ : ∃ peer, phoneOnline.runtime.peers.lookup ⟨"home", "phone"⟩ = some peer :=
    Option.isSome_iff_exists.mp (by decide)
  have hend : (phoneOnline.runtime.peers.lookup ⟨"home", "phone"⟩).map (·.traffic.endpoint) =
      some (some (.v4 (Ipv4Addr.new 198 51 100 7) 40000)) := by decide
  rw [hp] at hend
  have hend : peer.traffic.endpoint = some _ := Option.some.inj hend
  have h := egress_of_ingested phoneOnline "home" phoneHome hst queuedToPhone toPhone
    toPhone_ingested [] "phone" peer hip hp plainTunnel fun payload _ => by simp [plainTunnel]
  refine ⟨toPhone_ingested, h.2.1.trans ?_⟩
  rw [hend]
  rfl

end RuntimeState

end Vntc
