import Vntc.Server.Relay.Ingress

/-!
# What reaches WireGuard peers

A server with its clients' sessions and WireGuard peers (`RelayState`), and the frames that get into
the queue to the WireGuard endpoints. `BridgeFrame` is what such a frame should be: a relayed IPv4
packet from the address that the server has for its sender.

`connect_wireguard_peer` writes the queue of a peer and its endpoint one after the other. It holds
the lock of the lease state, so no other method runs in between, but the handlers of the clients'
frames read both maps without the lock. The model has a step for each of the two writes. Every
other method, and every handled frame or packet, is one step. A session stays open until its
connection ends, also if its device registered again in the meantime.
-/

namespace Vntc

open Lib NetworkState NetPacket

/-- A relayed IPv4 packet from the address `bound`. -/
def BridgeFrame (net : Ipv4Net) (bound : Ipv4Addr) (data : Bytes) : Prop :=
  ∃ packet kind, NetPacket.new data = some packet ∧ Envelope packet kind bound ∧
    PlainIpv4 packet.payload ∧
    ((kind = .wireGuardRelay ∨ kind = .wireGuardBroadcastRelay) ∧
        Ipv4Packet.source packet.payload = bound ∨
      kind = .wireGuardSubnetRelay ∧ net.contains (Ipv4Packet.source packet.payload) = false)

/-- A frame that the server builds for a packet, from the packet's own source. -/
theorem BridgeFrame.build {kind : MsgType}
    (hk : kind = .wireGuardRelay ∨ kind = .wireGuardBroadcastRelay) {inner : Bytes}
    (hp : PlainIpv4 inner) (net : Ipv4Net) (destination : Ipv4Addr) :
    BridgeFrame net (Ipv4Packet.source inner)
      (buildWireguardEnvelope kind inner (Ipv4Packet.source inner) destination) := by
  obtain ⟨packet, hn, he, -, hpl⟩ :=
    envelope_build kind inner (Ipv4Packet.source inner) destination
  exact ⟨packet, kind, hn, he, by rw [hpl]; exact hp, .inl ⟨hk, by rw [hpl]⟩⟩

variable {bound : Ipv4Addr} {data : Bytes} {net : Ipv4Net}

theorem BridgeFrame.srcId (h : BridgeFrame net bound data) : (new data).map srcId = some bound := by
  obtain ⟨packet, kind, hn, he, -⟩ := h
  rw [hn, Option.map_some, he.srcId]

theorem BridgeFrame.msgType_ne (h : BridgeFrame net bound data) :
    (new data).bind msgType ≠ some .broadcast := by
  obtain ⟨packet, kind, hn, he, -, hk⟩ := h
  rw [hn, Option.bind_some, he.msgType]
  rintro ⟨⟩
  simp at hk

namespace NetworkState

variable {st : NetworkState}

variable {d : Delivery} {data inner : Bytes} {origin : RelayOrigin}

/-- What `try_deliver` hands to a WireGuard queue. -/
theorem SameKinds.tryDeliver (hk : SameKinds st) {destination : Ipv4Addr}
     (h : st.tryDeliver destination data origin = .sent d) (hw : d.sender.isWireGuard = true) :
    d.data = data ∧ ∃ packet kind, new data = some packet ∧
      packet.msgType = some kind ∧ (kind = .wireGuardRelay ∨ kind = .wireGuardBroadcastRelay ∨
        kind = .wireGuardSubnetRelay ∧ origin = .vnt) := by
  obtain ⟨-, hd, hs, endpoint, packet, kind, he, hp, ht, ha⟩ := tryDeliver_sent h
  have hke := hk destination
  rw [hs, he] at hke
  have hew : endpoint.isWireGuard = true := by
    rw [← Option.some.inj hke]
    exact hw
  exact ⟨hd, packet, kind, hp, ht, allowed_wireGuard hew ha⟩

/-- Nothing is fanned out to a WireGuard queue. -/
theorem SameKinds.fanOut (hk : SameKinds st) {wanted : Ipv4Addr → Bool}
    (h : d ∈ st.fanOut wanted data) : d.sender.isWireGuard = false := by
  obtain ⟨hs, -, hw, -⟩ := mem_fanOut.mp h
  have hkd := hk d.target
  rw [hs] at hkd
  unfold isWireguardEndpoint at hw
  cases he : st.onlineEndpoints.lookup d.target with
  | none => rw [he] at hkd; cases hkd
  | some endpoint =>
    rw [he] at hkd hw
    exact (Option.some.inj hkd).trans (by simpa using hw)

/-- A broadcast IPv4 packet. -/
theorem bridgeFrame_of_broadcast {source : Ipv4Addr}
    (h : d ∈ st.routeWireguardBroadcast source inner origin) :
    BridgeFrame st.net source d.data := by
  obtain ⟨route, target, hv, hd⟩ := mem_routeWireguardBroadcast h
  obtain ⟨hp, rfl, rfl, -⟩ := validateBroadcastInnerIpv4_ok.mp hv
  rw [(tryDeliver_sent hd).2.1]
  exact .build (.inr rfl) hp _ _

/-- A frame of a client. -/
theorem bridgeFrame_of_handled (hk : SameKinds st) {env : DataEnv} {session : Session}
    {buf : Bytes} (h : Handled st env session buf d)
    (hw : d.sender.isWireGuard = true) : BridgeFrame st.net session.ip d.data := by
  cases h with
  | direct hf hkind hn hd =>
    -- The matrix lets no other type through to a WireGuard endpoint.
    obtain ⟨-, p, kind', hp, ht, hk'⟩ := hk.tryDeliver hd hw
    rw [new_buffer] at hp
    cases hp
    rw [(decrTtl_some hn).1, hf.msgType] at ht
    cases ht
    rcases hk' with rfl | rfl | ⟨rfl, -⟩ <;> cases hkind
  | @relay packet next route hv hn hd =>
    obtain ⟨⟨he, -⟩, hi, -⟩ := validateVntRelay_ok.mp hv
    obtain ⟨hp, hr, hs, -⟩ := validateInnerIpv4_ok.mp hi
    have hpl := (decrTtl_some hn).2.2.2.2.2
    rw [(tryDeliver_sent hd).2.1]
    refine ⟨next, _, new_buffer next, he.decrTtl hn, by rw [hpl]; exact hp,
      .inl ⟨.inl rfl, ?_⟩⟩
    rw [hpl, ← hs, hr]
    rfl
  | @subnetRelay packet next route hv hn hd =>
    obtain ⟨⟨he, -⟩, -, ⟨hp, hr⟩, -, hs⟩ := validateVntSubnetRelay_ok.mp hv
    have hpl := (decrTtl_some hn).2.2.2.2.2
    rw [(tryDeliver_sent hd).2.1]
    refine ⟨next, _, new_buffer next, he.decrTtl hn, by rw [hpl]; exact hp,
      .inr ⟨rfl, ?_⟩⟩
    simp only [not_or, Bool.not_eq_true] at hs
    rw [hpl]
    rw [hr] at hs
    exact hs.2.2.2
  | broadcastRelay hd => exact bridgeFrame_of_broadcast hd
  | broadcast hf hn hd | selective hf hb hi hn hd => rw [hk.fanOut hd] at hw; cases hw

/-- The server's own control messages do not go to WireGuard endpoints. -/
theorem SameKinds.control (hk : SameKinds st) {gateway targetIp : Ipv4Addr} {payload : Bytes}
    (h : st.tryDeliver targetIp (p2pControlFrame gateway targetIp payload) .wireGuard = .sent d) :
    d.sender.isWireGuard = false := by
  by_contra hw
  obtain ⟨-, p, kind, hp, ht, hkind⟩ := hk.tryDeliver h (by simpa using hw)
  rw [p2pControlFrame_msgType hp] at ht
  cases ht
  simp at hkind

/-- A packet of a peer. -/
theorem bridgeFrame_of_peerSent (hk : SameKinds st) {peer : ActivePeer}
    (h : PeerSent st peer inner d) (hw : d.sender.isWireGuard = true) :
    BridgeFrame st.net peer.reservedIp d.data := by
  cases h with
  | @unicast route hv hd =>
    obtain ⟨hp, rfl, hs, -⟩ := validateInnerIpv4_ok.mp hv
    rw [(tryDeliver_sent hd).2.1, ← hs]
    exact .build (.inl rfl) hp _ _
  | broadcast hd => exact bridgeFrame_of_broadcast hd
  | @subnet route r hd =>
    -- Peers send to LANs through VNT clients only.
    obtain ⟨-, p, kind, hp, ht, hkind⟩ := hk.tryDeliver hd hw
    obtain ⟨packet, hn, he, -, -⟩ :=
      envelope_build .wireGuardSubnetRelay inner route.source r.vntCliIp
    rw [buildWireguardSubnetRelay, hn] at hp
    cases hp
    rw [he.msgType] at ht
    cases ht
    simp at hkind
  | control hd => rw [hk.control hd] at hw; cases hw

end NetworkState

/-! ## Runs -/

/-- A peer whose queue is there and whose endpoint is not yet. -/
structure Connecting where
  peerId : String
  peer : ActivePeer
  now : SystemTime

/-- A frame in the queue to the WireGuard endpoints. -/
structure Queued where
  /-- The address that the server had for the sender; none for a frame of the server itself. -/
  bound : Option Ipv4Addr
  delivery : Delivery

/-- One network of a server, with the open sessions, the peers with a tunnel and every frame that
was given to the WireGuard queue. -/
structure RelayState where
  st : NetworkState
  sessions : List Session
  peers : HashMap String ActivePeer
  connecting : Option Connecting
  bridge : List Queued

inductive RelayOp
  | method (op : NetworkOp)
  | connectStart (peerId : String) (peer : ActivePeer) (sender : Channel) (now : SystemTime)
  | connectFinish
  | removePeer (peerId : String)
  /-- A client sends a frame. -/
  | frame (env : DataEnv) (session : Session) (buf : Bytes)
  /-- A packet comes out of a peer's tunnel. -/
  | packet (env : PeerEnv) (peerId : String) (inner : Bytes) (sourceIp : Ipv4Addr)
  | pingLocalClients (timestamp : Bytes)
  | revokeLease (targetIp : Ipv4Addr) (control : Bytes)

namespace NetworkState

/-- The sessions after a method: a registration opens one, a confirmation changes its status, and
the two methods that end sessions close theirs. -/
def trackSessions (st : NetworkState) (sessions : List Session) : NetworkOp → List Session
  | .register req randomId sender now =>
    match st.allocateIpAndGetEntry req randomId sender now with
    | .ok (_, ip, _) => registerSession st.networkCode req ip randomId :: sessions
    | .error _ => sessions
  | .confirm ip randomId => sessions.map fun s =>
    if s.ip = ip ∧ s.randomId = randomId then { s with registrationStatus := .confirmed } else s
  | .offline d ip randomId _ | .releasePreRegistered d ip randomId => sessions.filter fun s =>
    ¬ (s.deviceId = d ∧ s.ip = ip ∧ s.randomId = randomId)
  | _ => sessions

/-- The first write of `connect_wireguard_peer`. -/
def startConnect (st : NetworkState) (ip : Ipv4Addr) (sender : Channel) : NetworkState :=
  { st with senderMap := st.senderMap.insert ip (.wireGuard st.networkCode sender) }

/-- The second write of `connect_wireguard_peer`, and the new version. -/
def finishConnect (st : NetworkState) (c : Connecting) : NetworkState :=
  let version := st.leaseState.dataVersion + 1
  { st with
    onlineEndpoints := st.onlineEndpoints.insert c.peer.reservedIp
      (.wireGuard c.peerId (systemTimeToI64 c.now))
    leaseState := { st.leaseState with
      dataVersion := version, lastWireguardChangeVersion := version } }

/-- Nothing is at the peer's address, and it is the peer's. -/
def CanConnect (st : NetworkState) (peerId : String) (ip : Ipv4Addr) : Prop :=
  ¬ (st.leaseState.wireguardPeerIpMap.lookup ip ≠ some peerId ∨ (st.senderMap.lookup ip).isSome ∨
    (st.onlineEndpoints.lookup ip).isSome)

instance (st : NetworkState) (peerId : String) (ip : Ipv4Addr) :
    Decidable (st.CanConnect peerId ip) :=
  inferInstanceAs (Decidable (¬ _))

/-- The two writes one after the other are `connect_wireguard_peer`. -/
theorem finishConnect_startConnect {st : NetworkState} (c : Connecting)
    (h : st.CanConnect c.peerId c.peer.reservedIp) (sender : Channel) :
    (st.startConnect c.peer.reservedIp sender).finishConnect c =
      st.apply (.connectPeer c.peerId c.peer.reservedIp sender c.now) := by
  simp only [apply, connectWireguardPeer, if_neg h]
  rfl

/-- The ping of the server: the gateway flag, one hop, and the time as the payload. -/
def pingFrame (timestamp : Bytes) : Bytes :=
  [NetPacket.typeByte .ping, 0x11, 0x40, 0, 0, 0, 0, 0, 0, 0, 0, 0, 0, 0, 0, 0] ++ timestamp

end NetworkState

namespace RelayState

variable (s : RelayState)

/-- Deliveries of a sender with the address `bound`; those to WireGuard endpoints are queued. -/
def enqueue (bound : Option Ipv4Addr) (ds : List Delivery) : RelayState :=
  { s with bridge := s.bridge ++
      (ds.filter fun d => d.sender.isWireGuard).map fun d => ⟨bound, d⟩ }

/-- What goes out for a client's frame. -/
def deliveries (env : DataEnv) (session : Session) (buf : Bytes) : List Delivery :=
  (s.st.handleData env (some session) buf).toOption.getD []

/-- While a peer is connecting, its task is busy and the lock of the lease state is held: only
frames and pings are handled. -/
def apply : RelayOp → RelayState
  | .frame env session buf =>
    if session ∈ s.sessions then
      s.enqueue (s.st.leaseState.leaseOf session.deviceId) (s.deliveries env session buf)
    else s
  | .pingLocalClients timestamp =>
    s.enqueue none (s.st.fanOut (fun _ => true) (NetworkState.pingFrame timestamp))
  | .connectFinish =>
    match s.connecting with
    | none => s
    | some c => { s with
        st := s.st.finishConnect c
        peers := s.peers.insert c.peerId c.peer
        connecting := none }
  | .method op =>
    if s.connecting.isSome then s
    else { s with st := s.st.apply op, sessions := s.st.trackSessions s.sessions op }
  | .connectStart peerId peer sender now =>
    if s.connecting.isNone ∧ s.st.CanConnect peerId peer.reservedIp then
      { s with
        st := s.st.startConnect peer.reservedIp sender
        connecting := some ⟨peerId, peer, now⟩ }
    else s
  | .removePeer peerId =>
    match s.connecting, s.peers.lookup peerId with
    | none, some peer => { s with
        st := (s.st.disconnectWireguardPeer peerId peer.reservedIp).1
        peers := s.peers.erase peerId }
    | _, _ => s
  | .packet env peerId inner sourceIp =>
    match s.connecting, s.peers.lookup peerId with
    | none, some peer =>
      s.enqueue (some peer.reservedIp) (s.st.processPeerPacket env peer inner sourceIp)
    | _, _ => s
  | .revokeLease targetIp control =>
    if s.connecting.isSome then s else s.enqueue none (s.st.revokeLease targetIp control)

def relaySys : Sys RelayState RelayOp :=
  Sys.ofFun (fun s => NetworkState.Loaded s.st ∧ s.sessions = [] ∧ s.peers = ∅ ∧
    s.connecting = none ∧ s.bridge = []) apply

/-- A frame that reaches a WireGuard queue is not handled between the two writes of a connection, and
comes from a session that has its device's address. A ping would reach the queue of a peer that is
connecting. -/
def Orderly (s : RelayState) : RelayOp → Prop
  | .frame env session buf => ∀ d ∈ s.deliveries env session buf, d.sender.isWireGuard = true →
    s.connecting = none ∧ s.st.leaseState.leaseOf session.deviceId = some session.ip
  | .pingLocalClients _ => s.connecting = none
  | _ => True

instance (s : RelayState) : ∀ op, Decidable (Orderly s op)
  | .frame .. => inferInstanceAs (Decidable (∀ d ∈ _, _ → _))
  | .pingLocalClients _ => inferInstanceAs (Decidable (s.connecting = none))
  | .method _ | .connectStart .. | .connectFinish | .removePeer _ | .packet .. | .revokeLease .. =>
    inferInstanceAs (Decidable True)

structure Inv (s : RelayState) : Prop where
  kinds : s.connecting = none → NetworkState.SameKinds s.st
  /-- The second write makes the kinds agree. -/
  window : ∀ c, s.connecting = some c → NetworkState.SameKinds (s.st.finishConnect c)
  bridge : ∀ q ∈ s.bridge, ∃ bound, q.bound = some bound ∧
    BridgeFrame s.st.net bound q.delivery.data

variable {s}

theorem Inv.enqueue (h : Inv s) {bound : Option Ipv4Addr} {ds : List Delivery}
    (hq : ∀ d ∈ ds, d.sender.isWireGuard = true →
      ∃ b, bound = some b ∧ BridgeFrame s.st.net b d.data) : Inv (s.enqueue bound ds) := by
  refine ⟨h.kinds, h.window, fun q hm => ?_⟩
  rcases List.mem_append.mp hm with hm | hm
  · exact h.bridge q hm
  · obtain ⟨d, hd, rfl⟩ := List.mem_map.mp hm
    obtain ⟨hd, hw⟩ := List.mem_filter.mp hd
    exact hq d hd hw

/-- A method of the network. -/
theorem Inv.effect (h : Inv s) (hn : s.connecting = none) {st' : NetworkState}
    (he : NetworkState.Effect s.st st') (sessions : List Session)
    (peers : HashMap String ActivePeer) :
    Inv { s with st := st', sessions := sessions, peers := peers } := by
  refine ⟨fun _ => (h.kinds hn).effect he, fun c hc => ?_, ?_⟩
  · have hc' : s.connecting = some c := hc
    rw [hn] at hc'
    cases hc'
  · simp only [net_effect he]
    exact h.bridge

theorem Inv.step (h : Inv s) (op : RelayOp) (hc : Orderly s op) : Inv (s.apply op) := by
  cases op with
  | frame env session buf =>
    simp only [apply]
    split
    · refine h.enqueue fun d hd hw => ?_
      obtain ⟨hn, hl⟩ := hc d hd hw
      refine ⟨session.ip, hl, ?_⟩
      unfold deliveries at hd
      cases hr : s.st.handleData env (some session) buf with
      | error => rw [hr] at hd; cases hd
      | ok ds =>
        rw [hr] at hd
        exact bridgeFrame_of_handled (h.kinds hn)
          (handled_of_mem hr hd) hw
    · exact h
  | pingLocalClients timestamp =>
    refine h.enqueue fun d hd hw => ?_
    rw [(h.kinds hc).fanOut hd] at hw
    cases hw
  | connectFinish =>
    simp only [apply]
    split
    · exact h
    · rename_i c hs
      exact ⟨fun _ => h.window c hs, nofun, h.bridge⟩
  | method op =>
    simp only [apply]
    split
    · exact h
    · rename_i hn
      exact h.effect (by simpa using hn) (apply_effect op) _ _
  | connectStart peerId peer sender now =>
    simp only [apply]
    split
    · rename_i hcan
      have hk := h.kinds (by simpa using hcan.1)
      refine ⟨nofun, fun c hs => ?_, h.bridge⟩
      cases hs
      simp only [finishConnect_startConnect ⟨peerId, peer, now⟩ hcan.2]
      exact hk.effect (apply_effect _)
    · exact h
  | removePeer peerId =>
    simp only [apply]
    split
    · rename_i peer hn hp
      exact h.effect hn (apply_effect (.disconnectPeer peerId peer.reservedIp)) _ _
    · exact h
  | packet env peerId inner sourceIp =>
    simp only [apply]
    split
    · rename_i peer hn hp
      exact h.enqueue fun d hd hw => ⟨_, rfl,
        bridgeFrame_of_peerSent (h.kinds hn) (peerSent_of_mem hd) hw⟩
    · exact h
  | revokeLease targetIp control =>
    simp only [apply]
    split
    · exact h
    · rename_i hn
      refine h.enqueue fun d hd hw => ?_
      rw [(h.kinds (by simpa using hn)).control (LocalDelivery.mem_deliveries.mp hd)] at hw
      cases hw

/-- **Only relayed packets from their senders' addresses reach WireGuard endpoints.** In every run
in which the frames that reach them are not handled between the two writes of a connection and come
from sessions that have their device's address. -/
theorem bridge_isolated (s : RelayState) (h : relaySys.ReachWith Orderly s) :
    ∀ q ∈ s.bridge, ∃ bound, q.bound = some bound ∧
      BridgeFrame s.st.net bound q.delivery.data := by
  refine (Sys.ReachWith.invariant (I := Inv) ?_ ?_ h).bridge
  · rintro s ⟨⟨networkCode, net, leaseDuration, devices, allocations, now, -, hst, -⟩, -, -, hn, hb⟩
    refine ⟨fun _ => by rw [hst]; exact fun _ => rfl, fun c hc => ?_, fun q hq => ?_⟩
    · rw [hn] at hc; cases hc
    · rw [hb] at hq; cases hq
  · rintro s op _ hi hc rfl
    exact hi.step op hc

/-- A network in which `10.26.0.5` is reserved for the phone, a WireGuard peer. -/
def phoneNetwork : RelayState where
  st := .newFromDb "home" defaultNet 0 none
    (some [⟨"phone", homeIp 5⟩]) 0
  sessions := []
  peers := ∅
  connecting := none
  bridge := []

theorem phoneNetwork_init : relaySys.init phoneNetwork :=
  ⟨⟨"home", defaultNet, 0, none, _, 0, List.Pairwise.nil, rfl, fun _ => .inl rfl⟩,
    rfl, rfl, rfl, rfl⟩

/-- A client that takes part in the relay. -/
def relayReq (deviceId : String) (ip : Option Ipv4Addr) (ipVariable : Bool) : RegRequestMsg :=
  { anyIpReq deviceId ip with ipVariable := ipVariable, allowWireGuard := true }

/-- The laptop registers; it gets `10.26.0.2`. -/
def registerLaptop : RelayOp := .method (.register (relayReq "laptop" none true) 7 2 0)

def startPhone : RelayOp := .connectStart "phone" ⟨homeIp 5, []⟩ 1 0

/-- A frame of the laptop's first session. -/
def laptopSends (buf : Bytes) : RelayOp :=
  .frame ⟨fun _ => none, true, false⟩
    (NetworkState.registerSession "home" (relayReq "laptop" none true) (homeIp 2) 7)
    buf

/-- An IPv4 packet from `10.26.0.2` to the phone, as a relay. -/
def relayToPhone : Bytes :=
  buildWireguardRelay
    ([0x45, 0, 0, 20, 0, 0, 0, 0, 64, 17, 0, 0] ++
      (Bytes.ofU32 (homeIp 2) ++ Bytes.ofU32 (homeIp 5)))
    ⟨homeIp 2, homeIp 5⟩

/-- The phone connects, and the laptop sends it a packet. -/
theorem bridge_isolated_relay :
    ∃ s, relaySys.ReachWith Orderly s ∧ s.bridge.length = 1 ∧
      ∀ q ∈ s.bridge, ∃ bound, q.bound = some bound ∧
        BridgeFrame s.st.net bound q.delivery.data := by
  have hr : relaySys.ReachWith Orderly
      ([registerLaptop, startPhone, .connectFinish, laptopSends relayToPhone].foldl apply
        phoneNetwork) :=
    Sys.ReachWith.foldl (.init phoneNetwork_init) (by decide)
  exact ⟨_, hr, by decide, bridge_isolated _ hr⟩

/-- The laptop registers again from another connection and moves to `10.26.0.9`. Its old address
goes to the tablet. The old session is still open and sends from there. -/
def oldSessionRun : List RelayOp :=
  [registerLaptop, startPhone, .connectFinish,
    .method (.register (relayReq "laptop" (some (homeIp 9)) false) 8 3 0),
    .method (.register (relayReq "tablet" none true) 9 4 0), laptopSends relayToPhone]

/-- The laptop sends a broadcast while the phone connects. -/
def windowRun : List RelayOp :=
  [registerLaptop, startPhone, laptopSends
    (buildWireguardEnvelope .broadcast [] (homeIp 2) Ipv4Addr.broadcast)]

/-- Without the conditions, a packet from another device's address and a frame of another type
reach the queue to the WireGuard endpoints. -/
theorem bridge_not_isolated :
    (∃ s, relaySys.Reach s ∧ s.st.leaseState.leaseOf "tablet" = some (homeIp 2) ∧
      ∃ q ∈ s.bridge, q.bound = s.st.leaseState.leaseOf "laptop" ∧
        (NetPacket.new q.delivery.data).map NetPacket.srcId = some (homeIp 2) ∧
        ¬ ∃ bound, q.bound = some bound ∧ BridgeFrame s.st.net bound q.delivery.data) ∧
    ∃ s, relaySys.Reach s ∧ ∃ q ∈ s.bridge,
      (NetPacket.new q.delivery.data).bind NetPacket.msgType = some .broadcast ∧
      ¬ ∃ bound, q.bound = some bound ∧ BridgeFrame s.st.net bound q.delivery.data := by
  have hr : ∀ ops : List RelayOp, relaySys.Reach (ops.foldl apply phoneNetwork) :=
    Sys.Reach.foldl (.init phoneNetwork_init)
  constructor
  · have hq : ∃ q ∈ (oldSessionRun.foldl apply phoneNetwork).bridge,
        q.bound = some (homeIp 9) ∧
        (NetPacket.new q.delivery.data).map NetPacket.srcId = some (homeIp 2) := by
      decide
    obtain ⟨q, hm, hb, hs⟩ := hq
    refine ⟨_, hr oldSessionRun, by decide, q, hm, hb.trans (by decide), hs, ?_⟩
    rintro ⟨bound, hbound, h⟩
    rw [hb] at hbound
    cases hbound
    exact absurd (hs.symm.trans h.srcId) (by decide)
  · have hq : ∃ q ∈ (windowRun.foldl apply phoneNetwork).bridge,
        (NetPacket.new q.delivery.data).bind NetPacket.msgType = some .broadcast := by
      decide
    obtain ⟨q, hm, ht⟩ := hq
    exact ⟨_, hr windowRun, q, hm, ht, fun ⟨_, _, h⟩ => h.msgType_ne ht⟩

end RelayState

end Vntc
