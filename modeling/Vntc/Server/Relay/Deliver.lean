import Vntc.Server.Relay.Bridge
import Vntc.Server.Run

/-!
# Delivery of frames

What a server does with a frame of a client (`handle_data` of `server/control_server/handler.rs`)
and how frames get into the queues of other clients (`try_deliver` and `relay_wireguard_broadcast`
of `server/network_state_provider.rs`).

A call reads the two maps of a network at one moment and gives the list of frames for queues
(`Delivery`). The forwarding to other servers and the answers on the client's own queue
(`handle_gateway`) are not deliveries.
-/

namespace Vntc

open Lib

/-- A frame for the queue of an address. A queue that is full or closed drops it. -/
structure Delivery where
  target : Ipv4Addr
  sender : NetworkSender
  data : Bytes
  deriving DecidableEq

/-- The result of a local delivery; what the queue does with the frame is not told apart. -/
inductive LocalDelivery
  | notFound
  | rejected
  | sent (d : Delivery)
  deriving DecidableEq

def LocalDelivery.deliveries : LocalDelivery → List Delivery
  | .sent d => [d]
  | _ => []

theorem LocalDelivery.mem_deliveries {r : LocalDelivery} {d : Delivery} :
    d ∈ r.deliveries ↔ r = .sent d := by
  cases r <;> simp [deliveries, eq_comm]

def clientCapWireguardSubnetRelay : BitVec 64 := 1

def clientCapWireguardBroadcastRelay : BitVec 64 := 2

/-- The client has the capability. -/
def hasCapability (capabilities cap : BitVec 64) : Bool := capabilities &&& cap == cap

/-- Which frame goes from which origin to which endpoint. -/
def allowed : MsgType → RelayOrigin → OnlineEndpoint → Bool
  | .wireGuardRelay, .vnt, .wireGuard .. => true
  | .wireGuardRelay, .wireGuard, .wireGuard .. => true
  | .wireGuardRelay, .wireGuard, .vnt _ true _ true => true
  | .wireGuardRelay, _, _ => false
  | .wireGuardSubnetRelay, .wireGuard, .vnt _ true capabilities true =>
    hasCapability capabilities clientCapWireguardSubnetRelay
  | .wireGuardSubnetRelay, .vnt, .wireGuard .. => true
  | .wireGuardSubnetRelay, _, _ => false
  | .wireGuardBroadcastRelay, .vnt, .wireGuard .. => true
  | .wireGuardBroadcastRelay, .wireGuard, .wireGuard .. => true
  | .wireGuardBroadcastRelay, .wireGuard, .vnt _ true capabilities true =>
    hasCapability capabilities clientCapWireguardBroadcastRelay
  | .wireGuardBroadcastRelay, _, _ => false
  | _, _, .vnt .. => true
  | _, _, .wireGuard .. => false

variable {endpoint : OnlineEndpoint} {kind : MsgType}

/-- A WireGuard endpoint takes relayed packets only, and of a LAN only those of VNT clients. -/
theorem allowed_wireGuard {origin : RelayOrigin}
    (hw : endpoint.isWireGuard = true) (h : allowed kind origin endpoint = true) :
    kind = .wireGuardRelay ∨ kind = .wireGuardBroadcastRelay ∨
      kind = .wireGuardSubnetRelay ∧ origin = .vnt := by
  cases endpoint with
  | vnt => cases hw
  | wireGuard => cases kind <;> cases origin <;> simp_all [allowed]

structure SelectiveBroadcast where
  ips : List Ipv4Addr
  data : Bytes

namespace NetworkState

variable (st : NetworkState)

def tryDeliver (destination : Ipv4Addr) (data : Bytes) (origin : RelayOrigin) : LocalDelivery :=
  match st.onlineEndpoints.lookup destination with
  | none => .notFound
  | some endpoint =>
    match (NetPacket.new data).bind NetPacket.msgType with
    | none => .rejected
    | some messageType =>
      if allowed messageType origin endpoint then
        match st.senderMap.lookup destination with
        | none => .notFound
        | some sender => .sent ⟨destination, sender, data⟩
      else .rejected

/-- The endpoints that get a broadcast of an IPv4 packet. -/
def broadcastTargets (source : Ipv4Addr) (origin : RelayOrigin) : List Ipv4Addr :=
  st.onlineEndpoints.entries.filterMap fun ⟨target, endpoint⟩ =>
    if target = source then none
    else match origin, endpoint with
      | .vnt, .wireGuard .. => some target
      | .wireGuard, .wireGuard .. => some target
      | .wireGuard, .vnt _ true capabilities true =>
        if hasCapability capabilities clientCapWireguardBroadcastRelay then some target else none
      | _, _ => none

def relayWireguardBroadcast (source : Ipv4Addr) (inner : Bytes) (origin : RelayOrigin) :
    Except RelayValidationError (List Delivery) := do
  let route ← validateBroadcastInnerIpv4 inner source st.net st.gateway
  .ok ((st.broadcastTargets source origin).flatMap fun target =>
    (st.tryDeliver target (buildWireguardBroadcastRelay inner route target) origin).deliveries)

/-- The local part of `route_wireguard_relay`: another server is asked only if the destination is
not found here. -/
def routeWireguardRelay (destination : Ipv4Addr) (data : Bytes) (origin : RelayOrigin) :
    List Delivery :=
  (st.tryDeliver destination data origin).deliveries

/-- The local part of `route_wireguard_broadcast`. -/
def routeWireguardBroadcast (source : Ipv4Addr) (inner : Bytes) (origin : RelayOrigin) :
    List Delivery :=
  (st.relayWireguardBroadcast source inner origin).toOption.getD []

/-- A frame for the queue of every wanted address that is not a WireGuard endpoint. -/
def fanOut (wanted : Ipv4Addr → Bool) (data : Bytes) : List Delivery :=
  (st.senderMap.entries.filter fun e => wanted e.1 && !st.isWireguardEndpoint e.1).map
    fun e => ⟨e.1, e.2, data⟩

end NetworkState

/-! ## Frames of clients -/

/-- Why a frame ends the connection. -/
inductive DataError
  | inactiveSession
  | invalidInput
  | invalidMsgType (value : Nat)
  | leaseExpired
  | decode
  deriving DecidableEq

/-- What `handle_data` gets from elsewhere. -/
structure DataEnv where
  /-- `SelectiveBroadcast::from_slice`. -/
  decode : Bytes → Option SelectiveBroadcast
  clusterLeaseValid : Bool
  /-- There is another server with a route to the destination, and it took the frame. -/
  forwarded : Bool

/-- The packet for the next hop, if it passed its checks and has one left. -/
def NetPacket.nextHop (packet : NetPacket) (checked : Bool) : Option NetPacket :=
  if checked then packet.decrTtl else none

namespace NetworkState

variable (st : NetworkState)

/-- A packet inside the frame goes out to a choice of clients. The packet is the sender's: of its
header only the hop count is looked at. -/
def selectiveBroadcast (env : DataEnv) (packet : NetPacket)
    (chosen : List Ipv4Addr → Ipv4Addr → Bool) : Except DataError (List Delivery) := do
  let broadcast ← orStop (env.decode packet.payload) .decode
  let inner ← orStop (NetPacket.new broadcast.data) .invalidInput
  match inner.decrTtl with
  | none => .ok []
  | some inner =>
    .ok (st.fanOut (fun ip => chosen broadcast.ips ip && decide (ip ≠ packet.srcId)) inner.buffer)

/-- A frame that is not for the server, by its type. -/
def handleFrame (env : DataEnv) (session : Session) (packet : NetPacket) :
    MsgType → Except DataError (List Delivery)
  | .turn | .ping | .pong | .punchStart1 | .punchStart2 | .quic =>
    match packet.decrTtl with
    | none => .ok []
    | some next =>
      .ok (if env.forwarded then []
        else (st.tryDeliver packet.destId next.buffer .vnt).deliveries)
  | .wireGuardRelay =>
    match packet.nextHop (session.allowWireGuard &&
        (validateVntRelay packet session.ip st.net st.gateway).isOk) with
    | none => .ok []
    | some next => .ok (st.routeWireguardRelay packet.destId next.buffer .vnt)
  | .wireGuardBroadcastRelay =>
    match packet.nextHop (session.allowWireGuard &&
        hasCapability session.clientCapabilities clientCapWireguardBroadcastRelay &&
        (validateVntBroadcastRelay packet session.ip st.net st.gateway).isOk) with
    | none => .ok []
    | some next => .ok (st.routeWireguardBroadcast session.ip next.payload .vnt)
  | .wireGuardSubnetRelay =>
    match packet.nextHop (session.allowWireGuard &&
        hasCapability session.clientCapabilities clientCapWireguardSubnetRelay &&
        (validateVntSubnetRelay packet session.ip st.net st.gateway).isOk) with
    | none => .ok []
    | some next => .ok (st.routeWireguardRelay packet.destId next.buffer .vnt)
  | .broadcast =>
    match packet.decrTtl with
    | none => .ok []
    | some next => .ok (st.fanOut (fun ip => decide (ip ≠ packet.srcId)) next.buffer)
  | .excludeBroadcast => st.selectiveBroadcast env packet fun ips ip => !ips.contains ip
  | .targetBroadcast => st.selectiveBroadcast env packet fun ips ip => ips.contains ip
  | _ => .ok []

/-- A frame of a client. -/
def handleData (env : DataEnv) (session : Option Session) (buf : Bytes) :
    Except DataError (List Delivery) := do
  let session ← orStop session .inactiveSession
  -- Before its confirmation a client can only confirm itself.
  if session.registrationStatus = .pendingConfirmation then .ok []
  else
    let packet ← orStop (NetPacket.new buf) .invalidInput
    let msgType ← orStop packet.msgType (.invalidMsgType (buf.byteAt 0 % 2 ^ 7))
    ensure (env.clusterLeaseValid = true) .leaseExpired
    -- A frame to the server is answered on the client's own queue.
    if packet.isGateway then .ok [] else st.handleFrame env session packet msgType

/-! ## Where a delivery comes from -/

variable {st}

variable {d : Delivery}

variable {data : Bytes} {origin : RelayOrigin}

theorem tryDeliver_sent {destination : Ipv4Addr}
    (h : st.tryDeliver destination data origin = .sent d) :
    d.target = destination ∧ d.data = data ∧ st.senderMap.lookup destination = some d.sender ∧
      ∃ endpoint packet kind, st.onlineEndpoints.lookup destination = some endpoint ∧
        NetPacket.new data = some packet ∧ packet.msgType = some kind ∧
        allowed kind origin endpoint = true := by
  unfold tryDeliver at h
  split at h
  · cases h
  · rename_i endpoint he
    split at h
    · cases h
    · rename_i kind hk
      obtain ⟨packet, hp, hk⟩ := Option.bind_eq_some_iff.mp hk
      split at h
      · rename_i ha
        split at h
        · cases h
        · rename_i hs
          cases h
          exact ⟨rfl, rfl, hs, endpoint, packet, kind, he, hp, hk, ha⟩
      · cases h

theorem mem_fanOut {wanted : Ipv4Addr → Bool} :
    d ∈ st.fanOut wanted data ↔
      st.senderMap.lookup d.target = some d.sender ∧ wanted d.target = true ∧
        st.isWireguardEndpoint d.target = false ∧ d.data = data := by
  simp only [fanOut, List.mem_map, List.mem_filter, Bool.and_eq_true, Bool.not_eq_true']
  constructor
  · rintro ⟨⟨ip, sender⟩, ⟨hm, hw, he⟩, rfl⟩
    exact ⟨HashMap.mem_entries.mp hm, hw, he, rfl⟩
  · rintro ⟨hs, hw, he, rfl⟩
    exact ⟨⟨d.target, d.sender⟩, ⟨HashMap.mem_entries.mpr hs, hw, he⟩, rfl⟩

/-- A broadcast IPv4 packet goes out in frames from its source, one for each target. -/
theorem mem_routeWireguardBroadcast {source : Ipv4Addr} {inner : Bytes}
    (h : d ∈ st.routeWireguardBroadcast source inner origin) :
    ∃ route target, validateBroadcastInnerIpv4 inner source st.net st.gateway = .ok route ∧
      st.tryDeliver target (buildWireguardBroadcastRelay inner route target) origin = .sent d := by
  unfold routeWireguardBroadcast relayWireguardBroadcast at h
  cases hv : validateBroadcastInnerIpv4 inner source st.net st.gateway with
  | error => rw [hv] at h; cases h
  | ok route =>
    rw [hv] at h
    obtain ⟨target, -, hd⟩ := List.mem_flatMap.mp h
    exact ⟨route, target, rfl, LocalDelivery.mem_deliveries.mp hd⟩

theorem nextHop_some {packet next : NetPacket} {allowed : Bool}
    {checked : Except RelayValidationError Ipv4Route}
    (h : packet.nextHop (allowed && checked.isOk) = some next) :
    ∃ route, checked = .ok route ∧ packet.decrTtl = some next := by
  unfold NetPacket.nextHop at h
  split at h
  · rename_i hc
    obtain ⟨route, hr⟩ := isOk_iff.mp (Bool.and_eq_true _ _ ▸ hc).2
    exact ⟨route, hr, h⟩
  · cases h

end NetworkState

/-- The header of a frame that is not for the server. -/
structure Frame (buf : Bytes) (packet : NetPacket) (kind : MsgType) : Prop where
  new : NetPacket.new buf = some packet
  msgType : packet.msgType = some kind
  isGateway : packet.isGateway = false

/-- The choice of a selective broadcast. -/
def chosenBy (kind : MsgType) (ips : List Ipv4Addr) (ip : Ipv4Addr) : Bool :=
  match kind with
  | .excludeBroadcast => !ips.contains ip
  | .targetBroadcast => ips.contains ip
  | _ => false

/-- Where a delivery of a frame can come from. -/
inductive Handled (st : NetworkState) (env : DataEnv) (session : Session) (buf : Bytes)
    (d : Delivery) : Prop
  | direct {packet next : NetPacket} {kind : MsgType} (hf : Frame buf packet kind)
      (hk : kind.isWireGuardRelay = false) (hn : packet.decrTtl = some next)
      (hd : st.tryDeliver packet.destId next.buffer .vnt = .sent d)
  | relay {packet next : NetPacket} {route : Ipv4Route}
      (hv : validateVntRelay packet session.ip st.net st.gateway = .ok route)
      (hn : packet.decrTtl = some next)
      (hd : st.tryDeliver packet.destId next.buffer .vnt = .sent d)
  | subnetRelay {packet next : NetPacket} {route : Ipv4Route}
      (hv : validateVntSubnetRelay packet session.ip st.net st.gateway = .ok route)
      (hn : packet.decrTtl = some next)
      (hd : st.tryDeliver packet.destId next.buffer .vnt = .sent d)
  | broadcastRelay {inner : Bytes} (hd : d ∈ st.routeWireguardBroadcast session.ip inner .vnt)
  | broadcast {packet next : NetPacket} (hf : Frame buf packet .broadcast)
      (hn : packet.decrTtl = some next)
      (hd : d ∈ st.fanOut (fun ip => decide (ip ≠ packet.srcId)) next.buffer)
  | selective {packet inner next : NetPacket} {kind : MsgType} {broadcast : SelectiveBroadcast}
      (hf : Frame buf packet kind) (hb : env.decode packet.payload = some broadcast)
      (hi : NetPacket.new broadcast.data = some inner) (hn : inner.decrTtl = some next)
      (hd : d ∈ st.fanOut
        (fun ip => chosenBy kind broadcast.ips ip && decide (ip ≠ packet.srcId)) next.buffer)

namespace NetworkState

variable {st : NetworkState} {env : DataEnv} {session : Session} {buf : Bytes}

variable {d : Delivery} {ds : List Delivery} {packet : NetPacket}

theorem selectiveBroadcast_ok {chosen : List Ipv4Addr → Ipv4Addr → Bool}
    (h : st.selectiveBroadcast env packet chosen = .ok ds) (hd : d ∈ ds) :
    ∃ broadcast inner next, env.decode packet.payload = some broadcast ∧
      NetPacket.new broadcast.data = some inner ∧ inner.decrTtl = some next ∧
      d ∈ st.fanOut (fun ip => chosen broadcast.ips ip && decide (ip ≠ packet.srcId))
        next.buffer := by
  simp only [selectiveBroadcast, bind_eq_ok, orStop_ok] at h
  obtain ⟨broadcast, hb, inner, hi, h⟩ := h
  split at h
  · cases h; cases hd
  · rename_i next hn
    cases h
    exact ⟨broadcast, inner, next, hb, hi, hn, hd⟩

/-- A delivery of a frame that goes one hop further, if it can. -/
theorem hop_of_mem {hop : Option NetPacket} {f : NetPacket → List Delivery}
    (h : (match hop with
      | none => .ok []
      | some next => .ok (f next)) = (.ok ds : Except DataError (List Delivery))) (hd : d ∈ ds) :
    ∃ next, hop = some next ∧ d ∈ f next := by
  split at h
  · cases h; cases hd
  · cases h; exact ⟨_, rfl, hd⟩

variable {kind : MsgType}

/-- A frame that is only forwarded. -/
theorem handled_direct (hf : Frame buf packet kind)
    (hk : kind.isWireGuardRelay = false)
    (h : (match packet.decrTtl with
      | none => .ok []
      | some next =>
        .ok (if env.forwarded then []
          else (st.tryDeliver packet.destId next.buffer .vnt).deliveries)) =
      (.ok ds : Except DataError (List Delivery))) (hd : d ∈ ds) :
    Handled st env session buf d := by
  obtain ⟨next, hn, hd⟩ := hop_of_mem h hd
  split at hd
  · cases hd
  · exact .direct hf hk hn (LocalDelivery.mem_deliveries.mp hd)

theorem handled_of_handleFrame (hf : Frame buf packet kind)
    (h : st.handleFrame env session packet kind = .ok ds)
    (hd : d ∈ ds) : Handled st env session buf d := by
  cases kind with
  | turn | ping | pong | punchStart1 | punchStart2 | quic => exact handled_direct hf rfl h hd
  | wireGuardRelay =>
    simp only [handleFrame] at h
    obtain ⟨next, hn, hd⟩ := hop_of_mem h hd
    obtain ⟨route, hv, hn⟩ := nextHop_some hn
    exact .relay hv hn (LocalDelivery.mem_deliveries.mp hd)
  | wireGuardBroadcastRelay =>
    simp only [handleFrame] at h
    obtain ⟨next, -, hd⟩ := hop_of_mem h hd
    exact .broadcastRelay hd
  | wireGuardSubnetRelay =>
    simp only [handleFrame] at h
    obtain ⟨next, hn, hd⟩ := hop_of_mem h hd
    obtain ⟨route, hv, hn⟩ := nextHop_some hn
    exact .subnetRelay hv hn (LocalDelivery.mem_deliveries.mp hd)
  | broadcast =>
    simp only [handleFrame] at h
    obtain ⟨next, hn, hd⟩ := hop_of_mem h hd
    exact .broadcast hf hn hd
  | excludeBroadcast | targetBroadcast =>
    simp only [handleFrame] at h
    obtain ⟨broadcast, inner, next, hb, hi, hn, hd⟩ := selectiveBroadcast_ok h hd
    exact .selective hf hb hi hn hd
  | pingTurn | pongTurn | punchReq | punchRes | pushClientIps | rpcReq | rpcRes
  | wireGuardP2pControl => cases h; cases hd

/-- A frame that is accepted. -/
theorem handleData_ok :
    st.handleData env (some session) buf = .ok ds ↔
      session.registrationStatus = .pendingConfirmation ∧ ds = [] ∨
      session.registrationStatus ≠ .pendingConfirmation ∧ env.clusterLeaseValid = true ∧
        ∃ packet kind, NetPacket.new buf = some packet ∧ packet.msgType = some kind ∧
          (packet.isGateway = true ∧ ds = [] ∨
            packet.isGateway = false ∧ st.handleFrame env session packet kind = .ok ds) := by
  simp only [handleData, bind_eq_ok, orStop_ok, Option.some.injEq, exists_eq_left']
  split
  · rename_i hp
    constructor
    · rintro ⟨⟩
      exact .inl ⟨hp, rfl⟩
    · rintro (⟨-, rfl⟩ | ⟨hn, -⟩)
      · rfl
      · exact absurd hp hn
  · rename_i hp
    simp only [bind_eq_ok, orStop_ok, ensure_ok, hp, false_and, false_or, ne_eq, not_false_eq_true,
      true_and]
    constructor
    · rintro ⟨packet, hn, kind, hk, -, hl, h⟩
      refine ⟨hl, packet, kind, hn, hk, ?_⟩
      split at h
      · rename_i hg; cases h; exact .inl ⟨hg, rfl⟩
      · rename_i hg; exact .inr ⟨by simpa using hg, h⟩
    · rintro ⟨hl, packet, kind, hn, hk, h⟩
      refine ⟨packet, hn, kind, hk, (), hl, ?_⟩
      rcases h with ⟨hg, rfl⟩ | ⟨hg, h⟩
      · rw [if_pos hg]
      · rw [if_neg (by simp [hg])]; exact h

theorem handled_of_mem (h : st.handleData env (some session) buf = .ok ds)
    (hd : d ∈ ds) : Handled st env session buf d := by
  rcases handleData_ok.mp h with ⟨-, rfl⟩ | ⟨-, -, packet, kind, hn, hk, ⟨-, rfl⟩ | ⟨hg, h⟩⟩
  · cases hd
  · cases hd
  · exact handled_of_handleFrame ⟨hn, hk, hg⟩ h hd

end NetworkState

end Vntc
