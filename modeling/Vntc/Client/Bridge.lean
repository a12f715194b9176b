import Vntc.Server.Relay.Bridge

/-!
# The client's checks of relayed IPv4 packets

`wireguard_bridge.rs` of `vnt-core`: what a VNT client checks of a packet that it relays to a
WireGuard peer, and of a frame with such a packet that it gets from the server. The checks answer
with the addresses of the packet or with nothing; the order in which they look at the addresses is
not that of the server.

* `validateInnerIpv4_eq_some`, `validateBroadcastInnerIpv4_eq_some`: what the checks accept. Those
  for subnets make one test, as in `unless_eq_some`.
* `validateRelay_eq_some`, `unlessHeader_eq_some`: the same for the frames.
-/

namespace Vntc

open Lib

namespace Client

/-- The address of a client in its network, as the server gave it. -/
structure NetworkAddr where
  gateway : Ipv4Addr
  broadcast : Ipv4Addr
  ip : Ipv4Addr
  prefixLen : Nat
  prefix_le : prefixLen ≤ 32

namespace NetworkAddr

def network (addr : NetworkAddr) : Ipv4Net := ⟨addr.ip, addr.prefixLen, addr.prefix_le⟩

/-- What a client keeps of the answer to its registration: its address, the prefix length and the
gateway. -/
def ofReg (net : Ipv4Net) (gateway ip : Ipv4Addr) : NetworkAddr where
  gateway := gateway
  broadcast := Ipv4Net.broadcast ⟨ip, net.prefixLen, net.prefix_le⟩
  ip := ip
  prefixLen := net.prefixLen
  prefix_le := net.prefix_le

section
variable {net : Ipv4Net} {gateway ip : Ipv4Addr} (h : net.contains ip = true)
include h

/-- The client's network is the server's. -/
theorem range_ofReg : (ofReg net gateway ip).network.range = net.range :=
  net.range_of_contains rfl h

theorem network_ofReg : (ofReg net gateway ip).network.network = net.network :=
  congrArg Prod.fst (range_ofReg h)

theorem broadcast_ofReg : (ofReg net gateway ip).network.broadcast = net.broadcast :=
  congrArg Prod.snd (range_ofReg h)

theorem contains_ofReg (a : Ipv4Addr) :
    (ofReg net gateway ip).network.contains a = net.contains a := by
  rw [Ipv4Net.contains, network_ofReg h, broadcast_ofReg h, Ipv4Net.contains]

end

end NetworkAddr

/-! ## The frame -/

/-- The types of frames that a client knows: those of the server and the probes of relays. -/
inductive MsgType
  | shared (kind : Vntc.MsgType)
  | relayProbe
  | relayProbeReply
  deriving DecidableEq

def MsgType.ofByte : Nat → Option MsgType
  | 16 => some relayProbe
  | 19 => some relayProbeReply
  | n => (Vntc.MsgType.ofByte n).map shared

theorem MsgType.ofByte_eq_shared {n : Nat} {kind : Vntc.MsgType} :
    ofByte n = some (.shared kind) ↔ Vntc.MsgType.ofByte n = some kind := by
  unfold ofByte
  split
  · exact ⟨fun h => (by cases h), fun h => (by cases h)⟩
  · exact ⟨fun h => (by cases h), fun h => (by cases h)⟩
  · simp only [Option.map_eq_some_iff, shared.injEq, exists_eq_right]

section
variable (packet : NetPacket)

def msgType : Option MsgType := MsgType.ofByte (packet.buffer.byteAt 0 % 2 ^ 7)

/-- The payload is one of the packets of an error correcting code. -/
def isFec : Bool := (packet.buffer.byteAt 2).testBit 5

end

/-! ## The packet -/

/-- What is read and then not refused. -/
theorem unless_eq_some {α : Type} {o : Option α} {p : α → Prop} [DecidablePred p] {a : α} :
    (o >>= fun a => if p a then none else some a) = some a ↔ o = some a ∧ ¬ p a := by
  simp only [Option.bind_eq_bind, Option.bind_eq_some_iff, Option.ite_none_left_eq_some,
    Option.some_inj, exists_eq_right_right]

def parseUnboundInnerIpv4 (packet : Bytes) : Option Ipv4Route :=
  if ¬ (20 ≤ packet.length ∧ packet.length ≤ maxInnerIpv4PacketSize) then none
  else if packet.length < Ipv4Packet.minimumPacketSize then none
  else if Ipv4Packet.version packet ≠ 4 then none
  else
    let headerLength := Ipv4Packet.headerLength packet
    if headerLength < 20 ∨ packet.length < headerLength then none
    else if Ipv4Packet.totalLength packet ≠ packet.length then none
    else some ⟨Ipv4Packet.source packet, Ipv4Packet.destination packet⟩

def parseInnerIpv4 (packet : Bytes) (expectedSource : Ipv4Addr) : Option Ipv4Route := do
  let route ← parseUnboundInnerIpv4 packet
  if route.source = expectedSource then some route else none

section
variable (packet : Bytes) (expectedSource expectedDestination : Ipv4Addr) (addr : NetworkAddr)

def validateInnerIpv4 (expectedDestination : Option Ipv4Addr) : Option Ipv4Route := do
  let route ← parseInnerIpv4 packet expectedSource
  if expectedDestination.any (route.destination != ·) then none
  else
    let network := addr.network
    if ¬ network.contains route.source = true ∨ ¬ network.contains route.destination = true ∨
        route.source = network.network ∨ route.source = network.broadcast ∨
        route.source = addr.gateway ∨ route.source.isMulticast = true ∨
        route.destination = Ipv4Addr.broadcast ∨ route.destination.isMulticast = true ∨
        route.destination = network.network ∨ route.destination = network.broadcast ∨
        route.destination = addr.gateway then none
    else some route

def validateBroadcastInnerIpv4 : Option Ipv4Route := do
  let route ← parseInnerIpv4 packet expectedSource
  let network := addr.network
  if ¬ network.contains route.source = true ∨ route.source = network.network ∨
      route.source = network.broadcast ∨ route.source = addr.gateway ∨
      route.source.isMulticast = true then none
  else if route.destination ≠ Ipv4Addr.broadcast ∧ route.destination ≠ network.broadcast ∧
      ¬ route.destination.isMulticast = true then none
  else some route

def validateSubnetInnerIpv4 : Option Ipv4Route := do
  let route ← parseInnerIpv4 packet expectedSource
  let network := addr.network
  if ¬ network.contains route.source = true ∨ route.source = network.network ∨
      route.source = network.broadcast ∨ route.source = addr.gateway ∨
      route.destination.isUnspecified = true ∨ route.destination = Ipv4Addr.broadcast ∨
      route.destination.isMulticast = true ∨ network.contains route.destination = true then none
  else some route

/-- The packet of a LAN behind this client for a WireGuard peer. -/
def validateSubnetReplyInnerIpv4 : Option Ipv4Route := do
  let route ← parseUnboundInnerIpv4 packet
  let network := addr.network
  if route.destination ≠ expectedDestination ∨ ¬ network.contains route.destination = true ∨
      route.destination = network.network ∨ route.destination = network.broadcast ∨
      route.destination = addr.gateway ∨ route.source.isUnspecified = true ∨
      route.source = Ipv4Addr.broadcast ∨ route.source.isMulticast = true ∨
      network.contains route.source = true then none
  else some route

end

section
variable {packet : Bytes} {expectedSource expectedDestination : Ipv4Addr} {addr : NetworkAddr}
  {route : Ipv4Route}

theorem parseUnboundInnerIpv4_eq_some :
    parseUnboundInnerIpv4 packet = some route ↔ PlainIpv4 packet ∧ route = .ofPacket packet := by
  simp only [parseUnboundInnerIpv4, Option.ite_none_left_eq_some, not_not, not_or, not_lt,
    ne_eq, Option.some_inj]
  constructor
  · rintro ⟨⟨h1, h2⟩, -, h3, h4, h5, rfl⟩
    exact ⟨⟨h1, h2, h3, h4, h5⟩, rfl⟩
  · rintro ⟨h, rfl⟩
    exact ⟨⟨h.min_le, h.le_max⟩, h.min_le, h.version, h.header, h.total, rfl⟩

theorem parseInnerIpv4_eq_some :
    parseInnerIpv4 packet expectedSource = some route ↔
      (PlainIpv4 packet ∧ route = .ofPacket packet) ∧ route.source = expectedSource := by
  unfold parseInnerIpv4
  rw [Option.bind_eq_bind, Option.bind_eq_some_iff]
  simp only [Option.ite_none_right_eq_some, Option.some_inj, parseUnboundInnerIpv4_eq_some]
  constructor
  · rintro ⟨r, hr, hs, rfl⟩
    exact ⟨hr, hs⟩
  · rintro ⟨hr, hs⟩
    exact ⟨route, hr, hs, rfl⟩

theorem validateInnerIpv4_eq_some {expectedDestination : Option Ipv4Addr} :
    validateInnerIpv4 packet expectedSource addr expectedDestination = some route ↔
      ((PlainIpv4 packet ∧ route = .ofPacket packet) ∧ route.source = expectedSource) ∧
      (∀ ip ∈ expectedDestination, route.destination = ip) ∧
      ¬ (¬ addr.network.contains route.source = true ∨
        ¬ addr.network.contains route.destination = true ∨
        route.source = addr.network.network ∨ route.source = addr.network.broadcast ∨
        route.source = addr.gateway ∨ route.source.isMulticast = true ∨
        route.destination = Ipv4Addr.broadcast ∨ route.destination.isMulticast = true ∨
        route.destination = addr.network.network ∨ route.destination = addr.network.broadcast ∨
        route.destination = addr.gateway) := by
  unfold validateInnerIpv4
  rw [Option.bind_eq_bind, Option.bind_eq_some_iff]
  simp only [Option.ite_none_left_eq_some, Option.some_inj, parseInnerIpv4_eq_some]
  have hd (r : Ipv4Route) : ¬ expectedDestination.any (r.destination != ·) = true ↔
      ∀ ip ∈ expectedDestination, r.destination = ip := by
    cases expectedDestination <;> simp
  constructor
  · rintro ⟨r, hr, he, hc, rfl⟩
    exact ⟨hr, (hd r).mp he, hc⟩
  · rintro ⟨hr, he, hc⟩
    exact ⟨route, hr, (hd route).mpr he, hc, rfl⟩

theorem validateBroadcastInnerIpv4_eq_some :
    validateBroadcastInnerIpv4 packet expectedSource addr = some route ↔
      ((PlainIpv4 packet ∧ route = .ofPacket packet) ∧ route.source = expectedSource) ∧
      ¬ (¬ addr.network.contains route.source = true ∨ route.source = addr.network.network ∨
        route.source = addr.network.broadcast ∨ route.source = addr.gateway ∨
        route.source.isMulticast = true) ∧
      ¬ (route.destination ≠ Ipv4Addr.broadcast ∧ route.destination ≠ addr.network.broadcast ∧
        ¬ route.destination.isMulticast = true) := by
  unfold validateBroadcastInnerIpv4
  rw [Option.bind_eq_bind, Option.bind_eq_some_iff]
  simp only [Option.ite_none_left_eq_some, Option.some_inj, parseInnerIpv4_eq_some]
  constructor
  · rintro ⟨r, hr, hs, hd, rfl⟩
    exact ⟨hr, hs, hd⟩
  · rintro ⟨hr, hs, hd⟩
    exact ⟨route, hr, hs, hd, rfl⟩

end

/-! ## Frames of the server -/

section
variable (packet : NetPacket) (expectedDestination : Ipv4Addr) (addr : NetworkAddr)

/-- What the three checks refuse of a header. -/
def refusesHeader (kind : Vntc.MsgType) : Bool :=
  msgType packet != some (.shared kind) || packet.isCompressed || packet.isGateway ||
    isFec packet || packet.ttl == 0

def validateRelay : Option Ipv4Route :=
  if refusesHeader packet .wireGuardRelay then none
  else do
    let route ← validateInnerIpv4 packet.payload packet.srcId addr (some expectedDestination)
    if packet.destId ≠ route.destination then none else some route

def validateBroadcastRelay : Option Ipv4Route :=
  if refusesHeader packet .wireGuardBroadcastRelay ∨ packet.destId ≠ expectedDestination then none
  else validateBroadcastInnerIpv4 packet.payload packet.srcId addr

def validateSubnetRelay : Option Ipv4Route :=
  if refusesHeader packet .wireGuardSubnetRelay ∨ packet.destId ≠ expectedDestination then none
  else validateSubnetInnerIpv4 packet.payload packet.srcId addr

end

section
variable {packet : NetPacket} {expectedDestination : Ipv4Addr} {addr : NetworkAddr}
  {route : Ipv4Route}

theorem refusesHeader_eq_false {kind : Vntc.MsgType} :
    refusesHeader packet kind = false ↔
      Envelope packet kind packet.srcId ∧ isFec packet = false ∧ packet.ttl ≠ 0 := by
  have hm : msgType packet = some (.shared kind) ↔ packet.msgType = some kind :=
    MsgType.ofByte_eq_shared
  simp only [refusesHeader, Bool.or_eq_false_iff, bne_eq_false_iff_eq, beq_eq_false_iff_ne, hm]
  constructor
  · rintro ⟨⟨⟨⟨ht, hc⟩, hg⟩, hf⟩, h0⟩
    exact ⟨⟨ht, hc, hg, rfl⟩, hf, h0⟩
  · rintro ⟨he, hf, h0⟩
    exact ⟨⟨⟨⟨he.msgType, he.isCompressed⟩, he.isGateway⟩, hf⟩, h0⟩

theorem validateRelay_eq_some :
    validateRelay packet expectedDestination addr = some route ↔
      refusesHeader packet .wireGuardRelay = false ∧
      validateInnerIpv4 packet.payload packet.srcId addr (some expectedDestination) = some route ∧
      packet.destId = route.destination := by
  unfold validateRelay
  rw [Option.ite_none_left_eq_some, Option.bind_eq_bind, Option.bind_eq_some_iff,
    Bool.not_eq_true]
  simp only [Option.ite_none_left_eq_some, Option.some_inj, ne_eq, not_not]
  constructor
  · rintro ⟨hh, r, hv, hd, rfl⟩
    exact ⟨hh, hv, hd⟩
  · rintro ⟨hh, hv, hd⟩
    exact ⟨hh, route, hv, hd, rfl⟩

/-- The checks of a frame with its destination in the header. -/
theorem unlessHeader_eq_some {kind : Vntc.MsgType} {o : Option Ipv4Route} :
    (if refusesHeader packet kind ∨ packet.destId ≠ expectedDestination then none else o) =
        some route ↔
      (refusesHeader packet kind = false ∧ packet.destId = expectedDestination) ∧
        o = some route := by
  rw [Option.ite_none_left_eq_some, not_or, Bool.not_eq_true, ne_eq, not_not]

end

end Client

end Vntc
