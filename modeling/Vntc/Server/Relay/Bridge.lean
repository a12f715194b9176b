import Vntc.Lib.Checks
import Vntc.Lib.Ipv4Packet
import Vntc.Server.Relay.Packet

/-!
# Relayed IPv4 packets

`server/wireguard_bridge.rs`: the checks of an IPv4 packet that is relayed from or to a WireGuard
peer, of the frame around it, and the frames that the server builds.

* `parseInnerIpv4_bind`, `checkEnvelope_bind`, `validateInnerIpv4_ok`, ...: what each check accepts,
  exactly.
-/

namespace Vntc

open Lib NetPacket

inductive RelayOrigin
  | vnt
  | wireGuard
  deriving DecidableEq

structure Ipv4Route where
  source : Ipv4Addr
  destination : Ipv4Addr
  deriving DecidableEq

inductive RelayValidationError
  | invalidMessageType
  | invalidFlags
  | expired
  | tooShort
  | tooLarge
  | invalidVersion
  | invalidHeaderLength
  | invalidTotalLength
  | sourceMismatch
  | destinationMismatch
  | invalidDestination
  | destinationOutsideNetwork
  | invalidControlPacket
  deriving DecidableEq

open RelayValidationError

/-! ## The relayed packet -/

def parseUnboundInnerIpv4 (packet : Bytes) : Except RelayValidationError (Ipv4Route × Nat) := do
  ensure (20 ≤ packet.length) tooShort
  ensure (packet.length ≤ maxInnerIpv4PacketSize) tooLarge
  ensure (Ipv4Packet.version packet = 4) invalidVersion
  let headerLength := Ipv4Packet.headerLength packet
  ensure (20 ≤ headerLength ∧ headerLength ≤ packet.length) invalidHeaderLength
  ensure (Ipv4Packet.totalLength packet = packet.length) invalidTotalLength
  .ok (⟨Ipv4Packet.source packet, Ipv4Packet.destination packet⟩, headerLength)

def parseInnerIpv4 (packet : Bytes) (expectedSource : Ipv4Addr) :
    Except RelayValidationError (Ipv4Route × Nat) := do
  let parsed ← parseUnboundInnerIpv4 packet
  ensure (parsed.1.source = expectedSource) sourceMismatch
  .ok parsed

/-- An IPv4 packet as it is relayed: its lengths agree with the buffer and are in the limits. -/
structure PlainIpv4 (packet : Bytes) : Prop where
  min_le : 20 ≤ packet.length
  le_max : packet.length ≤ maxInnerIpv4PacketSize
  version : Ipv4Packet.version packet = 4
  header : 20 ≤ Ipv4Packet.headerLength packet ∧ Ipv4Packet.headerLength packet ≤ packet.length
  total : Ipv4Packet.totalLength packet = packet.length

def Ipv4Route.ofPacket (packet : Bytes) : Ipv4Route :=
  ⟨Ipv4Packet.source packet, Ipv4Packet.destination packet⟩

variable {n : Nat} {packet ipv4 : Bytes} {route : Ipv4Route} {kind : MsgType} {p : NetPacket}
  {source destination : Ipv4Addr}

section
variable {β : Type} {expectedSource : Ipv4Addr} {b : β}
  {f : Ipv4Route × Nat → Except RelayValidationError β}

/-- What follows goes on with the addresses and the length of the header. -/
theorem parseUnboundInnerIpv4_bind :
    (parseUnboundInnerIpv4 packet >>= f) = .ok b ↔
      PlainIpv4 packet ∧ f (.ofPacket packet, Ipv4Packet.headerLength packet) = .ok b := by
  simp only [parseUnboundInnerIpv4, bind_assoc, ensure_bind_ok]
  constructor
  · rintro ⟨h1, h2, h3, h4, h5, h⟩
    exact ⟨⟨h1, h2, h3, h4, h5⟩, h⟩
  · rintro ⟨h, hf⟩
    exact ⟨h.min_le, h.le_max, h.version, h.header, h.total, hf⟩

theorem parseInnerIpv4_bind :
    (parseInnerIpv4 packet expectedSource >>= f) = .ok b ↔
      (PlainIpv4 packet ∧ Ipv4Packet.source packet = expectedSource) ∧
        f (.ofPacket packet, Ipv4Packet.headerLength packet) = .ok b := by
  simp only [parseInnerIpv4, bind_assoc, parseUnboundInnerIpv4_bind, ensure_bind_ok, and_assoc]
  rfl

end

section
variable (packet : Bytes) (expectedSource : Ipv4Addr) (network : Ipv4Net) (gateway : Ipv4Addr)

def validateInnerIpv4 : Except RelayValidationError Ipv4Route := do
  let (route, _) ← parseInnerIpv4 packet expectedSource
  let destination := route.destination
  ensure (¬ (destination = Ipv4Addr.broadcast ∨ destination.isMulticast = true ∨
    destination = network.network ∨ destination = network.broadcast ∨ destination = gateway))
    invalidDestination
  ensure (network.contains destination = true) destinationOutsideNetwork
  .ok route

def validateBroadcastInnerIpv4 : Except RelayValidationError Ipv4Route := do
  let (route, _) ← parseInnerIpv4 packet expectedSource
  ensure (¬ (route.source = gateway ∨ ¬ network.contains route.source = true)) sourceMismatch
  ensure (¬ (route.destination ≠ Ipv4Addr.broadcast ∧ route.destination ≠ network.broadcast ∧
    ¬ route.destination.isMulticast = true)) invalidDestination
  .ok route

def validateSubnetInnerIpv4 (lanNetwork : Ipv4Net) : Except RelayValidationError Ipv4Route := do
  let (route, _) ← parseInnerIpv4 packet expectedSource
  ensure (¬ (¬ network.contains route.source = true ∨ route.source = network.network ∨
    route.source = network.broadcast ∨ route.source = gateway)) sourceMismatch
  ensure (¬ (route.destination.isUnspecified = true ∨ route.destination = Ipv4Addr.broadcast ∨
    route.destination.isMulticast = true ∨ network.contains route.destination = true))
    invalidDestination
  ensure (lanNetwork.contains route.destination = true) destinationOutsideNetwork
  .ok route

end

section
variable {packet : Bytes} {expectedSource : Ipv4Addr} {network : Ipv4Net} {gateway : Ipv4Addr}
  {route : Ipv4Route}

theorem validateInnerIpv4_ok :
    validateInnerIpv4 packet expectedSource network gateway = .ok route ↔
      PlainIpv4 packet ∧ route = .ofPacket packet ∧ route.source = expectedSource ∧
        ¬ (route.destination = Ipv4Addr.broadcast ∨ route.destination.isMulticast = true ∨
          route.destination = network.network ∨ route.destination = network.broadcast ∨
          route.destination = gateway) ∧ network.contains route.destination = true := by
  simp only [validateInnerIpv4, parseInnerIpv4_bind, ensure_bind_ok]
  constructor
  · rintro ⟨⟨hpl, hs⟩, hd, hc, ⟨⟩⟩
    exact ⟨hpl, rfl, hs, hd, hc⟩
  · rintro ⟨hpl, rfl, hs, hd, hc⟩
    exact ⟨⟨hpl, hs⟩, hd, hc, rfl⟩

theorem validateBroadcastInnerIpv4_ok :
    validateBroadcastInnerIpv4 packet expectedSource network gateway = .ok route ↔
      PlainIpv4 packet ∧ route = .ofPacket packet ∧ route.source = expectedSource ∧
        ¬ (route.source = gateway ∨ ¬ network.contains route.source = true) ∧
        ¬ (route.destination ≠ Ipv4Addr.broadcast ∧ route.destination ≠ network.broadcast ∧
          ¬ route.destination.isMulticast = true) := by
  simp only [validateBroadcastInnerIpv4, parseInnerIpv4_bind, ensure_bind_ok]
  constructor
  · rintro ⟨⟨hpl, hs⟩, hd, hc, ⟨⟩⟩
    exact ⟨hpl, rfl, hs, hd, hc⟩
  · rintro ⟨hpl, rfl, hs, hd, hc⟩
    exact ⟨⟨hpl, hs⟩, hd, hc, rfl⟩

theorem validateSubnetInnerIpv4_ok {lanNetwork : Ipv4Net} :
    validateSubnetInnerIpv4 packet expectedSource network gateway lanNetwork = .ok route ↔
      PlainIpv4 packet ∧ route = .ofPacket packet ∧ route.source = expectedSource ∧
        ¬ (¬ network.contains route.source = true ∨ route.source = network.network ∨
          route.source = network.broadcast ∨ route.source = gateway) ∧
        ¬ (route.destination.isUnspecified = true ∨ route.destination = Ipv4Addr.broadcast ∨
          route.destination.isMulticast = true ∨ network.contains route.destination = true) ∧
        lanNetwork.contains route.destination = true := by
  simp only [validateSubnetInnerIpv4, parseInnerIpv4_bind, ensure_bind_ok]
  constructor
  · rintro ⟨⟨hpl, hs⟩, hd, hc, hl, ⟨⟩⟩
    exact ⟨hpl, rfl, hs, hd, hc, hl⟩
  · rintro ⟨hpl, rfl, hs, hd, hc, hl⟩
    exact ⟨⟨hpl, hs⟩, hd, hc, hl, rfl⟩

end

/-- The answer of the gateway to a ping, if the packet is one. -/
def buildGatewayEchoReply (packet : Bytes) (expectedSource gateway : Ipv4Addr) :
    Except RelayValidationError (Option Bytes) := do
  let (route, headerLength) ← parseInnerIpv4 packet expectedSource
  if route.destination ≠ gateway then .ok none
  else if Ipv4Packet.nextLevelProtocol packet ≠ Ipv4Packet.icmp then .ok none
  else
    ensure (Ipv4Packet.fragmentOffset packet = 0 ∧ Ipv4Packet.flags packet % 2 = 0)
      invalidControlPacket
    let icmp : Bytes := packet.drop headerLength
    -- type, code and checksum
    ensure (4 ≤ icmp.length) invalidControlPacket
    if icmp.byteAt 0 ≠ 8 ∨ icmp.length < 8 then .ok none
    else
      let icmp := Bytes.writeU16 (icmp.set 0 0) 2 0
      let icmp := icmp.writeU16 2 (icmp.checksum 1)
      let reply : Bytes := packet.take headerLength ++ icmp
      let reply := (reply.writeU32 12 gateway).writeU32 16 expectedSource
      let reply := reply.writeU16 10 0
      .ok (some (reply.writeU16 10 (Ipv4Packet.headerChecksum reply)))

/-! ## The frame around it -/

section
variable (packet : NetPacket) (expectedSource : Ipv4Addr) (network : Ipv4Net) (gateway : Ipv4Addr)

/-- The checks that the three kinds of frames share. -/
def checkEnvelope (kind : MsgType) : Except RelayValidationError Unit := do
  ensure (packet.msgType = some kind) invalidMessageType
  ensure (¬ (packet.isCompressed = true ∨ packet.isGateway = true)) invalidFlags
  ensure (packet.ttl ≠ 0) expired
  ensure (packet.srcId = expectedSource) sourceMismatch

def validateVntRelay : Except RelayValidationError Ipv4Route := do
  checkEnvelope packet expectedSource .wireGuardRelay
  let route ← validateInnerIpv4 packet.payload expectedSource network gateway
  ensure (packet.destId = route.destination) destinationMismatch
  .ok route

def validateVntBroadcastRelay : Except RelayValidationError Ipv4Route := do
  checkEnvelope packet expectedSource .wireGuardBroadcastRelay
  ensure (packet.destId = Ipv4Addr.broadcast) destinationMismatch
  validateBroadcastInnerIpv4 packet.payload expectedSource network gateway

/-- Here the sender of the frame is the VNT client that is the gateway of a LAN, and the source of
the packet an address of that LAN. -/
def validateVntSubnetRelay : Except RelayValidationError Ipv4Route := do
  checkEnvelope packet expectedSource .wireGuardSubnetRelay
  let target := packet.destId
  ensure (¬ (¬ network.contains target = true ∨ target = network.network ∨
    target = network.broadcast ∨ target = gateway ∨ target = expectedSource)) invalidDestination
  let (route, _) ← parseUnboundInnerIpv4 packet.payload
  ensure (route.destination = target) destinationMismatch
  ensure (¬ (route.source.isUnspecified = true ∨ route.source = Ipv4Addr.broadcast ∨
    route.source.isMulticast = true ∨ network.contains route.source = true)) sourceMismatch
  .ok route

end

/-- A frame for a relayed packet: of the kind, in the clear, from a client and from `source`. -/
structure Envelope (packet : NetPacket) (kind : MsgType) (source : Ipv4Addr) : Prop where
  msgType : packet.msgType = some kind
  isCompressed : packet.isCompressed = false
  isGateway : packet.isGateway = false
  srcId : packet.srcId = source

theorem Envelope.decrTtl {q : NetPacket}
    (h : Envelope p kind source) (hq : p.decrTtl = some q) : Envelope q kind source := by
  obtain ⟨ht, hc, hg, hs, -, -⟩ := decrTtl_some hq
  exact ⟨ht.trans h.msgType, hc.trans h.isCompressed, hg.trans h.isGateway, hs.trans h.srcId⟩

section
variable {packet : NetPacket} {expectedSource : Ipv4Addr} {network : Ipv4Net} {gateway : Ipv4Addr}
  {route : Ipv4Route}

theorem checkEnvelope_bind {kind : MsgType} {f : Unit → Except RelayValidationError Ipv4Route} :
    (checkEnvelope packet expectedSource kind >>= f) = .ok route ↔
      (Envelope packet kind expectedSource ∧ packet.ttl ≠ 0) ∧ f () = .ok route := by
  simp only [checkEnvelope, bind_assoc, ensure_bind_ok, not_or, Bool.not_eq_true]
  constructor
  · rintro ⟨ht, ⟨hc, hg⟩, h0, hs, h⟩
    exact ⟨⟨⟨ht, hc, hg, hs⟩, h0⟩, h⟩
  · rintro ⟨⟨⟨ht, hc, hg, hs⟩, h0⟩, h⟩
    exact ⟨ht, ⟨hc, hg⟩, h0, hs, h⟩

theorem validateVntRelay_ok :
    validateVntRelay packet expectedSource network gateway = .ok route ↔
      (Envelope packet .wireGuardRelay expectedSource ∧ packet.ttl ≠ 0) ∧
        validateInnerIpv4 packet.payload expectedSource network gateway = .ok route ∧
        packet.destId = route.destination := by
  rw [validateVntRelay, checkEnvelope_bind, bind_eq_ok]
  simp only [ensure_bind_ok]
  refine and_congr_right fun _ => ?_
  constructor
  · rintro ⟨_, hr, hd, ⟨⟩⟩
    exact ⟨hr, hd⟩
  · rintro ⟨hr, hd⟩
    exact ⟨_, hr, hd, rfl⟩

theorem validateVntBroadcastRelay_ok :
    validateVntBroadcastRelay packet expectedSource network gateway = .ok route ↔
      (Envelope packet .wireGuardBroadcastRelay expectedSource ∧ packet.ttl ≠ 0) ∧
        packet.destId = Ipv4Addr.broadcast ∧
        validateBroadcastInnerIpv4 packet.payload expectedSource network gateway = .ok route := by
  rw [validateVntBroadcastRelay, checkEnvelope_bind, ensure_bind_ok]

theorem validateVntSubnetRelay_ok :
    validateVntSubnetRelay packet expectedSource network gateway = .ok route ↔
      (Envelope packet .wireGuardSubnetRelay expectedSource ∧ packet.ttl ≠ 0) ∧
        ¬ (¬ network.contains packet.destId = true ∨ packet.destId = network.network ∨
          packet.destId = network.broadcast ∨ packet.destId = gateway ∨
          packet.destId = expectedSource) ∧
        (PlainIpv4 packet.payload ∧ route = .ofPacket packet.payload) ∧
        route.destination = packet.destId ∧
        ¬ (route.source.isUnspecified = true ∨ route.source = Ipv4Addr.broadcast ∨
          route.source.isMulticast = true ∨ network.contains route.source = true) := by
  simp only [validateVntSubnetRelay, checkEnvelope_bind, ensure_bind_ok,
    parseUnboundInnerIpv4_bind]
  constructor
  · rintro ⟨he, ht, hp, hd, hs, ⟨⟩⟩
    exact ⟨he, ht, ⟨hp, rfl⟩, hd, hs⟩
  · rintro ⟨he, ht, ⟨hp, rfl⟩, hd, hs⟩
    exact ⟨he, ht, hp, hd, hs, rfl⟩

end

def relayTtl : Nat := 5

/-- A frame with a complete header. -/
def buildWireguardEnvelope (messageType : MsgType) (ipv4 : Bytes)
    (source destination : Ipv4Addr) : Bytes :=
  [NetPacket.typeByte messageType, UInt8.ofNat (relayTtl * 2 ^ 4 + relayTtl), 0, 0,
    0, 0, 0, 0] ++ (Bytes.ofU32 source ++ (Bytes.ofU32 destination ++ ipv4))

def buildWireguardRelay (ipv4 : Bytes) (route : Ipv4Route) : Bytes :=
  buildWireguardEnvelope .wireGuardRelay ipv4 route.source route.destination

def buildWireguardBroadcastRelay (ipv4 : Bytes) (route : Ipv4Route) (target : Ipv4Addr) : Bytes :=
  buildWireguardEnvelope .wireGuardBroadcastRelay ipv4 route.source target

def buildWireguardSubnetRelay (ipv4 : Bytes) (route : Ipv4Route) (vntGateway : Ipv4Addr) : Bytes :=
  buildWireguardEnvelope .wireGuardSubnetRelay ipv4 route.source vntGateway

/-- A built frame is read as it was built. -/
theorem envelope_build (kind : MsgType) (ipv4 : Bytes) (source destination : Ipv4Addr) :
    ∃ p, new (buildWireguardEnvelope kind ipv4 source destination) = some p ∧
      Envelope p kind source ∧ p.destId = destination ∧ p.payload = ipv4 := by
  have hl : headLength ≤ (buildWireguardEnvelope kind ipv4 source destination).length := by
    simp only [buildWireguardEnvelope, Bytes.ofU32, List.length_append, List.length_cons,
      List.length_nil, headLength]
    omega
  have h2 : Bytes.byteAt (buildWireguardEnvelope kind ipv4 source destination) 2 = 0 := rfl
  refine ⟨⟨_, hl⟩, dif_pos hl, ⟨?_, ?_, ?_, ?_⟩, ?_, rfl⟩
  · exact msgType_of_typeByte rfl
  · rw [isCompressed, h2]; rfl
  · rw [isGateway, h2]; rfl
  · exact Bytes.readU32_ofU32 _ _ _
  · show Bytes.readU32 ((_ ++ (Bytes.ofU32 source ++ (Bytes.ofU32 destination ++ ipv4)))) 12 = _
    exact Bytes.readU32_ofU32 _ _ _

theorem envelope_of_build (h : new (buildWireguardEnvelope kind ipv4 source destination) = some p) :
    Envelope p kind source ∧ p.destId = destination ∧ p.payload = ipv4 := by
  obtain ⟨q, hq, he⟩ := envelope_build kind ipv4 source destination
  cases h.symm.trans hq
  exact he

/-- A built frame has all its hops. -/
theorem ttl_build (h : new (buildWireguardEnvelope kind ipv4 source destination) = some p) :
    p.ttl = relayTtl := by
  have h1 : Bytes.byteAt (buildWireguardEnvelope kind ipv4 source destination) 1 =
      (UInt8.ofNat (relayTtl * 2 ^ 4 + relayTtl)).toNat := rfl
  rw [ttl, buffer_of_new h, h1]
  decide

end Vntc
