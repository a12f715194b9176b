import Vntc.Lib.Bytes
import Vntc.Lib.Ipv4

/-!
# Frames

`NetPacket` of `protocol/ip_packet_protocol.rs`: a header of 16 bytes and a payload.

* byte 0: the message type in the low seven bits;
* byte 1: the maximal hop count in the high four bits, the current one in the low four;
* byte 2: the flags, `0x80` for a compressed payload and `0x40` for a frame to or from the server;
* bytes 4, 8 and 12: sequence number, source and destination.
-/

namespace Vntc

open Lib

inductive MsgType
  | turn
  | broadcast
  | excludeBroadcast
  | targetBroadcast
  | ping
  | pong
  | pingTurn
  | pongTurn
  | punchStart1
  | punchStart2
  | punchReq
  | punchRes
  | pushClientIps
  | rpcReq
  | rpcRes
  | quic
  | wireGuardRelay
  | wireGuardP2pControl
  | wireGuardSubnetRelay
  | wireGuardBroadcastRelay
  deriving DecidableEq

namespace MsgType

def toByte : MsgType → Nat
  | turn => 1
  | broadcast => 2
  | excludeBroadcast => 3
  | targetBroadcast => 4
  | ping => 5
  | pong => 6
  | pingTurn => 7
  | pongTurn => 8
  | punchStart1 => 9
  | punchStart2 => 10
  | punchReq => 11
  | punchRes => 12
  | pushClientIps => 13
  | rpcReq => 14
  | rpcRes => 15
  | quic => 17
  | wireGuardRelay => 18
  | wireGuardP2pControl => 20
  | wireGuardSubnetRelay => 21
  | wireGuardBroadcastRelay => 22

def ofByte : Nat → Option MsgType
  | 1 => some turn
  | 2 => some broadcast
  | 3 => some excludeBroadcast
  | 4 => some targetBroadcast
  | 5 => some ping
  | 6 => some pong
  | 7 => some pingTurn
  | 8 => some pongTurn
  | 9 => some punchStart1
  | 10 => some punchStart2
  | 11 => some punchReq
  | 12 => some punchRes
  | 13 => some pushClientIps
  | 14 => some rpcReq
  | 15 => some rpcRes
  | 17 => some quic
  | 18 => some wireGuardRelay
  | 20 => some wireGuardP2pControl
  | 21 => some wireGuardSubnetRelay
  | 22 => some wireGuardBroadcastRelay
  | _ => none

theorem ofByte_toByte (t : MsgType) : ofByte t.toByte = some t := by cases t <;> rfl

theorem toByte_lt (t : MsgType) : t.toByte < 128 := by cases t <;> decide

/-- The types of relayed IPv4 packets of WireGuard peers. -/
def isWireGuardRelay : MsgType → Bool
  | wireGuardRelay | wireGuardSubnetRelay | wireGuardBroadcastRelay => true
  | _ => false

end MsgType

def headLength : Nat := 16

/-- The longest IPv4 packet that is relayed for WireGuard peers. -/
def maxInnerIpv4PacketSize : Nat := 1420

/-- A buffer that is long enough for a header. -/
@[ext] structure NetPacket where
  buffer : Bytes
  head_le : headLength ≤ buffer.length

namespace NetPacket

def new (buffer : Bytes) : Option NetPacket :=
  if h : headLength ≤ buffer.length then some ⟨buffer, h⟩ else none

theorem buffer_of_new {buffer : Bytes} {p : NetPacket} (h : new buffer = some p) :
    p.buffer = buffer := by
  unfold new at h
  split at h
  · cases h; rfl
  · cases h

theorem new_buffer (p : NetPacket) : new p.buffer = some p := by
  unfold new
  rw [dif_pos p.head_le]

variable (p : NetPacket)

def msgType : Option MsgType := MsgType.ofByte (p.buffer.byteAt 0 % 2 ^ 7)

def ttl : Nat := p.buffer.byteAt 1 % 2 ^ 4

def isCompressed : Bool := (p.buffer.byteAt 2).testBit 7

def isGateway : Bool := (p.buffer.byteAt 2).testBit 6

def seq : BitVec 32 := p.buffer.readU32 4

def srcId : BitVec 32 := p.buffer.readU32 8

def destId : BitVec 32 := p.buffer.readU32 12

def payload : Bytes := p.buffer.drop headLength

/-- The type byte as `set_msg_type` writes it. -/
def typeByte (kind : MsgType) : UInt8 := UInt8.ofNat (2 ^ 7 + kind.toByte)

theorem msgType_of_typeByte {p : NetPacket} {kind : MsgType} {rest : Bytes}
    (h : p.buffer = typeByte kind :: rest) : p.msgType = some kind := by
  have hk := kind.toByte_lt
  have h0 : p.buffer.byteAt 0 % 2 ^ 7 = kind.toByte := by
    rw [h]
    show (UInt8.ofNat (2 ^ 7 + kind.toByte)).toNat % 2 ^ 7 = _
    rw [UInt8.toNat_ofNat']
    omega
  rw [msgType, h0, MsgType.ofByte_toByte]

/-- The packet with one hop less, or none if the last hop is used up. -/
def decrTtl : Option NetPacket :=
  if p.ttl ≤ 1 then none
  else some
    { buffer := p.buffer.set 1
        (UInt8.ofNat (p.buffer.byteAt 1 / 2 ^ 4 * 2 ^ 4 + (p.ttl - 1)))
      head_le := by rw [List.length_set]; exact p.head_le }

theorem decrTtl_eq_none {p : NetPacket} : p.decrTtl = none ↔ p.ttl ≤ 1 := by
  unfold decrTtl
  split <;> rename_i h <;> simp [h]

/-- What a hop leaves as it is. -/
theorem decrTtl_some {p q : NetPacket} (h : p.decrTtl = some q) :
    q.msgType = p.msgType ∧ q.isCompressed = p.isCompressed ∧ q.isGateway = p.isGateway ∧
      q.srcId = p.srcId ∧ q.destId = p.destId ∧ q.payload = p.payload := by
  unfold decrTtl at h
  split at h
  · cases h
  · cases h
    refine ⟨?_, ?_, ?_, ?_, ?_, ?_⟩
    · simp only [msgType, Bytes.byteAt_set_ne _ (show 1 ≠ 0 by decide)]
    · simp only [isCompressed, Bytes.byteAt_set_ne _ (show 1 ≠ 2 by decide)]
    · simp only [isGateway, Bytes.byteAt_set_ne _ (show 1 ≠ 2 by decide)]
    · simp only [srcId, Bytes.readU32_set _ (show 1 < 8 ∨ 8 + 3 < 1 by decide)]
    · simp only [destId, Bytes.readU32_set _ (show 1 < 12 ∨ 12 + 3 < 1 by decide)]
    · simp only [payload, List.drop_set, headLength]
      rfl

/-- The number of hops goes down. -/
theorem ttl_decrTtl {p q : NetPacket} (h : p.decrTtl = some q) : q.ttl + 1 = p.ttl := by
  unfold decrTtl at h
  split at h
  · cases h
  · cases h
    have h1 : 1 < p.buffer.length := lt_of_lt_of_le (by decide) p.head_le
    have := Bytes.byteAt_lt p.buffer 1
    simp only [ttl, Bytes.byteAt_set_self _ h1, UInt8.toNat_ofNat'] at *
    omega

end NetPacket

end Vntc
