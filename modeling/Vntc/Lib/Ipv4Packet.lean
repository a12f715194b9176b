import Vntc.Lib.Bytes
import Vntc.Lib.Ipv4

/-!
# IPv4 packets

The fields of an IPv4 packet in a buffer, and the checksum of RFC 1071 as packet libraries compute
it: the sum of the 16-bit words with end-around carry, complemented, where one word (the checksum
itself) is left out.
-/

namespace Lib

namespace Bytes

/-- The 16-bit words of a buffer; an odd last byte is padded with a zero byte. -/
def words : Bytes → List Nat
  | [] => []
  | [a] => [a.toNat * 2 ^ 8]
  | a :: b :: rest => (a.toNat * 2 ^ 8 + b.toNat) :: words rest

/-- The carries of a sum added back to it. -/
def endAround (sum : Nat) : Nat := sum / 2 ^ 16 + sum % 2 ^ 16

/-- The checksum of a buffer without its word `skip`. A 32-bit sum has no carry left after two
rounds. -/
def checksum (b : Bytes) (skip : Nat) : Nat :=
  2 ^ 16 - 1 - endAround (endAround (b.words.eraseIdx skip).sum)

end Bytes

namespace Ipv4Packet

/-- The length of a header without options. -/
def minimumPacketSize : Nat := 20

variable (packet : Bytes)

/-- The version, 4 for IPv4. -/
def version : Nat := packet.byteAt 0 / 2 ^ 4

/-- In bytes. -/
def headerLength : Nat := packet.byteAt 0 % 2 ^ 4 * 4

/-- The length that the header states. -/
def totalLength : Nat := packet.readU16 2

/-- The lowest of the three bits says that more fragments follow. -/
def flags : Nat := packet.byteAt 6 / 2 ^ 5

/-- Where a fragment belongs. -/
def fragmentOffset : Nat := packet.readU16 6 % 2 ^ 13

/-- The protocol of the payload. -/
def nextLevelProtocol : Nat := packet.byteAt 9

/-- The address of the sender. -/
def source : Ipv4Addr := packet.readU32 12

/-- The address of the receiver. -/
def destination : Ipv4Addr := packet.readU32 16

/-- The number of ICMP. -/
def icmp : Nat := 1

/-- The number of UDP. -/
def udp : Nat := 17

/-- The checksum of the header. -/
def headerChecksum : Nat := Bytes.checksum (packet.take (headerLength packet)) 5

/-- The checksum of the header of an unchecked packet, for which the header is taken to be at least
as long as one without options and at most as long as the buffer. -/
def clampedChecksum : Nat :=
  Bytes.checksum (packet.take (max minimumPacketSize (min (headerLength packet) packet.length))) 5

/-- What follows the header, as long as the length fields say and the buffer is. -/
def payload : Bytes :=
  (packet.drop (minimumPacketSize + (packet.byteAt 0 % 2 ^ 4 - 5) * 4)).take
    (totalLength packet - headerLength packet)

variable {packet}

theorem clampedChecksum_eq (h : minimumPacketSize ≤ headerLength packet)
    (hle : headerLength packet ≤ packet.length) :
    clampedChecksum packet = headerChecksum packet := by
  unfold clampedChecksum headerChecksum
  rw [min_eq_left hle, max_eq_right h]

/-- If the lengths are those of the buffer, the payload is the rest of it. -/
theorem payload_eq (h : minimumPacketSize ≤ headerLength packet)
    (ht : totalLength packet = packet.length) :
    payload packet = packet.drop (headerLength packet) := by
  have hs : minimumPacketSize + (packet.byteAt 0 % 2 ^ 4 - 5) * 4 = headerLength packet := by
    unfold minimumPacketSize headerLength at *
    omega
  unfold payload
  rw [hs, ht, List.take_of_length_le (List.length_drop ▸ Nat.le_refl _)]

end Ipv4Packet

end Lib
