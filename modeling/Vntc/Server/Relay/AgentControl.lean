import Vntc.Server.Relay.Echo
import Vntc.Server.WireGuard.P2p

/-!
# Control messages of agents

The agent of a WireGuard peer asks the gateway for tunnels: `parse_agent_control` and
`build_agent_response` of `server/wireguard_p2p.rs`, and what `discover` of the agent sends. The
messages are datagrams inside the tunnel.

* `parseAgentControl_eq_request`, `parseAgentControl_eq_notControl`: what is a request, and what is
  not for the control port at all.
-/

namespace Vntc

open Lib Ipv4Packet Bytes

/-! ## Requests -/

/-- A datagram for a port of `gateway` in one piece, from `source`; the lengths agree with the
buffer. -/
structure GatewayDatagram (packet : Bytes) (source gateway : Ipv4Addr) : Prop where
  version : Ipv4Packet.version packet = 4
  source : Ipv4Packet.source packet = source
  destination : Ipv4Packet.destination packet = gateway
  protocol : nextLevelProtocol packet = Ipv4Packet.udp
  header : 20 ≤ headerLength packet
  total : totalLength packet = packet.length
  long : headerLength packet + 8 ≤ packet.length
  unfragmented : fragmentOffset packet = 0 ∧ flags packet % 2 = 0

/-- A datagram for the control port whose own length agrees with the buffer too. -/
structure ControlDatagram (packet : Bytes) (source gateway : Ipv4Addr) : Prop
    extends GatewayDatagram packet source gateway where
  port : packet.readU16 (headerLength packet + 2) = agentControlPort
  udpLength : headerLength packet + packet.readU16 (headerLength packet + 4) = packet.length
  payload_ne : headerLength packet + 8 < packet.length
  payload_le : packet.length ≤ headerLength packet + 8 + maxControlPayload

/-- The data of a datagram. -/
def udpPayload (packet : Bytes) : Bytes := packet.drop (headerLength packet + 8)

/-- The bits of the field that tell fragments. -/
theorem fragment_iff (packet : Bytes) :
    packet.readU16 6 % 2 ^ 14 = 0 ↔ fragmentOffset packet = 0 ∧ flags packet % 2 = 0 := by
  have h7 := packet.byteAt_lt (6 + 1)
  unfold fragmentOffset flags readU16
  omega

section
variable {decode : Bytes → Option (Ipv4Addr × BitVec 64)} {packet : Bytes}
  {source gateway : Ipv4Addr} {r : AgentControlRequest}

/-- What is left of the checks for a datagram to the gateway. -/
theorem parseAgentControl_of_datagram (h : GatewayDatagram packet source gateway) :
    parseAgentControl decode packet source gateway =
      if packet.readU16 (headerLength packet + 2) ≠ agentControlPort then .notControl
      else if headerLength packet + packet.readU16 (headerLength packet + 4) ≠ packet.length ∨
          packet.length ≤ headerLength packet + 8 ∨
          headerLength packet + 8 + maxControlPayload < packet.length then .invalid
      else (decode (udpPayload packet)).elim .invalid fun request =>
        if request.2 = 0 ∨ request.1.isUnspecified = true ∨ request.1.isMulticast = true then
          .invalid else .request ⟨packet.readU16 (headerLength packet), request.1, request.2⟩ := by
  have hheader := h.header
  have hlong := h.long
  have h1 : ¬ (packet.length < minimumPacketSize ∨ Ipv4Packet.version packet ≠ 4 ∨
      Ipv4Packet.source packet ≠ source ∨ Ipv4Packet.destination packet ≠ gateway ∨
      nextLevelProtocol packet ≠ Ipv4Packet.udp) := by
    simp only [not_or, not_not, not_lt]
    exact ⟨by unfold minimumPacketSize; omega, h.version, h.source, h.destination, h.protocol⟩
  have h2 : ¬ (headerLength packet < 20 ∨ totalLength packet ≠ packet.length ∨
      packet.length < headerLength packet + 8 ∨ packet.readU16 6 % 2 ^ 14 ≠ 0) := by
    simp only [not_or, not_not, not_lt]
    exact ⟨hheader, h.total, hlong, (fragment_iff packet).mpr h.unfragmented⟩
  have h3 : (packet.readU16 (headerLength packet + 4) ≠ packet.length - headerLength packet ∨
      packet.length - headerLength packet = 8 ∨
      8 + maxControlPayload < packet.length - headerLength packet) ↔
      (headerLength packet + packet.readU16 (headerLength packet + 4) ≠ packet.length ∨
        packet.length ≤ headerLength packet + 8 ∨
        headerLength packet + 8 + maxControlPayload < packet.length) := by
    omega
  unfold parseAgentControl
  rw [if_neg h1]
  simp only [if_neg h2, readU16_drop, List.length_drop, h3, List.drop_drop, Nat.add_zero,
    udpPayload]
  cases decode (packet.drop (headerLength packet + 8)) <;> rfl

theorem parseAgentControl_eq_request :
    parseAgentControl decode packet source gateway = .request r ↔
      ControlDatagram packet source gateway ∧
        decode (udpPayload packet) = some (r.targetIp, r.requestId) ∧
        r.sourcePort = packet.readU16 (headerLength packet) ∧ r.requestId ≠ 0 ∧
        r.targetIp.isUnspecified = false ∧ r.targetIp.isMulticast = false := by
  constructor
  · intro hr
    have hd : GatewayDatagram packet source gateway := by
      unfold parseAgentControl at hr
      split at hr
      · cases hr
      rename_i h1
      simp only at hr
      split at hr
      · cases hr
      rename_i h2
      simp only [not_or, not_not, not_lt] at h1 h2
      obtain ⟨-, hv, hs, hg, hu⟩ := h1
      obtain ⟨hh, ht, hl, hf⟩ := h2
      exact ⟨hv, hs, hg, hu, hh, ht, hl, (fragment_iff packet).mp hf⟩
    rw [parseAgentControl_of_datagram hd] at hr
    split at hr
    · cases hr
    rename_i hport
    split at hr
    · cases hr
    rename_i hlen
    simp only [not_or, not_not, not_le, not_lt] at hport hlen
    refine ⟨⟨hd, hport, hlen.1, hlen.2.1, hlen.2.2⟩, ?_⟩
    cases hdecode : decode (udpPayload packet) with
    | none =>
      rw [hdecode] at hr
      cases hr
    | some request =>
      rw [hdecode, Option.elim_some] at hr
      split at hr
      · cases hr
      rename_i hok
      simp only [not_or, Bool.not_eq_true] at hok
      cases hr
      exact ⟨rfl, rfl, hok⟩
  · rintro ⟨h, hdecode, hport, hid, hu, hm⟩
    rw [parseAgentControl_of_datagram h.toGatewayDatagram, if_neg (not_not.mpr h.port), if_neg]
    · rw [hdecode, Option.elim_some, if_neg]
      · rw [← hport]
      · simp only [not_or, Bool.not_eq_true]
        exact ⟨hid, hu, hm⟩
    · simp only [not_or, not_not, not_le, not_lt]
      exact ⟨h.udpLength, h.payload_ne, h.payload_le⟩

theorem parseAgentControl_eq_notControl :
    parseAgentControl decode packet source gateway = .notControl ↔
      ¬ (20 ≤ packet.length ∧ Ipv4Packet.version packet = 4 ∧
          Ipv4Packet.source packet = source ∧ Ipv4Packet.destination packet = gateway ∧
          nextLevelProtocol packet = Ipv4Packet.udp) ∨ GatewayDatagram packet source gateway ∧
          packet.readU16 (headerLength packet + 2) ≠ agentControlPort := by
  by_cases hd : GatewayDatagram packet source gateway
  · have hheader := hd.header
    have hlong := hd.long
    rw [parseAgentControl_of_datagram hd]
    by_cases hport : packet.readU16 (headerLength packet + 2) ≠ agentControlPort
    · exact iff_of_true (if_pos hport) (.inr ⟨hd, hport⟩)
    · refine iff_of_false ?_ fun h => h.elim (fun h => h ?_) fun h => hport h.2
      · rw [if_neg hport]
        split
        · exact nofun
        · cases decode (udpPayload packet) with
          | none => exact nofun
          | some request =>
            rw [Option.elim_some]
            split <;> exact nofun
      · exact ⟨by omega, hd.version, hd.source, hd.destination, hd.protocol⟩
  · simp only [parseAgentControl, minimumPacketSize]
    split
    · rename_i h1
      refine iff_of_true rfl (.inl fun h => ?_)
      rcases h1 with h1 | h1 | h1 | h1 | h1
      · exact Nat.not_lt.mpr h.1 h1
      · exact h1 h.2.1
      · exact h1 h.2.2.1
      · exact h1 h.2.2.2.1
      · exact h1 h.2.2.2.2
    · rename_i h1
      simp only [not_or, not_not, not_lt] at h1
      rw [if_pos]
      · exact iff_of_false nofun fun h => h.elim (fun h => h h1) fun h => hd h.1
      · by_contra h2
        simp only [not_or, not_not, not_lt] at h2
        exact hd ⟨h1.2.1, h1.2.2.1, h1.2.2.2.1, h1.2.2.2.2, h2.1, h2.2.1, h2.2.2.1,
          (fragment_iff packet).mp h2.2.2.2⟩

end

/-- `parse_agent_control` with its indexes and slices; `none` is one that is out of range. -/
def parseAgentControlIndexed (decode : Bytes → Option (Ipv4Addr × BitVec 64)) (packet : Bytes)
    (expectedSource gateway : Ipv4Addr) : Option AgentControlParse :=
  if packet.length < minimumPacketSize ∨ Ipv4Packet.version packet ≠ 4 ∨
      Ipv4Packet.source packet ≠ expectedSource ∨ Ipv4Packet.destination packet ≠ gateway ∨
      nextLevelProtocol packet ≠ Ipv4Packet.udp then some .notControl
  else if headerLength packet < 20 ∨ totalLength packet ≠ packet.length ∨
      packet.length < headerLength packet + 8 then some .invalid
  else do
    let high ← packet[6]?
    let low ← packet[7]?
    if (high.toNat * 256 + low.toNat) % 16384 ≠ 0 then some .invalid
    else
      let udp ← packet.sliceFrom (headerLength packet)
      if udp.length < 8 then some .invalid
      else if udp.readU16 2 ≠ agentControlPort then some .notControl
      else if udp.readU16 4 ≠ packet.length - headerLength packet ∨ udp.length = 8 ∨
          8 + maxControlPayload < udp.length then some .invalid
      else some ((decode (udp.drop 8)).elim .invalid fun request =>
        if request.2 = 0 ∨ request.1.isUnspecified = true ∨ request.1.isMulticast = true then
          .invalid
        else .request ⟨udp.readU16 0, request.1, request.2⟩)

/-- No index is out of range. -/
theorem parseAgentControlIndexed_eq (decode : Bytes → Option (Ipv4Addr × BitVec 64))
    (packet : Bytes) (expectedSource gateway : Ipv4Addr) :
    parseAgentControlIndexed decode packet expectedSource gateway =
      some (parseAgentControl decode packet expectedSource gateway) := by
  unfold parseAgentControlIndexed parseAgentControl
  split
  · rfl
  by_cases h2 : headerLength packet < 20 ∨ totalLength packet ≠ packet.length ∨
      packet.length < headerLength packet + 8
  · rw [if_pos h2, if_pos]
    rcases h2 with h2 | h2 | h2
    · exact .inl h2
    · exact .inr (.inl h2)
    · exact .inr (.inr (.inl h2))
  rw [if_neg h2]
  simp only [not_or, not_not, not_lt] at h2
  obtain ⟨hheader, htotal, hlong⟩ := h2
  have h6 : packet[6]? = some packet[6] := List.getElem?_eq_getElem (by omega)
  have h7 : packet[7]? = some packet[7] := List.getElem?_eq_getElem (by omega)
  have hword : packet[6].toNat * 256 + packet[7].toNat = packet.readU16 6 := by
    simp only [readU16, byteAt, List.getD_eq_getElem?_getD, h6, h7, Option.getD_some]
    omega
  have hdrop : (packet.drop (headerLength packet)).length =
      packet.length - headerLength packet := List.length_drop
  rw [h6, h7, Option.bind_eq_bind, Option.bind_some, Option.bind_eq_bind, Option.bind_some, hword]
  by_cases hf : packet.readU16 6 % 16384 ≠ 0
  · rw [if_pos hf, if_pos (.inr (.inr (.inr hf)))]
  · have hf' : ¬ (headerLength packet < 20 ∨ totalLength packet ≠ packet.length ∨
        packet.length < headerLength packet + 8 ∨ packet.readU16 6 % 2 ^ 14 ≠ 0) := by
      simp only [not_or, not_not, not_lt]
      exact ⟨hheader, htotal, hlong, not_not.mp hf⟩
    rw [if_neg hf, if_neg hf', sliceFrom_of_le (by omega), Option.bind_some,
      if_neg (by omega), ← hdrop]
    simp only
    split
    · rfl
    split
    · rfl
    cases decode (List.drop 8 (packet.drop (headerLength packet))) with
    | none => rfl
    | some request =>
      simp only [Option.elim_some]

/-! ## The requests of the agent -/

/-- A number in groups of seven bits, at most `k`. -/
def varint : Nat → Nat → Bytes
  | 0, _ => []
  | k + 1, n =>
    if n < 128 then [UInt8.ofNat n] else UInt8.ofNat (n % 128 + 128) :: varint k (n / 128)

/-- `WireGuardP2pAgentRequest` of the agent: a `fixed32` and a `uint64`. -/
def encodeAgentRequest (targetIp : Ipv4Addr) (requestId : BitVec 64) : Bytes :=
  (if targetIp = 0 then [] else 0x0d :: (Bytes.ofU32 targetIp).reverse) ++
    if requestId = 0 then [] else 0x10 :: varint 10 requestId.toNat

theorem length_varint_le (k n : Nat) : (varint k n).length ≤ k := by
  induction k generalizing n with
  | zero => exact Nat.le_refl 0
  | succ k ih =>
    unfold varint
    split
    · exact Nat.succ_le_succ (Nat.zero_le k)
    · exact Nat.succ_le_succ (ih (n / 128))

theorem length_encodeAgentRequest (targetIp : Ipv4Addr) {requestId : BitVec 64}
    (h : requestId ≠ 0) :
    0 < (encodeAgentRequest targetIp requestId).length ∧
      (encodeAgentRequest targetIp requestId).length ≤ maxControlPayload := by
  have hv := length_varint_le 10 requestId.toNat
  unfold encodeAgentRequest maxControlPayload
  rw [if_neg h, List.length_append, List.length_cons]
  split
  · rw [List.length_nil]
    omega
  · rw [List.length_cons, List.length_reverse]
    simp only [ofU32, List.length_cons, List.length_nil]
    omega

/-- A datagram to the control port with the data `payload`. -/
structure Carries (packet : Bytes) (source gateway : Ipv4Addr) (payload : Bytes) : Prop
    extends GatewayDatagram packet source gateway where
  port : packet.readU16 (headerLength packet + 2) = agentControlPort
  udpLength : headerLength packet + packet.readU16 (headerLength packet + 4) = packet.length
  payload : udpPayload packet = payload

/-- The agent's request is read as it was written. -/
theorem parseAgentControl_carries {decode : Bytes → Option (Ipv4Addr × BitVec 64)}
    {packet : Bytes} {source gateway targetIp : Ipv4Addr} {requestId : BitVec 64}
    (hdecode : decode (encodeAgentRequest targetIp requestId) = some (targetIp, requestId))
    (hid : requestId ≠ 0) (hu : targetIp.isUnspecified = false) (hm : targetIp.isMulticast = false)
    (h : Carries packet source gateway (encodeAgentRequest targetIp requestId)) :
    parseAgentControl decode packet source gateway =
      .request ⟨packet.readU16 (headerLength packet), targetIp, requestId⟩ := by
  have hlong := h.long
  obtain ⟨hpos, hle⟩ := length_encodeAgentRequest targetIp hid
  rw [← h.payload, udpPayload, List.length_drop] at hpos hle
  refine parseAgentControl_eq_request.mpr
    ⟨⟨h.toGatewayDatagram, h.port, h.udpLength, by omega, by omega⟩, ?_, rfl, hid, hu, hm⟩
  rw [h.payload, hdecode]

/-! ## The answers of the gateway -/

/-- The words that the checksum of a datagram covers besides it. -/
def pseudoHeader (source destination : Ipv4Addr) (length : Nat) : List Nat :=
  [source.toNat / 65536, source.toNat % 65536, destination.toNat / 65536,
    destination.toNat % 65536, Ipv4Packet.udp, length]

/-- The datagram `packet` from the control port of `gateway` to `port` of `target`. -/
structure AgentResponse (packet : Bytes) (gateway target : Ipv4Addr) (port : Nat) (data : Bytes) :
    Prop where
  version : Ipv4Packet.version packet = 4
  header : headerLength packet = 20
  total : totalLength packet = packet.length
  protocol : nextLevelProtocol packet = Ipv4Packet.udp
  unfragmented : fragmentOffset packet = 0 ∧ flags packet % 2 = 0
  source : Ipv4Packet.source packet = gateway
  destination : Ipv4Packet.destination packet = target
  sourcePort : packet.readU16 20 = agentControlPort
  destinationPort : packet.readU16 22 = port
  udpLength : 20 + packet.readU16 24 = packet.length
  payload : udpPayload packet = data
  header_valid : Checksum.Valid (packet.take 20)
  udp_valid : Checksum.ValidWith (pseudoHeader gateway target (packet.length - 20))
    (packet.drop 20)

section
variable {gateway destination : Ipv4Addr} {destinationPort : Nat} {payload : Bytes}

/-- The header before the addresses. -/
def agentHeader (totalLen : Nat) : Bytes :=
  ((Bytes.writeU16 ((List.replicate 20 0).set 0 0x45) 2 totalLen).set 8 64).set 9 17

/-- The datagram before the checksum. -/
def agentUdp (destinationPort : Nat) (payload : Bytes) : Bytes :=
  Bytes.writeU16 (Bytes.writeU16 (Bytes.writeU16 (List.replicate 8 0) 0 agentControlPort) 2
    destinationPort) 4 (8 + payload.length) ++ payload

theorem length_agentUdp : (agentUdp destinationPort payload).length = 8 + payload.length := by
  rw [agentUdp, List.length_append, length_writeU16, length_writeU16,
    length_writeU16, List.length_replicate]

theorem length_agentHeader (totalLen : Nat) : (agentHeader totalLen).length = 20 := by
  rw [agentHeader, List.length_set, List.length_set, length_writeU16, List.length_set,
    List.length_replicate]

theorem headerLength_agentHeader (totalLen : Nat) : headerLength (agentHeader totalLen) = 20 := by
  show (0x45 : UInt8).toNat % 2 ^ 4 * 4 = 20
  decide

theorem version_agentHeader (totalLen : Nat) : Ipv4Packet.version (agentHeader totalLen) = 4 := by
  show (0x45 : UInt8).toNat / 2 ^ 4 = 4
  decide

theorem fragment_agentHeader (totalLen : Nat) : (agentHeader totalLen).readU16 6 % 2 ^ 14 = 0 := by
  show ((0 : UInt8).toNat * 2 ^ 8 + (0 : UInt8).toNat) % 2 ^ 14 = 0
  decide

theorem totalLength_agentHeader {totalLen : Nat} (h : totalLen < 65536) :
    totalLength (agentHeader totalLen) = totalLen := by
  have hk : ∀ k < 2, (agentHeader totalLen)[2 + k]? =
      (writeU16 ((List.replicate 20 0).set 0 0x45) 2 totalLen)[2 + k]? := by
    intro k hk
    rw [agentHeader, List.getElem?_set_ne (by omega), List.getElem?_set_ne (by omega)]
  exact (readU16_congr hk).trans (readU16_writeU16 (by decide) h)

/-- The fields of the datagram, which the checksum leaves. -/
theorem agentUdp_fields (hport : destinationPort < 65536) (hlen : payload.length ≤ 1024)
    (checksum : Nat) :
    readU16 ((agentUdp destinationPort payload).writeU16 6 checksum) 0 = agentControlPort ∧
    readU16 ((agentUdp destinationPort payload).writeU16 6 checksum) 2 = destinationPort ∧
    readU16 ((agentUdp destinationPort payload).writeU16 6 checksum) 4 = 8 + payload.length := by
  -- The eight bytes before the data.
  have hleft : ∀ i < 6, ((agentUdp destinationPort payload).writeU16 6 checksum)[i]? =
      (writeU16 (writeU16 (writeU16 (List.replicate 8 0) 0 agentControlPort) 2
        destinationPort) 4 (8 + payload.length))[i]? := by
    intro i hi
    rw [getElem?_writeU16 _ (.inl hi), agentUdp, List.getElem?_append_left]
    rw [length_writeU16, length_writeU16, length_writeU16,
      List.length_replicate]
    omega
  refine ⟨?_, ?_, ?_⟩
  · refine (readU16_congr fun k hk => ?_).trans
      (readU16_writeU16 (b := List.replicate 8 0) (by decide) (by decide))
    rw [hleft _ (by omega), getElem?_writeU16 _ (by omega),
      getElem?_writeU16 _ (by omega)]
  · refine (readU16_congr fun k hk => ?_).trans (readU16_writeU16
      (b := writeU16 (List.replicate 8 0) 0 agentControlPort) (by decide) hport)
    rw [hleft _ (by omega), getElem?_writeU16 _ (by omega)]
  · refine (readU16_congr fun k hk => hleft _ (by omega)).trans
      (readU16_writeU16 ?_ (by omega))
    rw [length_writeU16, length_writeU16, List.length_replicate]
    decide

theorem pseudoHeader_lt (gateway destination : Ipv4Addr) {length : Nat} (h : length < 65536) :
    ∀ w ∈ pseudoHeader gateway destination length, w < 65536 := by
  have hg := gateway.isLt
  have hd := destination.isLt
  simp only [pseudoHeader, Ipv4Packet.udp, List.mem_cons, List.not_mem_nil, or_false,
    forall_eq_or_imp, forall_eq]
  omega

/-- The header with the addresses, from the bytes before them. -/
theorem header_addresses (totalLen : Nat) :
    writeU16 ([0x45, 0, 0, 0, 0, 0, 0, 0, 64, UInt8.ofNat Ipv4Packet.udp, 0, 0] ++
        (ofU32 gateway ++ ofU32 destination)) 2 totalLen =
      ((agentHeader totalLen).writeU32 12 gateway).writeU32 16 destination := by
  let fields : Bytes := [0x45, 0, UInt8.ofNat (totalLen / 2 ^ 8), UInt8.ofNat totalLen, 0, 0, 0, 0,
    64, UInt8.ofNat Ipv4Packet.udp, 0, 0]
  have hsource : (agentHeader totalLen).writeU32 12 gateway =
      fields ++ (ofU32 gateway ++ [0, 0, 0, 0]) :=
    writeU32_append fields [0, 0, 0, 0] gateway 0 0 0 0
  have hdestination := writeU32_append (fields ++ ofU32 gateway) [] destination 0 0 0 0
  rw [hsource, ← List.append_assoc]
  exact hdestination.symm

theorem words_address (ip : Ipv4Addr) (rest : Bytes) :
    words (ofU32 ip ++ rest) = [ip.toNat / 65536, ip.toNat % 65536] ++ words rest := by
  have h := ip.isLt
  have hwords : words (ofU32 ip) = [ip.toNat / 65536, ip.toNat % 65536] := by
    simp only [ofU32, words, UInt8.toNat_ofNat', List.cons.injEq, and_true]
    omega
  rw [← hwords]
  rfl

/-- The words of the pseudo-header come first. -/
theorem checksum_pseudo {length : Nat} (h : length < 65536) (udp : Bytes) :
    checksum (writeU16 (ofU32 gateway ++ ofU32 destination ++
        [0, UInt8.ofNat Ipv4Packet.udp, 0, 0]) 10 length ++ udp) 9 =
      Checksum.checksumWith (pseudoHeader gateway destination length) udp 3 := by
  have hbytes : writeU16 (ofU32 gateway ++ ofU32 destination ++
      [0, UInt8.ofNat Ipv4Packet.udp, 0, 0]) 10 length ++ udp =
      ofU32 gateway ++ (ofU32 destination ++ ([0, UInt8.ofNat Ipv4Packet.udp,
        UInt8.ofNat (length / 2 ^ 8), UInt8.ofNat length] ++ udp)) := rfl
  have hlength : words ([0, UInt8.ofNat Ipv4Packet.udp, UInt8.ofNat (length / 2 ^ 8),
      UInt8.ofNat length] ++ udp) = [Ipv4Packet.udp, length] ++ udp.words := by
    simp only [List.cons_append, List.nil_append, words, UInt8.toNat_ofNat', Ipv4Packet.udp,
      UInt8.toNat_zero, List.cons.injEq, and_true]
    omega
  have hwords : words (writeU16 (ofU32 gateway ++ ofU32 destination ++
      [0, UInt8.ofNat Ipv4Packet.udp, 0, 0]) 10 length ++ udp) =
      pseudoHeader gateway destination length ++ udp.words := by
    rw [hbytes, words_address, words_address, hlength]
    rfl
  have herase : (pseudoHeader gateway destination length ++ udp.words).eraseIdx 9 =
      pseudoHeader gateway destination length ++ udp.words.eraseIdx 3 :=
    List.eraseIdx_append_of_length_le (show 6 ≤ 9 by decide) _
  rw [Checksum.checksum_eq, Checksum.checksumWith, hwords, herase, List.sum_append, List.sum_nil,
    Nat.zero_add]
  rfl

/-- An answer is a datagram with the data as they were, and with both checksums. -/
theorem buildAgentResponse_spec (hport : destinationPort ≠ 0) (hport' : destinationPort < 65536)
    (hpos : payload ≠ []) (hmax : payload.length ≤ maxControlPayload) :
    ∃ packet, buildAgentResponse gateway destination destinationPort payload = some packet ∧
      AgentResponse packet gateway destination destinationPort payload := by
  have hlen : payload.length ≤ 1024 := hmax
  have hbuild : buildAgentResponse gateway destination destinationPort payload =
      some (readdress (agentHeader (20 + 8 + payload.length)) gateway destination ++
        (agentUdp destinationPort payload).writeU16 6 (Checksum.checksumWith
          (pseudoHeader gateway destination (agentUdp destinationPort payload).length)
          (agentUdp destinationPort payload) 3)) := by
    unfold buildAgentResponse
    rw [if_neg (by simp only [not_or, not_lt]; exact ⟨hport, hpos, hmax⟩)]
    simp only
    rw [header_addresses, checksum_pseudo (by omega), length_agentUdp]
    rfl
  have hudpLen : (agentUdp destinationPort payload).length = 8 + payload.length := length_agentUdp
  have hr : Readdressed (agentHeader (20 + 8 + payload.length)) gateway destination _ :=
    readdress_spec ((length_agentHeader _).trans (headerLength_agentHeader _).symm)
      (length_agentHeader _).ge
  have hvalid := Checksum.validWith_writeU16 (b := agentUdp destinationPort payload) (k := 3)
    (pseudoHeader_lt gateway destination
      (show (agentUdp destinationPort payload).length < 65536 by omega))
    (show 2 * 6 + _ ≤ 131072 by omega) (by omega)
  generalize Checksum.checksumWith _ (agentUdp destinationPort payload) 3 = sum at hbuild hvalid
  refine ⟨_, hbuild, ?_⟩
  obtain ⟨hsource, hdestination, hlength⟩ := agentUdp_fields hport' hlen sum
  have hdata : ((agentUdp destinationPort payload).writeU16 6 sum).drop 8 = payload := by
    rw [drop_writeU16 _ (by decide), agentUdp, List.drop_left']
    rw [length_writeU16, length_writeU16, length_writeU16, List.length_replicate]
  have hlen' := length_writeU16 (agentUdp destinationPort payload) 6 sum
  generalize (agentUdp destinationPort payload).writeU16 6 _ = udp at *
  generalize readdress (agentHeader (20 + 8 + payload.length)) gateway destination = header at *
  have hheader := hr.length.trans (length_agentHeader _)
  have hbase : ∀ i < 10, (header ++ udp)[i]? = (agentHeader (20 + 8 + payload.length))[i]? :=
    fun i hi => (List.getElem?_append_left (by omega)).trans (hr.kept i (.inl hi))
  have hright (i : Nat) : (header ++ udp).readU16 (20 + i) = udp.readU16 i :=
    hheader ▸ readU16_append_right header udp i
  have hhl : headerLength (header ++ udp) = 20 :=
    (headerLength_congr (hbase 0 (by decide))).trans (headerLength_agentHeader _)
  have htotal : (header ++ udp).length = 20 + 8 + payload.length := by
    rw [List.length_append]
    omega
  refine ⟨?_, hhl, ?_, ?_, ?_, ?_, ?_, ?_, ?_, ?_, ?_, ?_, ?_⟩
  · rw [Ipv4Packet.version, byteAt_congr (hbase 0 (by decide))]
    exact version_agentHeader _
  · rw [htotal, ← totalLength_agentHeader (show 20 + 8 + payload.length < 65536 by omega)]
    exact readU16_congr fun k hk => hbase _ (by omega)
  · rw [nextLevelProtocol, byteAt_congr (hbase 9 (by decide))]
    rfl
  · rw [← fragment_iff, readU16_congr fun k hk => hbase _ (by omega)]
    exact fragment_agentHeader _
  · exact (readU32_congr fun k hk => List.getElem?_append_left (by omega)).trans hr.source
  · exact (readU32_congr fun k hk => List.getElem?_append_left (by omega)).trans
      hr.destination
  · exact (hright 0).trans hsource
  · exact (hright 2).trans hdestination
  · rw [htotal, show (24 : Nat) = 20 + 4 from rfl, hright 4, hlength, Nat.add_assoc]
  · rw [udpPayload, hhl, ← List.drop_drop, List.drop_left' hheader]
    exact hdata
  · rw [List.take_left' hheader]
    exact hr.valid
  · rw [List.drop_left' hheader, htotal]
    rw [hudpLen] at hvalid
    exact (show 20 + 8 + payload.length - 20 = 8 + payload.length by omega) ▸ hvalid

end

/-- **Requests of agents are read as they were sent, and answers are well formed.** The round trip
of the request through the encoding is assumed. -/
theorem agentControl_codec (decode : Bytes → Option (Ipv4Addr × BitVec 64)) :
    (∀ packet source gateway, parseAgentControlIndexed decode packet source gateway =
      some (parseAgentControl decode packet source gateway)) ∧
    (∀ packet source gateway r, parseAgentControl decode packet source gateway = .request r →
      ControlDatagram packet source gateway) ∧
    (∀ packet source gateway targetIp requestId,
      decode (encodeAgentRequest targetIp requestId) = some (targetIp, requestId) →
      requestId ≠ 0 → targetIp.isUnspecified = false → targetIp.isMulticast = false →
      Carries packet source gateway (encodeAgentRequest targetIp requestId) →
      ∃ sourcePort, parseAgentControl decode packet source gateway =
        .request ⟨sourcePort, targetIp, requestId⟩) ∧
    (∀ gateway destination destinationPort payload, destinationPort ≠ 0 →
      destinationPort < 65536 → payload ≠ [] → payload.length ≤ maxControlPayload →
      ∃ packet, buildAgentResponse gateway destination destinationPort payload = some packet ∧
        AgentResponse packet gateway destination destinationPort payload) := by
  refine ⟨parseAgentControlIndexed_eq decode, ?_, ?_, ?_⟩
  · intro packet source gateway r h
    exact (parseAgentControl_eq_request.mp h).1
  · intro packet source gateway targetIp requestId hdecode hid hu hm h
    exact ⟨_, parseAgentControl_carries hdecode hid hu hm h⟩
  · intro gateway destination destinationPort payload hport hport' hpos hmax
    exact buildAgentResponse_spec hport hport' hpos hmax

/-- The request 7 for 10.26.0.3, from port 51821 of 10.26.0.2 to the gateway 10.26.0.1. -/
def requestPacket : Bytes :=
  [0x45, 0, 0, 35, 0, 0, 0x40, 0, 64, 17, 0, 0, 10, 26, 0, 2, 10, 26, 0, 1,
    0xca, 0x6d, 0xca, 0x6d, 0, 15, 0, 0, 0x0d, 3, 0, 26, 10, 0x10, 7]

theorem agentControl_codec_request :
    (∃ sourcePort, parseAgentControl (fun b => if b = encodeAgentRequest (homeIp 3) 7
        then some (homeIp 3, 7) else none) requestPacket (homeIp 2)
        (homeIp 1) = .request ⟨sourcePort, homeIp 3, 7⟩) ∧
      ∃ packet, buildAgentResponse (homeIp 1) (homeIp 2) 51821 [7] =
        some packet ∧ AgentResponse packet (homeIp 1) (homeIp 2) 51821
          [7] := by
  obtain ⟨-, -, hrequest, hresponse⟩ := agentControl_codec fun b =>
    if b = encodeAgentRequest (homeIp 3) 7 then some (homeIp 3, 7)
    else none
  refine ⟨hrequest _ _ _ _ _ (if_pos rfl) (by decide) (by decide) (by decide) ⟨⟨?_, ?_, ?_, ?_, ?_,
    ?_, ?_, ?_⟩, ?_, ?_, ?_⟩, hresponse _ _ _ _ (by decide) (by decide) (by decide) (by decide)⟩
  all_goals decide +kernel

end Vntc
