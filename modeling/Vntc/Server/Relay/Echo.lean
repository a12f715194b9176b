import Vntc.Lib.Checksum
import Vntc.Server.Relay.Bridge

/-!
# Pings of the gateway

The server answers pings of the gateway address: of VNT clients in `handle_icmp_ping`
(`control_server/handler.rs`), of WireGuard peers in `build_gateway_echo_reply`
(`wireguard_bridge.rs`). Here a slice that is out of range shows: the outer `none` is a panic.

* `readdress_spec`, `sealIcmp_spec`: what the two halves of an answer are, for a header and a
  message of any length.
-/

namespace Vntc

open Lib Ipv4Packet Bytes

/-! ## The two halves of an answer -/

/-- The packet with other addresses and the checksum for them. -/
def readdress (packet : Bytes) (source destination : Ipv4Addr) : Bytes :=
  let reply := (packet.writeU32 12 source).writeU32 16 destination
  reply.writeU16 10 (headerChecksum reply)

/-- The ICMP message with its checksum. -/
def sealIcmp (icmp : Bytes) : Bytes := icmp.writeU16 2 (icmp.checksum 1)

section
variable {packet header rest icmp : Bytes} {source destination : Ipv4Addr}

theorem headerLength_congr {a b : Bytes} (h : a[0]? = b[0]?) : headerLength a = headerLength b := by
  unfold headerLength
  rw [byteAt_congr h]

theorem headerLength_addresses :
    headerLength ((packet.writeU32 12 source).writeU32 16 destination) = headerLength packet :=
  headerLength_congr (by
    rw [getElem?_writeU32 _ (.inl (by decide)), getElem?_writeU32 _ (.inl (by decide))])

theorem headerLength_take (h : 0 < headerLength packet) :
    headerLength (packet.take (headerLength packet)) = headerLength packet :=
  headerLength_congr (List.getElem?_take_of_lt h)

/-- Only the header changes. -/
theorem readdress_append (h : header.length = headerLength header) (h20 : 20 ≤ header.length) :
    readdress (header ++ rest) source destination =
      readdress header source destination ++ rest := by
  have h12 : 12 + 3 < header.length := by omega
  have h16 : 16 + 3 < (header.writeU32 12 source).length := by
    rw [length_writeU32]
    omega
  have hl : ((header.writeU32 12 source).writeU32 16 destination).length =
      headerLength (header ++ rest) := by
    rw [length_writeU32, length_writeU32, h]
    exact headerLength_congr (List.getElem?_append_left (by omega)).symm
  have hc : headerChecksum (((header ++ rest).writeU32 12 source).writeU32 16 destination) =
      headerChecksum ((header.writeU32 12 source).writeU32 16 destination) := by
    unfold headerChecksum
    rw [headerLength_addresses, ← hl, headerLength_addresses, ← h,
      writeU32_append_left _ _ h12, writeU32_append_left _ _ h16, List.take_left]
    congr 1
    rw [List.take_of_length_le]
    rw [length_writeU32, length_writeU32]
  simp only [readdress]
  rw [hc, writeU32_append_left _ _ h12, writeU32_append_left _ _ h16,
    writeU16_append]
  rw [length_writeU32, length_writeU32]
  omega

structure Readdressed (header : Bytes) (source destination : Ipv4Addr) (reply : Bytes) : Prop where
  length : reply.length = header.length
  kept : ∀ i, i < 10 ∨ 20 ≤ i → reply[i]? = header[i]?
  source : Ipv4Packet.source reply = source
  destination : Ipv4Packet.destination reply = destination
  valid : Checksum.Valid reply

theorem readdress_spec (h : header.length = headerLength header) (h20 : 20 ≤ header.length) :
    Readdressed header source destination (readdress header source destination) := by
  have hlen : ((header.writeU32 12 source).writeU32 16 destination).length = header.length := by
    rw [length_writeU32, length_writeU32]
  refine ⟨?_, ?_, ?_, ?_, ?_⟩
  · rw [readdress, length_writeU16, hlen]
  · intro i hi
    rw [readdress, getElem?_writeU16 _ (by omega), getElem?_writeU32 _ (by omega),
      getElem?_writeU32 _ (by omega)]
  · -- The destination and the checksum are written beside the source.
    have hk : ∀ k < 4, (readdress header source destination)[12 + k]? =
        (header.writeU32 12 source)[12 + k]? := by
      intro k hk
      rw [readdress, getElem?_writeU16 _ (by omega), getElem?_writeU32 _ (by omega)]
    exact (readU32_congr hk).trans (readU32_writeU32 (by omega) source)
  · have hk : ∀ k < 4, (readdress header source destination)[16 + k]? =
        ((header.writeU32 12 source).writeU32 16 destination)[16 + k]? := by
      intro k hk
      rw [readdress, getElem?_writeU16 _ (by omega)]
    refine (readU32_congr hk).trans (readU32_writeU32 ?_ destination)
    rw [length_writeU32]
    omega
  · have hmax : header.length ≤ 60 := by
      rw [h, headerLength]
      omega
    have hc : headerChecksum ((header.writeU32 12 source).writeU32 16 destination) =
        checksum ((header.writeU32 12 source).writeU32 16 destination) 5 := by
      rw [headerChecksum, headerLength_addresses, ← h, ← hlen, List.take_length]
    rw [readdress, hc]
    exact Checksum.valid_writeU16 (k := 5) (hlen.trans_le (by omega)) (by omega)

theorem sealIcmp_spec (h4 : 4 ≤ icmp.length) (hmax : icmp.length ≤ 131072) :
    (sealIcmp icmp).length = icmp.length ∧
      (∀ i, i ≠ 2 → i ≠ 3 → (sealIcmp icmp)[i]? = icmp[i]?) ∧ Checksum.Valid (sealIcmp icmp) :=
  ⟨length_writeU16 _ _ _, fun _ h2 h3 => getElem?_writeU16 _ (by omega) _,
    Checksum.valid_writeU16 (k := 1) hmax h4⟩

end

/-! ## Answers -/

/-- The packet `reply` answers the ping `packet`: the addresses, the type of the message and the
checksums are new, and of the ICMP header the bytes in `fields`. -/
structure EchoAnswer (packet reply : Bytes) (source destination : Ipv4Addr) (fields : List Nat) :
    Prop where
  length : reply.length = packet.length
  kept : ∀ i, i < 10 ∨ 20 ≤ i → (∀ k ∈ fields, i ≠ headerLength packet + k) → reply[i]? = packet[i]?
  source : Ipv4Packet.source reply = source
  destination : Ipv4Packet.destination reply = destination
  echoReply : reply.byteAt (headerLength packet) = 0
  header_valid : Checksum.Valid (reply.take (headerLength packet))
  icmp_valid : Checksum.Valid (reply.drop (headerLength packet))

section
variable {packet icmp : Bytes} {source destination : Ipv4Addr} {fields : List Nat}

theorem length_take_header (hle : headerLength packet ≤ packet.length) :
    (packet.take (headerLength packet)).length = headerLength packet := by
  rw [List.length_take, min_eq_left hle]

section

variable (h20 : 20 ≤ headerLength packet) (hle : headerLength packet ≤ packet.length)

include h20 hle

theorem readdress_header :
    Readdressed (packet.take (headerLength packet)) source destination
      (readdress (packet.take (headerLength packet)) source destination) := by
  have hh := length_take_header hle
  exact readdress_spec (hh.trans (headerLength_take (by omega)).symm) (by omega)

theorem length_readdress_header :
    (readdress (packet.take (headerLength packet)) source destination).length =
      headerLength packet :=
  (readdress_header h20 hle).length.trans (length_take_header hle)

theorem readdress_header_append (rest : Bytes) :
    readdress (packet.take (headerLength packet) ++ rest) source destination =
      readdress (packet.take (headerLength packet)) source destination ++ rest := by
  have hh := length_take_header hle
  exact readdress_append (hh.trans (headerLength_take (by omega)).symm) (by omega)

end

/-- An answer from its two halves. -/
theorem EchoAnswer.of_halves (h20 : 20 ≤ headerLength packet)
    (hle : headerLength packet + 4 ≤ packet.length) (hmax : packet.length ≤ 131072)
    (hlen : headerLength packet + icmp.length = packet.length)
    (hkept : ∀ i, i ∉ fields → icmp[i]? = packet[headerLength packet + i]?)
    (h2 : 2 ∈ fields) (h3 : 3 ∈ fields) (htype : icmp.byteAt 0 = 0) :
    EchoAnswer packet
      (readdress (packet.take (headerLength packet)) source destination ++ sealIcmp icmp)
      source destination fields := by
  have hhle : headerLength packet ≤ packet.length := by omega
  have hr : Readdressed _ source destination _ := readdress_header h20 hhle
  have hrlen := hr.length.trans (length_take_header hhle)
  have h4 : 4 ≤ icmp.length := by omega
  obtain ⟨hslen, hskept, hsvalid⟩ := sealIcmp_spec h4 (by omega)
  generalize readdress (packet.take (headerLength packet)) source destination = header at *
  -- A byte of the reply is one of the header or one of the message.
  have hleft : ∀ {i}, i < headerLength packet → (header ++ sealIcmp icmp)[i]? = header[i]? :=
    fun hi => List.getElem?_append_left (by omega)
  have hright : ∀ i, (header ++ sealIcmp icmp)[headerLength packet + i]? = (sealIcmp icmp)[i]? := by
    intro i
    rw [List.getElem?_append_right (by omega), hrlen, Nat.add_sub_cancel_left]
  refine ⟨?_, ?_, ?_, ?_, ?_, ?_, ?_⟩
  · rw [List.length_append, hrlen, hslen, hlen]
  · intro i hi hf
    by_cases hih : i < headerLength packet
    · rw [hleft hih, hr.kept i hi, List.getElem?_take_of_lt hih]
    · obtain ⟨k, rfl⟩ := Nat.exists_eq_add_of_le (Nat.le_of_not_lt hih)
      have hk : k ∉ fields := fun hk => hf k hk rfl
      rw [hright, hskept k (ne_of_mem_of_not_mem h2 hk).symm (ne_of_mem_of_not_mem h3 hk).symm,
        hkept k hk]
  · exact (readU32_congr fun k hk => hleft (by omega)).trans hr.source
  · exact (readU32_congr fun k hk => hleft (by omega)).trans hr.destination
  · have h0 := hright 0
    rw [Nat.add_zero, hskept 0 (by decide) (by decide)] at h0
    unfold byteAt at htype ⊢
    rw [List.getD_eq_getElem?_getD] at htype ⊢
    rw [h0, htype]
  · rw [← hrlen, List.take_left]
    exact hr.valid
  · rw [← hrlen, List.drop_left]
    exact hsvalid

end

/-! ## Pings of WireGuard peers -/

/-- `build_gateway_echo_reply` with its slices. -/
def buildGatewayEchoReplyIndexed (packet : Bytes) (expectedSource gateway : Ipv4Addr) :
    Option (Except RelayValidationError (Option Bytes)) :=
  match parseInnerIpv4 packet expectedSource with
  | .error e => some (.error e)
  | .ok (route, headerLength) =>
    if route.destination ≠ gateway then some (.ok none)
    else if nextLevelProtocol packet ≠ Ipv4Packet.icmp then some (.ok none)
    else if fragmentOffset packet ≠ 0 ∨ flags packet % 2 ≠ 0 then
      some (.error .invalidControlPacket)
    else do
      let icmp ← packet.sliceFrom headerLength
      if icmp.length < 4 then some (.error .invalidControlPacket)
      else if icmp.byteAt 0 ≠ 8 ∨ icmp.length < 8 then some (.ok none)
      else
        let replyIcmp ← packet.sliceFrom headerLength
        let reply : Bytes := packet.take headerLength ++ Bytes.writeU16 (replyIcmp.set 0 0) 2 0
        let replyIcmp ← reply.sliceFrom headerLength
        let icmpChecksum := replyIcmp.checksum 1
        let replyIcmp ← reply.sliceFrom headerLength
        let reply : Bytes := reply.take headerLength ++ replyIcmp.writeU16 2 icmpChecksum
        let reply := (reply.writeU32 12 gateway).writeU32 16 expectedSource
        let reply := reply.writeU16 10 0
        some (.ok (some (reply.writeU16 10 (headerChecksum reply))))

/-- No slice is out of range. -/
theorem buildGatewayEchoReplyIndexed_eq (packet : Bytes) (expectedSource gateway : Ipv4Addr) :
    buildGatewayEchoReplyIndexed packet expectedSource gateway =
      some (buildGatewayEchoReply packet expectedSource gateway) := by
  unfold buildGatewayEchoReplyIndexed buildGatewayEchoReply
  cases hp : parseInnerIpv4 packet expectedSource with
  | error e => rfl
  | ok parsed =>
    obtain ⟨route, h⟩ := parsed
    have hle : h ≤ packet.length := by
      obtain ⟨⟨hplain, -⟩, ⟨⟩⟩ := parseInnerIpv4_bind.mp (bind_eq_ok (f := .ok).mpr ⟨_, hp, rfl⟩)
      exact hplain.header.2
    have hlen : (packet.take h).length = h := by rw [List.length_take, min_eq_left hle]
    have hslice (icmp : Bytes) : sliceFrom (packet.take h ++ icmp) h = some icmp := by
      rw [sliceFrom_of_le (by rw [List.length_append]; omega), List.drop_left' hlen]
    by_cases hd : route.destination ≠ gateway
    · simp only [if_pos hd, bind, Except.bind]
    by_cases hn : nextLevelProtocol packet ≠ Ipv4Packet.icmp
    · simp only [if_neg hd, if_pos hn, bind, Except.bind]
    by_cases hf : fragmentOffset packet ≠ 0 ∨ flags packet % 2 ≠ 0
    · have hf' : ¬ (fragmentOffset packet = 0 ∧ flags packet % 2 = 0) := by omega
      simp only [if_neg hd, if_neg hn, if_pos hf, ensure, if_neg hf', bind, Except.bind]
    have hf' : fragmentOffset packet = 0 ∧ flags packet % 2 = 0 := by omega
    by_cases h4 : (packet.drop h).length < 4
    · simp only [if_neg hd, if_neg hn, if_neg hf, ensure, if_pos hf', bind, Except.bind,
        Option.bind, sliceFrom_of_le hle, if_pos h4, if_neg (Nat.not_le.mpr h4)]
    · simp only [if_neg hd, if_neg hn, if_neg hf, ensure, if_pos hf', bind, Except.bind,
        Option.bind, sliceFrom_of_le hle, if_neg h4, if_pos (Nat.not_lt.mp h4), hslice,
        List.take_left' hlen]
      split <;> rfl

/-- A ping of the gateway from `source`. -/
structure GatewayEcho (packet : Bytes) (source gateway : Ipv4Addr) : Prop where
  plain : PlainIpv4 packet
  source : Ipv4Packet.source packet = source
  destination : Ipv4Packet.destination packet = gateway
  protocol : nextLevelProtocol packet = Ipv4Packet.icmp
  unfragmented : fragmentOffset packet = 0 ∧ flags packet % 2 = 0
  long : headerLength packet + 8 ≤ packet.length
  echoRequest : packet.byteAt (headerLength packet) = 8

section
variable {packet reply : Bytes} {source gateway : Ipv4Addr}

theorem sealIcmp_cleared {icmp : Bytes} (h4 : 4 ≤ icmp.length) :
    sealIcmp (icmp.writeU16 2 0) = sealIcmp icmp := by
  unfold sealIcmp
  rw [Checksum.checksum_writeU16 (k := 1) h4 (by decide), writeU16_writeU16]

theorem headerChecksum_cleared (h20 : 20 ≤ headerLength reply) (hle : 20 ≤ reply.length) :
    headerChecksum (reply.writeU16 10 0) = headerChecksum reply := by
  have hh : headerLength (reply.writeU16 10 0) = headerLength reply :=
    headerLength_congr (getElem?_writeU16 _ (.inl (by decide)) _)
  have hlen : 2 * 5 + 1 < (reply.take (headerLength reply)).length := by
    rw [List.length_take]
    omega
  unfold headerChecksum
  rw [hh, take_writeU16, Checksum.checksum_writeU16 hlen (by decide)]

/-- The source clears the checksums before it computes them. -/
theorem gatewayReply_eq (hp : PlainIpv4 packet)
    (hlong : headerLength packet + 8 ≤ packet.length) :
    (let icmp := writeU16 ((packet.drop (headerLength packet)).set 0 0) 2 0
      let reply : Bytes := packet.take (headerLength packet) ++ sealIcmp icmp
      let reply := (reply.writeU32 12 gateway).writeU32 16 source
      (reply.writeU16 10 0).writeU16 10 (headerChecksum (reply.writeU16 10 0))) =
    readdress (packet.take (headerLength packet)) gateway source ++
      sealIcmp ((packet.drop (headerLength packet)).set 0 0) := by
  have h20 := hp.header.1
  have hh := length_take_header hp.header.2
  have hha : headerLength (packet.take (headerLength packet) ++
      sealIcmp ((packet.drop (headerLength packet)).set 0 0)) = headerLength packet :=
    (headerLength_congr (List.getElem?_append_left (by omega))).trans (headerLength_take (by omega))
  simp only
  rw [sealIcmp_cleared (by rw [List.length_set, List.length_drop]; omega),
    headerChecksum_cleared, writeU16_writeU16, ← readdress_header_append h20 hp.header.2]
  · rfl
  · rw [headerLength_addresses, hha]
    exact h20
  · rw [length_writeU32, length_writeU32, List.length_append]
    omega

theorem buildGatewayEchoReply_eq_some :
    buildGatewayEchoReply packet source gateway = .ok (some reply) ↔
      GatewayEcho packet source gateway ∧
        reply = readdress (packet.take (headerLength packet)) gateway source ++
          sealIcmp ((packet.drop (headerLength packet)).set 0 0) := by
  simp only [buildGatewayEchoReply, parseInnerIpv4_bind]
  constructor
  · rintro ⟨⟨hplain, hs⟩, hr⟩
    split at hr
    · cases hr
    rename_i hd
    split at hr
    · cases hr
    rename_i hn
    obtain ⟨hf, hr⟩ := ensure_bind_ok.mp hr
    obtain ⟨-, hr⟩ := ensure_bind_ok.mp hr
    split at hr
    · cases hr
    rename_i h8
    rw [not_or, not_not, not_lt, byteAt_drop, List.length_drop] at h8
    have hlong : headerLength packet + 8 ≤ packet.length := by omega
    refine ⟨⟨hplain, hs, not_not.mp hd, not_not.mp hn, hf, hlong, h8.1⟩, ?_⟩
    exact (Option.some.inj (Except.ok.inj hr)).symm.trans (gatewayReply_eq hplain hlong)
  · rintro ⟨h, hreply⟩
    refine ⟨⟨h.plain, h.source⟩, ?_⟩
    have hlong := h.long
    have hd : (packet.drop (headerLength packet)).length = packet.length - headerLength packet :=
      List.length_drop
    have hdest : ¬ (Ipv4Route.ofPacket packet).destination ≠ gateway := not_not.mpr h.destination
    rw [if_neg hdest, if_neg (not_not.mpr h.protocol), ensure_bind_ok, ensure_bind_ok]
    refine ⟨h.unfragmented, by omega, ?_⟩
    rw [if_neg]
    · exact congrArg (fun r => Except.ok (some r))
        ((gatewayReply_eq h.plain hlong).trans hreply.symm)
    · rw [not_or, not_not, not_lt, byteAt_drop, hd]
      exact ⟨h.echoRequest, by omega⟩

end

section
variable {packet reply : Bytes} {source gateway : Ipv4Addr}

theorem EchoAnswer.of_build
    (hreply : buildGatewayEchoReply packet source gateway = .ok (some reply)) :
    EchoAnswer packet reply gateway source [0, 2, 3] := by
  obtain ⟨h, heq⟩ := buildGatewayEchoReply_eq_some.mp hreply
  rw [heq]
  have hlong := h.long
  have hmax : packet.length ≤ 1420 := h.plain.le_max
  refine .of_halves h.plain.header.1 (by omega) (by omega) ?_ ?_ (by decide) (by decide) ?_
  · rw [List.length_set, List.length_drop]
    omega
  · intro i hi
    rw [List.getElem?_set_ne (ne_of_mem_of_not_mem (by decide) hi), List.getElem?_drop]
  · rw [byteAt_set_self _ (by rw [List.length_drop]; omega)]
    rfl

/-- A packet that is not taken for a ping: it is for somebody else, of another protocol, or another
ICMP message. -/
theorem buildGatewayEchoReply_eq_none :
    buildGatewayEchoReply packet source gateway = .ok none ↔
      (PlainIpv4 packet ∧ Ipv4Packet.source packet = source) ∧
        (Ipv4Packet.destination packet = gateway → nextLevelProtocol packet = Ipv4Packet.icmp →
          (fragmentOffset packet = 0 ∧ flags packet % 2 = 0) ∧
            headerLength packet + 4 ≤ packet.length ∧ ¬ (headerLength packet + 8 ≤ packet.length ∧
              packet.byteAt (headerLength packet) = 8)) := by
  have hlen : (packet.drop (headerLength packet)).length = packet.length - headerLength packet :=
    List.length_drop
  simp only [buildGatewayEchoReply, parseInnerIpv4_bind]
  refine and_congr_right fun _ => ⟨fun hr hd hn => ?_, fun hpass => ?_⟩
  · have hdest : ¬ (Ipv4Route.ofPacket packet).destination ≠ gateway := not_not.mpr hd
    rw [if_neg hdest, if_neg (not_not.mpr hn), ensure_bind_ok, ensure_bind_ok] at hr
    obtain ⟨hf, h4, hr⟩ := hr
    refine ⟨hf, by omega, ?_⟩
    rintro ⟨h8, htype⟩
    rw [if_neg] at hr
    · exact absurd (Except.ok.inj hr) (Option.some_ne_none _)
    · rw [not_or, not_not, not_lt, byteAt_drop]
      exact ⟨htype, by omega⟩
  · split
    · rfl
    rename_i hd
    split
    · rfl
    rename_i hn
    obtain ⟨hf, h4, h8⟩ := hpass (not_not.mp hd) (not_not.mp hn)
    rw [ensure_bind_ok, ensure_bind_ok]
    refine ⟨hf, by omega, if_pos ?_⟩
    rw [byteAt_drop, Nat.add_zero]
    omega

end

/-- **The gateway answers the pings of a WireGuard peer.** -/
theorem buildGatewayEchoReply_correct (packet : Bytes) (source gateway : Ipv4Addr) :
    buildGatewayEchoReplyIndexed packet source gateway =
        some (buildGatewayEchoReply packet source gateway) ∧
      ((∃ reply, buildGatewayEchoReply packet source gateway = .ok (some reply)) ↔
        GatewayEcho packet source gateway) ∧
      ∀ reply, buildGatewayEchoReply packet source gateway = .ok (some reply) →
        EchoAnswer packet reply gateway source [0, 2, 3] := by
  refine ⟨buildGatewayEchoReplyIndexed_eq packet source gateway, ?_, fun _ => .of_build⟩
  simp only [buildGatewayEchoReply_eq_some, exists_and_left, exists_eq, and_true]

/-- A ping of 10.26.0.1 by 10.26.0.2 with three bytes of data, which has options and says to be
`total` bytes long. -/
def ping (total : UInt8) : Bytes :=
  [0x46, 0, 0, total, 0, 7, 0, 0, 64, 1, 0, 0, 10, 26, 0, 2, 10, 26, 0, 1, 1, 1, 1, 0,
    8, 0, 0, 0, 0, 1, 0, 2, 104, 105, 33]

theorem buildGatewayEchoReply_correct_ping :
    GatewayEcho (ping 35) 0x0a1a0002 0x0a1a0001 ∧
      ∃ reply, EchoAnswer (ping 35) reply 0x0a1a0001 0x0a1a0002 [0, 2, 3] := by
  have h : GatewayEcho (ping 35) 0x0a1a0002 0x0a1a0001 :=
    ⟨⟨by decide, by decide, by decide, by decide, by decide⟩, by decide, by decide, by decide,
      by decide, by decide, by decide⟩
  obtain ⟨-, hiff, hanswer⟩ := buildGatewayEchoReply_correct (ping 35) 0x0a1a0002 0x0a1a0001
  obtain ⟨reply, hreply⟩ := hiff.mpr h
  exact ⟨h, reply, hanswer reply hreply⟩

/-! ## Pings of VNT clients -/

/-- The frame of an answer, with the sequence number of the frame of the ping. -/
def pingFrame (seq : BitVec 32) (ipv4 : Bytes) : Bytes :=
  [NetPacket.typeByte .turn, 0x11, 0x40, 0] ++ (Bytes.ofU32 seq ++ (List.replicate 8 0 ++ ipv4))

/-- `handle_icmp_ping`. The packet is read as far as the frame goes; its length fields are only
used. -/
def handleIcmpPing (packet : NetPacket) : Option (Option Bytes) :=
  let payload := packet.payload
  if payload.length < minimumPacketSize ∨ nextLevelProtocol payload ≠ Ipv4Packet.icmp then some none
  else
    let icmpPayload := Ipv4Packet.payload payload
    if icmpPayload.length < 8 ∨ icmpPayload.byteAt 0 ≠ 8 then some none
    else do
      let replyIpBuf ← payload.sliceTo (totalLength payload)
      if replyIpBuf.length < minimumPacketSize then some none
      else
        let replyIpBuf := replyIpBuf.writeU32 12 (destination payload)
        let replyIpBuf := replyIpBuf.writeU32 16 (source payload)
        let replyIpBuf := replyIpBuf.writeU16 10 (clampedChecksum replyIpBuf)
        let icmpBuf ← replyIpBuf.sliceFrom (headerLength payload)
        if icmpBuf.length < 4 then some none
        else
          let icmpBuf : Bytes := (icmpBuf.set 0 0).set 1 0
          let icmpBuf := icmpBuf.writeU16 2 (icmpBuf.checksum 1)
          some (some (pingFrame packet.seq (replyIpBuf.take (headerLength payload) ++ icmpBuf)))

/-- A ping as far as the first bytes say. -/
structure EchoHeaders (payload : Bytes) : Prop where
  min_le : minimumPacketSize ≤ payload.length
  protocol : nextLevelProtocol payload = Ipv4Packet.icmp
  long : 8 ≤ (Ipv4Packet.payload payload).length
  echoRequest : (Ipv4Packet.payload payload).byteAt 0 = 8

/-- A ping whose total length is that of the buffer. -/
structure WellFormedEcho (payload : Bytes) : Prop where
  header : 20 ≤ headerLength payload
  total : totalLength payload = payload.length
  protocol : nextLevelProtocol payload = Ipv4Packet.icmp
  long : headerLength payload + 8 ≤ payload.length
  echoRequest : payload.byteAt (headerLength payload) = 8

/-- A ping that says to be longer than the frame is. -/
structure Overlong (payload : Bytes) : Prop where
  headers : EchoHeaders payload
  length_lt : payload.length < totalLength payload

theorem WellFormedEcho.headers {payload : Bytes} (h : WellFormedEcho payload) :
    EchoHeaders payload := by
  have hlong := h.long
  have hheader := h.header
  have hp := payload_eq h.header h.total
  refine ⟨?_, h.protocol, ?_, ?_⟩
  · unfold minimumPacketSize
    omega
  · rw [hp, List.length_drop]
    omega
  · rw [hp, byteAt_drop]
    exact h.echoRequest

theorem handleIcmpPing_of_headers {packet : NetPacket} (h : EchoHeaders packet.payload) :
    handleIcmpPing packet = (packet.payload.sliceTo (totalLength packet.payload)).bind fun reply =>
      if reply.length < minimumPacketSize then some none
      else
        let reply := reply.writeU32 12 (destination packet.payload)
        let reply := reply.writeU32 16 (source packet.payload)
        let reply := reply.writeU16 10 (clampedChecksum reply)
        (reply.sliceFrom (headerLength packet.payload)).bind fun icmpBuf =>
          if icmpBuf.length < 4 then some none
          else
            let icmpBuf := sealIcmp ((icmpBuf.set 0 0).set 1 0)
            some (some (pingFrame packet.seq
              (reply.take (headerLength packet.payload) ++ icmpBuf))) := by
  have h1 : ¬ (packet.payload.length < minimumPacketSize ∨
      nextLevelProtocol packet.payload ≠ Ipv4Packet.icmp) :=
    not_or.mpr ⟨Nat.not_lt.mpr h.min_le, not_not.mpr h.protocol⟩
  have h2 : ¬ ((Ipv4Packet.payload packet.payload).length < 8 ∨
      (Ipv4Packet.payload packet.payload).byteAt 0 ≠ 8) :=
    not_or.mpr ⟨Nat.not_lt.mpr h.long, not_not.mpr h.echoRequest⟩
  unfold handleIcmpPing
  rw [if_neg h1, if_neg h2]
  rfl

/-- The only slice that can be out of range is the copy of the packet. -/
theorem handleIcmpPing_eq_none {packet : NetPacket} :
    handleIcmpPing packet = none ↔ Overlong packet.payload := by
  by_cases h : EchoHeaders packet.payload
  · rw [handleIcmpPing_of_headers h]
    by_cases hlt : packet.payload.length < totalLength packet.payload
    · rw [sliceTo_eq_none.mpr hlt]
      exact iff_of_true rfl ⟨h, hlt⟩
    · refine iff_of_false ?_ fun ho => hlt ho.length_lt
      have hle : (Ipv4Packet.payload packet.payload).length ≤ _ := List.length_take_le _ _
      have hlong := h.long
      rw [sliceTo_of_le (Nat.le_of_not_lt hlt), Option.bind_some]
      split
      · exact Option.some_ne_none none
      · -- The copy holds the header and eight bytes of the message.
        simp only
        rw [sliceFrom_of_le, Option.bind_some]
        · split
          · exact Option.some_ne_none none
          · exact Option.some_ne_none _
        · rw [length_writeU16, length_writeU32, length_writeU32, List.length_take]
          omega
  · refine iff_of_false ?_ fun ho => h ho.headers
    simp only [handleIcmpPing]
    split
    · exact Option.some_ne_none none
    · rename_i h1
      rw [not_or, not_lt, not_not] at h1
      split
      · exact Option.some_ne_none none
      · rename_i h2
        rw [not_or, not_lt, not_not] at h2
        exact absurd ⟨h1.1, h1.2, h2.1, h2.2⟩ h

/-- The answer to a ping with correct lengths. -/
theorem handleIcmpPing_of_wellFormed {packet : NetPacket} (h : WellFormedEcho packet.payload) :
    handleIcmpPing packet = some (some (pingFrame packet.seq
      (readdress (packet.payload.take (headerLength packet.payload))
          (destination packet.payload) (source packet.payload) ++
        sealIcmp (((packet.payload.drop (headerLength packet.payload)).set 0 0).set 1 0)))) := by
  rw [handleIcmpPing_of_headers h.headers, h.total, sliceTo_of_le (Nat.le_refl _),
    List.take_length, Option.bind_some, if_neg (Nat.not_lt.mpr h.headers.min_le)]
  have hheader := h.header
  have hlong := h.long
  generalize packet.payload = payload at *
  have hle : headerLength payload ≤ payload.length := by omega
  have hrlen : (readdress (payload.take (headerLength payload)) (destination payload)
      (source payload)).length = headerLength payload := length_readdress_header hheader hle
  simp only
  rw [clampedChecksum_eq]
  · -- The copy is the readdressed header and the message.
    show (sliceFrom (readdress payload (destination payload) (source payload)) _).bind _ = _
    have hcopy : readdress payload (destination payload) (source payload) =
        readdress (payload.take (headerLength payload)) (destination payload) (source payload) ++
          payload.drop (headerLength payload) := by
      rw [← readdress_header_append hheader hle, List.take_append_drop]
    have hdrop : (readdress payload (destination payload) (source payload)).drop
        (headerLength payload) = payload.drop (headerLength payload) := by
      rw [hcopy, List.drop_left' hrlen]
    have hlen : (readdress payload (destination payload) (source payload)).length =
        payload.length := by
      rw [readdress, length_writeU16, length_writeU32, length_writeU32]
    rw [sliceFrom_of_le (by omega), Option.bind_some, hdrop, if_neg]
    · show some (some (pingFrame packet.seq (List.take _ (readdress payload _ _) ++ _))) = _
      rw [hcopy, List.take_left' hrlen]
    · rw [List.length_drop]
      omega
  · rw [headerLength_addresses]
    exact hheader
  · rw [headerLength_addresses, length_writeU32, length_writeU32]
    exact hle

theorem length_pingFrame (seq : BitVec 32) (ipv4 : Bytes) :
    headLength ≤ (pingFrame seq ipv4).length := by
  simp only [pingFrame, ofU32, List.length_append, List.length_cons, List.length_nil,
    List.length_replicate, headLength]
  omega

/-- The frame is read as it was built. -/
theorem new_pingFrame (seq : BitVec 32) (ipv4 : Bytes) :
    ∃ q, NetPacket.new (pingFrame seq ipv4) = some q ∧ q.msgType = some .turn ∧
      q.isGateway = true ∧ q.seq = seq ∧ q.payload = ipv4 := by
  have hl := length_pingFrame seq ipv4
  have h2 : byteAt (pingFrame seq ipv4) 2 = 0x40 := rfl
  refine ⟨⟨_, hl⟩, dif_pos hl, ?_, ?_, ?_, rfl⟩
  · exact NetPacket.msgType_of_typeByte rfl
  · rw [NetPacket.isGateway, h2]
    decide
  · exact readU32_ofU32 _ _ _

/-- A ping is answered without a panic, and correctly if it is one. -/
structure PingAnswered (packet : NetPacket) : Prop where
  returns : handleIcmpPing packet ≠ none
  correct : WellFormedEcho packet.payload → ∃ frame q,
    handleIcmpPing packet = some (some frame) ∧ NetPacket.new frame = some q ∧
      q.msgType = some .turn ∧ q.isGateway = true ∧ q.seq = packet.seq ∧
      EchoAnswer packet.payload q.payload (destination packet.payload) (source packet.payload)
        [0, 1, 2, 3] ∧
      q.payload.byteAt (headerLength packet.payload + 1) = 0

/-- **The gateway answers the pings of VNT clients**, except those that are cut off. -/
theorem handleIcmpPing_correct_iff (packet : NetPacket) :
    PingAnswered packet ↔ ¬ Overlong packet.payload := by
  rw [← handleIcmpPing_eq_none]
  refine ⟨PingAnswered.returns, fun hreturns => ⟨hreturns, fun h => ?_⟩⟩
  obtain ⟨q, hq, htype, hgateway, hseq, hpayload⟩ := new_pingFrame packet.seq
    (readdress (packet.payload.take (headerLength packet.payload)) (destination packet.payload)
        (source packet.payload) ++
      sealIcmp (((packet.payload.drop (headerLength packet.payload)).set 0 0).set 1 0))
  refine ⟨_, q, handleIcmpPing_of_wellFormed h, hq, htype, hgateway, hseq, ?_⟩
  rw [hpayload]
  have hheader := h.header
  have hlong := h.long
  have hmax : packet.payload.length < 65536 := h.total ▸ Bytes.readU16_lt _ _
  have hdrop : (packet.payload.drop (headerLength packet.payload)).length =
      packet.payload.length - headerLength packet.payload := List.length_drop
  refine ⟨.of_halves hheader (by omega) (by omega) ?_ ?_ (by decide) (by decide) ?_, ?_⟩
  · rw [List.length_set, List.length_set]
    omega
  · intro i hi
    rw [List.getElem?_set_ne (ne_of_mem_of_not_mem (by decide) hi),
      List.getElem?_set_ne (ne_of_mem_of_not_mem (by decide) hi), List.getElem?_drop]
  · rw [Bytes.byteAt_set_ne _ (by decide), Bytes.byteAt_set_self _ (by omega)]
    rfl
  · -- The code is the second byte of the message.
    have h1 := Bytes.byteAt_append_right (readdress (packet.payload.take
        (headerLength packet.payload)) (destination packet.payload) (source packet.payload))
      (sealIcmp (((packet.payload.drop (headerLength packet.payload)).set 0 0).set 1 0)) 1
    rw [length_readdress_header hheader (by omega)] at h1
    rw [h1, sealIcmp, Bytes.byteAt_congr (Bytes.getElem?_writeU16 _ (.inl (by decide)) _),
      Bytes.byteAt_set_self _ (by rw [List.length_set]; omega)]
    rfl

/-- The frame of a ping to the gateway. -/
def pingPacket (total : UInt8) : NetPacket := ⟨pingFrame 1 (ping total), length_pingFrame 1 _⟩

theorem handleIcmpPing_correct_iff_ping :
    WellFormedEcho (pingPacket 35).payload ∧ PingAnswered (pingPacket 35) := by
  have h : WellFormedEcho (pingPacket 35).payload :=
    ⟨by decide, by decide, by decide, by decide, by decide⟩
  refine ⟨h, (handleIcmpPing_correct_iff (pingPacket 35)).mpr fun ho => ?_⟩
  exact Nat.lt_irrefl _ (h.total ▸ ho.length_lt)

/-- A ping of which the last byte is missing. -/
theorem handleIcmpPing_panics :
    (pingPacket 36).msgType = some .turn ∧ (pingPacket 36).isGateway = true ∧
      (pingPacket 36).ttl ≠ 0 ∧ Ipv4Packet.version (pingPacket 36).payload = 4 ∧
      handleIcmpPing (pingPacket 36) = none ∧ ¬ PingAnswered (pingPacket 36) := by
  have h : handleIcmpPing (pingPacket 36) = none := by decide +kernel
  exact ⟨by decide, by decide, by decide, by decide, h, fun ha => ha.returns h⟩

end Vntc
