import Vntc.Server.Relay.AgentControl
import Vntc.Server.WireGuard.Profile

/-!
# What a packet of a WireGuard peer is for

`process_peer_packet` tries five checks one after the other, each of which reads the packet anew.
Here is what the chain comes to: five kinds of packets that exclude each other, and what is done
with each kind (`Acts`). All other packets are rejected.

* `ForControl` and `GatewayEcho` are the packets that the gateway takes.
* `ForGroup`, `ForHost` and `ForLan` are the packets that are relayed, by their destination. All of
  them pass.
* Each check accepts the packets of its kind (`validateBroadcast_iff`, `validateInner_iff`,
  `validateSubnet_iff`), once the ones before have left the packet to it (`passes_of_checks`).
-/

namespace Vntc

open Lib Ipv4Packet

/-! ## Kinds of packets -/

section
variable (inner : Bytes) (source gateway : Ipv4Addr)

/-- A datagram for the control port, from a packet as it is relayed. -/
structure ForControl : Prop where
  plain : PlainIpv4 inner
  datagram : GatewayDatagram inner source gateway
  port : inner.readU16 (headerLength inner + 2) = agentControlPort

/-- A packet that is neither for the control port nor a ping, and that has the headers to tell. -/
structure PassesGateway : Prop where
  udp : nextLevelProtocol inner = Ipv4Packet.udp → GatewayDatagram inner source gateway ∧
    inner.readU16 (headerLength inner + 2) ≠ agentControlPort
  icmp : nextLevelProtocol inner = Ipv4Packet.icmp →
    (fragmentOffset inner = 0 ∧ flags inner % 2 = 0) ∧ headerLength inner + 4 ≤ inner.length ∧
      ¬ (headerLength inner + 8 ≤ inner.length ∧ inner.byteAt (headerLength inner) = 8)

end

/-- A broadcast or a multicast address. -/
def IsGroup (net : Ipv4Net) (ip : Ipv4Addr) : Prop :=
  ip = Ipv4Addr.broadcast ∨ ip = net.broadcast ∨ ip.isMulticast = true

section
variable (st : NetworkState) (peer : ActivePeer) (inner : Bytes)

/-- The gateway does not take the packet. -/
def Passes : Prop :=
  destination inner = st.gateway → PassesGateway inner peer.reservedIp st.gateway

structure ForGroup : Prop where
  plain : PlainIpv4 inner
  passes : Passes st peer inner
  group : IsGroup st.net (destination inner)
  source : st.net.contains peer.reservedIp = true ∧ peer.reservedIp ≠ st.gateway

structure ForHost : Prop where
  plain : PlainIpv4 inner
  host : st.net.IsHost (destination inner) ∧ destination inner ≠ st.gateway
  not_group : ¬ IsGroup st.net (destination inner)

structure ForLan : Prop where
  plain : PlainIpv4 inner
  passes : Passes st peer inner
  outside : st.net.contains (destination inner) = false
  not_group : ¬ IsGroup st.net (destination inner)
  specified : (destination inner).isUnspecified = false
  source : st.net.IsHost peer.reservedIp ∧ peer.reservedIp ≠ st.gateway
  covered : ∃ r ∈ peer.routes, r.lanNetwork.contains (destination inner) = true

/-- The kinds of packets that are not rejected. -/
def packetKinds : List Prop :=
  [ForControl inner peer.reservedIp st.gateway, GatewayEcho inner peer.reservedIp st.gateway,
    ForGroup st peer inner, ForHost st inner, ForLan st peer inner]

/-- What is done with a packet, by its kind. -/
inductive Acts (env : PeerEnv) : Ingress → Prop
  | control (h : ForControl inner peer.reservedIp st.gateway) {request : AgentControlRequest}
      (decoded : env.decode (udpPayload inner) = some (request.targetIp, request.requestId))
      (sourcePort : request.sourcePort = inner.readU16 (headerLength inner)) :
      Acts env (.control request)
  | controlRejected (h : ForControl inner peer.reservedIp st.gateway)
      (why : env.limited = true ∨ ∀ request,
        parseAgentControl env.decode inner peer.reservedIp st.gateway ≠ .request request) :
      Acts env .rejected
  | reply (h : GatewayEcho inner peer.reservedIp st.gateway) {packet : Bytes}
      (answer : EchoAnswer inner packet st.gateway peer.reservedIp [0, 2, 3]) :
      Acts env (.reply packet)
  | broadcast (h : ForGroup st peer inner) : Acts env (.broadcast peer.reservedIp inner)
  | unicast (h : ForHost st inner) :
      Acts env (.unicast (destination inner) (buildWireguardRelay inner (.ofPacket inner)))
  | subnet (h : ForLan st peer inner) {r : WireGuardPeerRouteRecord}
      (route : LongestMatch peer.routes (destination inner) r) :
      Acts env (.subnet r.vntCliIp (buildWireguardSubnetRelay inner (.ofPacket inner) r.vntCliIp))
  | rejected (h : ∀ kind ∈ packetKinds st peer inner, ¬ kind) : Acts env .rejected

end

section
variable {st : NetworkState} {peer : ActivePeer} {inner : Bytes}

theorem not_packetKinds :
    (∀ kind ∈ packetKinds st peer inner, ¬ kind) ↔ ¬ ForControl inner peer.reservedIp st.gateway ∧
      ¬ GatewayEcho inner peer.reservedIp st.gateway ∧ ¬ ForGroup st peer inner ∧
      ¬ ForHost st inner ∧ ¬ ForLan st peer inner := by
  simp only [packetKinds, List.forall_mem_cons, List.not_mem_nil, false_imp_iff, implies_true,
    and_true]

theorem plain_of_controlDatagram {source gateway : Ipv4Addr}
    (h : ControlDatagram inner source gateway) : PlainIpv4 inner := by
  have hheader := h.header
  have hlong := h.long
  have hle : inner.length ≤ headerLength inner + 8 + 1024 := h.payload_le
  have hmax : headerLength inner ≤ 60 := by
    unfold headerLength
    omega
  refine ⟨by omega, ?_, h.version, ⟨hheader, by omega⟩, h.total⟩
  unfold maxInnerIpv4PacketSize
  omega

/-! ## What the gateway takes -/

theorem Passes.not_control (h : Passes st peer inner) :
    ¬ ForControl inner peer.reservedIp st.gateway :=
  fun hc => ((h hc.datagram.destination).udp hc.datagram.protocol).2 hc.port

theorem Passes.not_echo (h : Passes st peer inner) :
    ¬ GatewayEcho inner peer.reservedIp st.gateway :=
  fun he => ((h he.destination).icmp he.protocol).2.2 ⟨he.long, he.echoRequest⟩

theorem ForControl.not_echo {source gateway : Ipv4Addr} (h : ForControl inner source gateway) :
    ¬ GatewayEcho inner source gateway := by
  intro he
  have hprotocol := h.datagram.protocol
  rw [he.protocol] at hprotocol
  exact absurd hprotocol (by decide)

theorem ForHost.passes (h : ForHost st inner) : Passes st peer inner :=
  fun hd => absurd hd h.host.2

theorem Passes.parse_eq (h : Passes st peer inner)
    (decode : Bytes → Option (Ipv4Addr × BitVec 64)) :
    parseAgentControl decode inner peer.reservedIp st.gateway = .notControl := by
  rw [parseAgentControl_eq_notControl, or_iff_not_imp_left, not_not]
  rintro ⟨-, -, -, hd, hu⟩
  exact (h hd).udp hu

theorem GatewayEcho.parse_eq {source gateway : Ipv4Addr} (h : GatewayEcho inner source gateway)
    (decode : Bytes → Option (Ipv4Addr × BitVec 64)) :
    parseAgentControl decode inner source gateway = .notControl := by
  refine parseAgentControl_eq_notControl.mpr (.inl ?_)
  rintro ⟨-, -, -, -, hu⟩
  rw [h.protocol] at hu
  exact absurd hu (by decide)

theorem Passes.build_eq (h : Passes st peer inner) (hp : PlainIpv4 inner)
    (hs : source inner = peer.reservedIp) :
    buildGatewayEchoReply inner peer.reservedIp st.gateway = .ok none :=
  buildGatewayEchoReply_eq_none.mpr ⟨⟨hp, hs⟩, fun hd => (h hd).icmp⟩

/-- The first two checks leave a packet to the others. -/
theorem passes_of_checks {decode : Bytes → Option (Ipv4Addr × BitVec 64)}
    (hparse : parseAgentControl decode inner peer.reservedIp st.gateway = .notControl)
    (hbuild : buildGatewayEchoReply inner peer.reservedIp st.gateway = .ok none) :
    PlainIpv4 inner ∧ Passes st peer inner := by
  obtain ⟨⟨hplain, hs⟩, hicmp⟩ := buildGatewayEchoReply_eq_none.mp hbuild
  refine ⟨hplain, fun hd => ⟨fun hu => ?_, hicmp hd⟩⟩
  refine (parseAgentControl_eq_notControl.mp hparse).resolve_left (not_not.mpr ?_)
  exact ⟨hplain.min_le, hplain.version, hs, hd, hu⟩

/-! ## What is relayed -/

theorem isGroup_iff {net : Ipv4Net} {ip : Ipv4Addr} :
    IsGroup net ip ↔
      ¬ (ip ≠ Ipv4Addr.broadcast ∧ ip ≠ net.broadcast ∧ ¬ ip.isMulticast = true) := by
  rw [not_and_or, not_and_or, not_not, not_not, not_not]
  exact Iff.rfl

theorem validateBroadcast_iff {route : Ipv4Route} (hp : PlainIpv4 inner)
    (hpass : Passes st peer inner) (hs : source inner = peer.reservedIp) :
    validateBroadcastInnerIpv4 inner peer.reservedIp st.net st.gateway = .ok route ↔
      route = .ofPacket inner ∧ ForGroup st peer inner := by
  rw [validateBroadcastInnerIpv4_ok]
  constructor
  · rintro ⟨-, rfl, -, hmember, hgroup⟩
    rw [not_or, not_not] at hmember
    refine ⟨rfl, hp, hpass, isGroup_iff.mpr hgroup, ?_⟩
    rw [← hs]
    exact ⟨hmember.2, hmember.1⟩
  · rintro ⟨rfl, h⟩
    refine ⟨hp, rfl, hs, ?_, isGroup_iff.mp h.group⟩
    have hsource := h.source
    rw [← hs] at hsource
    exact fun hn => hn.elim hsource.2 fun hout => hout hsource.1

theorem validateInner_iff {route : Ipv4Route} (hp : PlainIpv4 inner)
    (hs : source inner = peer.reservedIp) :
    validateInnerIpv4 inner peer.reservedIp st.net st.gateway = .ok route ↔
      route = .ofPacket inner ∧ ForHost st inner := by
  rw [validateInnerIpv4_ok]
  constructor
  · rintro ⟨-, rfl, -, hd, hc⟩
    simp only [not_or] at hd
    obtain ⟨hb, hm, hn, hnb, hg⟩ := hd
    refine ⟨rfl, hp, ⟨⟨hc, hn, hnb⟩, hg⟩, ?_⟩
    rintro (h | h | h)
    · exact hb h
    · exact hnb h
    · exact hm h
  · rintro ⟨rfl, h⟩
    obtain ⟨⟨hc, hn, hnb⟩, hg⟩ := h.host
    refine ⟨hp, rfl, hs, ?_, hc⟩
    rintro (hd | hd | hd | hd | hd)
    · exact h.not_group (.inl hd)
    · exact h.not_group (.inr (.inr hd))
    · exact hn hd
    · exact hnb hd
    · exact hg hd

theorem validateSubnet_iff {route : Ipv4Route} {r : WireGuardPeerRouteRecord}
    (hp : PlainIpv4 inner) (hpass : Passes st peer inner) (hs : source inner = peer.reservedIp)
    (hr : r ∈ peer.routes) (hcontains : r.lanNetwork.contains (destination inner) = true) :
    validateSubnetInnerIpv4 inner peer.reservedIp st.net st.gateway r.lanNetwork = .ok route ↔
      route = .ofPacket inner ∧ ForLan st peer inner := by
  rw [validateSubnetInnerIpv4_ok]
  constructor
  · rintro ⟨-, rfl, -, hsource, hd, -⟩
    simp only [not_or, not_not] at hsource hd
    obtain ⟨hc, hn, hnb, hg⟩ := hsource
    obtain ⟨hu, hb, hm, hout⟩ := hd
    refine ⟨rfl, hp, hpass, Bool.eq_false_iff.mpr hout, ?_, Bool.eq_false_iff.mpr hu, ?_,
      r, hr, hcontains⟩
    · rintro (h | h | h)
      · exact hb h
      · -- The broadcast address of the network lies inside.
        exact hout ((congrArg st.net.contains h).trans st.net.contains_broadcast)
      · exact hm h
    · rw [← hs]
      exact ⟨⟨hc, hn, hnb⟩, hg⟩
  · rintro ⟨rfl, h⟩
    have hsource := h.source
    rw [← hs] at hsource
    obtain ⟨⟨hc, hn, hnb⟩, hg⟩ := hsource
    refine ⟨hp, rfl, hs, ?_, ?_, hcontains⟩
    · rintro (hd | hd | hd | hd)
      · exact hd hc
      · exact hn hd
      · exact hnb hd
      · exact hg hd
    · rintro (hd | hd | hd | hd)
      · exact Bool.eq_false_iff.mp h.specified hd
      · exact h.not_group (.inl hd)
      · exact h.not_group (.inr (.inr hd))
      · exact Bool.eq_false_iff.mp h.outside hd

/-! ## The chain of checks -/

theorem packetKinds_exclusive : (packetKinds st peer inner).Pairwise fun a b => ¬ (a ∧ b) := by
  simp only [packetKinds, List.pairwise_cons, List.forall_mem_cons, List.not_mem_nil, false_imp_iff,
    implies_true, and_true, List.Pairwise.nil]
  refine ⟨⟨?_, ?_, ?_, ?_⟩, ⟨?_, ?_, ?_⟩, ⟨?_, ?_⟩, ?_⟩
  · exact fun h => h.1.not_echo h.2
  · exact fun h => h.2.passes.not_control h.1
  · exact fun h => h.2.passes.not_control h.1
  · exact fun h => h.2.passes.not_control h.1
  · exact fun h => h.2.passes.not_echo h.1
  · exact fun h => h.2.passes.not_echo h.1
  · exact fun h => h.2.passes.not_echo h.1
  · exact fun h => h.2.not_group h.1.group
  · exact fun h => h.2.not_group h.1.group
  · exact fun h => Bool.eq_false_iff.mp h.2.outside h.1.host.1.1

/-- A packet that the first two checks reject, unless it is for the control port. -/
theorem not_packetKinds_of_checks (decode : Bytes → Option (Ipv4Addr × BitVec 64))
    (hs : source inner = peer.reservedIp) (hcontrol : ¬ ForControl inner peer.reservedIp st.gateway)
    (hecho : ¬ GatewayEcho inner peer.reservedIp st.gateway)
    (h : ¬ (parseAgentControl decode inner peer.reservedIp st.gateway = .notControl ∧
      buildGatewayEchoReply inner peer.reservedIp st.gateway = .ok none)) :
    ∀ kind ∈ packetKinds st peer inner, ¬ kind := by
  have hpass : ¬ (PlainIpv4 inner ∧ Passes st peer inner) :=
    fun hp => h ⟨hp.2.parse_eq decode, hp.2.build_eq hp.1 hs⟩
  exact not_packetKinds.mpr ⟨hcontrol, hecho, fun hg => hpass ⟨hg.plain, hg.passes⟩,
    fun hh => hpass ⟨hh.plain, hh.passes⟩, fun hl => hpass ⟨hl.plain, hl.passes⟩⟩

variable {env : PeerEnv}

/-- A packet that the gateway leaves to the other checks. -/
theorem acts_of_passes (hp : PlainIpv4 inner) (hpass : Passes st peer inner)
    (hs : source inner = peer.reservedIp) :
    Acts st peer inner env (st.ingress env peer inner (source inner)) := by
  unfold NetworkState.ingress
  rw [if_neg (not_not.mpr hs), hpass.parse_eq, hpass.build_eq hp hs]
  cases hgroup : validateBroadcastInnerIpv4 inner peer.reservedIp st.net st.gateway with
  | ok route =>
    obtain ⟨rfl, h⟩ := (validateBroadcast_iff hp hpass hs).mp hgroup
    have hsource : (Ipv4Route.ofPacket inner).source = peer.reservedIp := hs
    dsimp only
    rw [hsource]
    exact .broadcast h
  | error =>
    have hnotGroup : ¬ ForGroup st peer inner := fun h => by
      rw [(validateBroadcast_iff hp hpass hs).mpr ⟨rfl, h⟩] at hgroup
      cases hgroup
    cases hhost : validateInnerIpv4 inner peer.reservedIp st.net st.gateway with
    | ok route =>
      obtain ⟨rfl, h⟩ := (validateInner_iff hp hs).mp hhost
      exact .unicast h
    | error =>
      have hnotHost : ¬ ForHost st inner := fun h => by
        rw [(validateInner_iff hp hs).mpr ⟨rfl, h⟩] at hhost
        cases hhost
      have hrejected (hnotLan : ¬ ForLan st peer inner) : Acts st peer inner env .rejected :=
        .rejected (not_packetKinds.mpr
          ⟨hpass.not_control, hpass.not_echo, hnotGroup, hnotHost, hnotLan⟩)
      cases hroute : longestPrefixRoute peer.routes (destination inner) with
      | none =>
        refine hrejected fun h => ?_
        obtain ⟨r, hr, hcontains⟩ := h.covered
        exact longestPrefixRoute_eq_none.mp hroute r hr hcontains
      | some r =>
        have hmatch := longestMatch_of_some hroute
        dsimp only
        cases hlan : validateSubnetInnerIpv4 inner peer.reservedIp st.net st.gateway
            r.lanNetwork with
        | ok route =>
          obtain ⟨rfl, h⟩ := (validateSubnet_iff hp hpass hs hmatch.mem hmatch.contains).mp hlan
          exact .subnet h hmatch
        | error =>
          refine hrejected fun h => ?_
          rw [(validateSubnet_iff hp hpass hs hmatch.mem hmatch.contains).mpr ⟨rfl, h⟩] at hlan
          cases hlan

theorem ingress_acts (hs : source inner = peer.reservedIp) :
    Acts st peer inner env (st.ingress env peer inner (source inner)) := by
  have hreject (hcontrol : ¬ ForControl inner peer.reservedIp st.gateway) :=
    not_packetKinds_of_checks env.decode hs hcontrol
  unfold NetworkState.ingress
  rw [if_neg (not_not.mpr hs)]
  cases hparse : parseAgentControl env.decode inner peer.reservedIp st.gateway with
  | request r =>
    obtain ⟨hdatagram, hdecode, hport, -⟩ := parseAgentControl_eq_request.mp hparse
    have hcontrol : ForControl inner peer.reservedIp st.gateway :=
      ⟨plain_of_controlDatagram hdatagram, hdatagram.toGatewayDatagram, hdatagram.port⟩
    dsimp only
    split
    · rename_i hlimited
      exact .controlRejected hcontrol (.inl hlimited)
    · exact .control hcontrol hdecode hport
  | invalid =>
    by_cases hcontrol : ForControl inner peer.reservedIp st.gateway
    · refine .controlRejected hcontrol (.inr fun request hr => ?_)
      rw [hparse] at hr
      cases hr
    · refine .rejected (hreject hcontrol (fun he => ?_) fun h => ?_)
      · rw [he.parse_eq] at hparse
        cases hparse
      · rw [hparse] at h
        cases h.1
  | notControl =>
    -- A packet for the control port would not have come here.
    have hcontrol : ¬ ForControl inner peer.reservedIp st.gateway := by
      intro h
      rcases parseAgentControl_eq_notControl.mp hparse with hn | hn
      · exact hn ⟨h.plain.min_le, h.datagram.version, h.datagram.source, h.datagram.destination,
          h.datagram.protocol⟩
      · exact hn.2 h.port
    cases hbuild : buildGatewayEchoReply inner peer.reservedIp st.gateway with
    | error =>
      refine .rejected (hreject hcontrol (fun he => ?_) fun h => ?_)
      · rw [buildGatewayEchoReply_eq_some.mpr ⟨he, rfl⟩] at hbuild
        cases hbuild
      · rw [hbuild] at h
        cases h.2
    | ok answer =>
      cases answer with
      | none =>
        obtain ⟨hp, hpass⟩ := passes_of_checks hparse hbuild
        have hacts : Acts st peer inner env _ := acts_of_passes hp hpass hs
        rwa [NetworkState.ingress, if_neg (not_not.mpr hs), hparse, hbuild] at hacts
      | some reply =>
        exact .reply (buildGatewayEchoReply_eq_some.mp hbuild).1 (.of_build hbuild)

end

/-- What is done with a packet of a peer: the kinds exclude each other, an address inside the
network is never reached through a route, and one outside never directly. -/
theorem ingress_classified (st : NetworkState) (env : PeerEnv) (peer : ActivePeer) (inner : Bytes)
    (hs : source inner = peer.reservedIp) :
    Acts st peer inner env (st.ingress env peer inner (source inner)) ∧
      ((packetKinds st peer inner).Pairwise fun a b => ¬ (a ∧ b)) ∧
      (st.net.contains (destination inner) = true → ∀ vntGateway data,
        st.ingress env peer inner (source inner) ≠ .subnet vntGateway data) ∧
      (¬ st.net.contains (destination inner) = true → ∀ host data,
        st.ingress env peer inner (source inner) ≠ .unicast host data) := by
  have hacts : Acts st peer inner env (st.ingress env peer inner (source inner)) := ingress_acts hs
  refine ⟨hacts, packetKinds_exclusive, fun hin vntGateway data heq => ?_,
    fun hout host data heq => ?_⟩
  · rw [heq] at hacts
    cases hacts with
    | subnet h => exact Bool.eq_false_iff.mp h.outside hin
  · rw [heq] at hacts
    cases hacts with
    | unicast h => exact hout h.host.1.1

def homeNetwork : NetworkState := .newFromDb "home" defaultNet 0 none none 0

/-- Nothing is decoded, and nothing is limited. -/
def quietEnv : PeerEnv := ⟨fun _ => none, false, false, []⟩

/-- A packet from 10.26.0.2 without data. -/
def packetTo (a b c d : UInt8) : Bytes :=
  [0x45, 0, 0, 20, 0, 0, 0, 0, 64, 6, 0, 0, 10, 26, 0, 2, a, b, c, d]

theorem ingress_classified_nested :
    (∃ data, homeNetwork.ingress quietEnv ⟨homeIp 2, nestedRoutes⟩
      (packetTo 192 168 10 7) (homeIp 2) = .subnet (homeIp 11) data) ∧
      Acts homeNetwork ⟨homeIp 2, nestedRoutes⟩ (packetTo 192 168 10 7) quietEnv
        (homeNetwork.ingress quietEnv ⟨homeIp 2, nestedRoutes⟩
          (packetTo 192 168 10 7) (source (packetTo 192 168 10 7))) :=
  ⟨⟨_, rfl⟩, (ingress_classified homeNetwork quietEnv ⟨homeIp 2, nestedRoutes⟩
    (packetTo 192 168 10 7) (by decide)).1⟩

def zeroRoutes : List WireGuardPeerRouteRecord :=
  [⟨⟨Ipv4Addr.new 0 0 0 0, 8, by decide⟩, homeIp 10⟩]

/-- A packet to 0.0.0.0 is rejected although a route covers the address, and a packet to the peer
itself is relayed to it. -/
theorem ingress_zero_and_own :
    exampleProfile zeroRoutes = .ok ⟨"office", "phone", none, 25, zeroRoutes, false, 0, 0⟩ ∧
      homeNetwork.net.contains (destination (packetTo 0 0 0 0)) = false ∧
      (longestPrefixRoute zeroRoutes (destination (packetTo 0 0 0 0))).isSome = true ∧
      homeNetwork.ingress quietEnv ⟨homeIp 2, zeroRoutes⟩ (packetTo 0 0 0 0)
        (source (packetTo 0 0 0 0)) = .rejected ∧
      ∃ data, homeNetwork.ingress quietEnv ⟨homeIp 2, zeroRoutes⟩
        (packetTo 10 26 0 2) (source (packetTo 10 26 0 2)) =
          .unicast (homeIp 2) data :=
  ⟨by decide +kernel, by decide +kernel, by decide +kernel, rfl, _, rfl⟩

end Vntc
