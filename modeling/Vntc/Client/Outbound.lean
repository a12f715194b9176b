import Vntc.Client.Bridge
import Vntc.Lib.Sys
import Vntc.Server.Lease.Hosts
import Vntc.Server.Relay.Ingress

/-!
# Relayed IPv4 packets of a client

`HybridOutbound` of `vnt-core`'s `tunnel_core/outbound.rs`: the frames that a VNT client sends for
an IPv4 packet, and what it knows of the WireGuard peers of its network (`ServerInfoCollection` of
`context/mod.rs`). A packet comes from the TUN device or from the client's own IP stack, in a buffer
with room for a header in front (`protocol/transmission.rs`).
-/

namespace Vntc

open Lib Client.NetworkAddr NetPacket Client

namespace Client

/-! ## Buffers -/

/-- A buffer: the bytes in front of the data, and the data. -/
structure TransmissionBytes where
  headRoom : Bytes
  data : Bytes

def defaultBufSize : Nat := 2048

namespace TransmissionBytes

def newOffset (start : Nat) : TransmissionBytes := ⟨List.replicate start 0, []⟩

def newOffsetZeroed (start : Nat) : TransmissionBytes :=
  ⟨List.replicate start 0, List.replicate (defaultBufSize - start) 0⟩

variable (b : TransmissionBytes)

def put (data : Bytes) : Option TransmissionBytes :=
  if defaultBufSize - (b.headRoom.length + b.data.length) < data.length then none
  else some { b with data := b.data ++ data }

/-- Shorter data; no data of the buffer are beyond its end. -/
def setLen (newLen : Nat) : Option TransmissionBytes :=
  if defaultBufSize < b.headRoom.length + newLen then none
  else some { b with data := b.data.take newLen }

/-- The last bytes in front of the data become data. -/
def retreatHead (len : Nat) : Option TransmissionBytes :=
  if b.headRoom.length < len then none
  else
    let start := b.headRoom.length - len
    some ⟨b.headRoom.take start, b.headRoom.drop start ++ b.data⟩

end TransmissionBytes

/-- A packet of the TUN device (`BytesCodec::decode`). -/
def decodeTun (buf : Bytes) : Option TransmissionBytes :=
  if buf.isEmpty then none else (TransmissionBytes.newOffset headLength).put buf

/-- A packet of the IP stack, which writes it to the start of the data. -/
def recvIpStack (packet : Bytes) : Option TransmissionBytes :=
  let bytes := TransmissionBytes.newOffsetZeroed headLength
  if bytes.data.length < packet.length then none
  else TransmissionBytes.setLen { bytes with data := packet ++ bytes.data.drop packet.length }
    packet.length

/-- The buffers that get to `HybridOutbound`. -/
inductive Outgoing (data : TransmissionBytes) : Prop
  | tun {buf : Bytes} (h : decodeTun buf = some data)
  | ipStack {packet : Bytes} (h : recvIpStack packet = some data)

/-- The room for the header is there, and nothing was written to it. -/
theorem Outgoing.headRoom {data : TransmissionBytes} (h : Outgoing data) :
    data.headRoom = List.replicate headLength 0 := by
  rcases h with @⟨buf, h⟩ | @⟨packet, h⟩
  · simp only [decodeTun, TransmissionBytes.put, Option.ite_none_left_eq_some,
      Option.some_inj] at h
    rw [← h.2.2]
    rfl
  · simp only [recvIpStack, TransmissionBytes.setLen, Option.ite_none_left_eq_some,
      Option.some_inj] at h
    rw [← h.2.2]
    rfl

theorem Outgoing.retreatHead {data : TransmissionBytes} (h : Outgoing data) :
    data.retreatHead headLength = some ⟨[], List.replicate headLength 0 ++ data.data⟩ := by
  simp only [TransmissionBytes.retreatHead, h.headRoom, List.length_replicate, Nat.lt_irrefl,
    ↓reduceIte, Nat.sub_self, List.take_zero, List.drop_zero]

/-! ## Headers -/

section
variable (packet : NetPacket)

def setMsgType (kind : Vntc.MsgType) : NetPacket where
  buffer := packet.buffer.set 0 (NetPacket.typeByte kind)
  head_le := by rw [List.length_set]; exact packet.head_le

/-- The greatest and the current number of hops. -/
def setTtl (ttl : Nat) : NetPacket where
  buffer := packet.buffer.set 1 (UInt8.ofNat (ttl * 16 + ttl % 16))
  head_le := by rw [List.length_set]; exact packet.head_le

def setSrcId (id : BitVec 32) : NetPacket where
  buffer := packet.buffer.writeU32 8 id
  head_le := by rw [Bytes.length_writeU32]; exact packet.head_le

def setDestId (id : BitVec 32) : NetPacket where
  buffer := packet.buffer.writeU32 12 id
  head_le := by rw [Bytes.length_writeU32]; exact packet.head_le

/-- The fields that a client sets of each packet; the flags are left as they are. -/
def withHeader (kind : Vntc.MsgType) (source destination : Ipv4Addr) : NetPacket :=
  setTtl (setDestId (setSrcId (setMsgType packet kind) source) destination) 5

end

/-- The header is written over zeros, so the client's frames are byte for byte those that the server
builds. -/
theorem withHeader_buffer {packet : NetPacket} {ipv4 : Bytes}
    (h : packet.buffer = List.replicate headLength 0 ++ ipv4) (kind : Vntc.MsgType)
    (source destination : Ipv4Addr) :
    (withHeader packet kind source destination).buffer =
      buildWireguardEnvelope kind ipv4 source destination := by
  have hs := Bytes.writeU32_append [typeByte kind, 0, 0, 0, 0, 0, 0, 0]
    (0 :: 0 :: 0 :: 0 :: ipv4) source 0 0 0 0
  have hd := Bytes.writeU32_append
    ([typeByte kind, 0, 0, 0, 0, 0, 0, 0] ++ Bytes.ofU32 source) ipv4 destination 0 0 0 0
  simp only [withHeader, setTtl, setDestId, setSrcId, setMsgType, h]
  rw [show (List.replicate headLength (0 : UInt8) ++ ipv4).set 0 (typeByte kind) =
      [typeByte kind, 0, 0, 0, 0, 0, 0, 0] ++ (0 :: 0 :: 0 :: 0 :: 0 :: 0 :: 0 :: 0 :: ipv4)
    from rfl]
  rw [show (8 : Nat) = [typeByte kind, 0, 0, 0, 0, 0, 0, 0].length from rfl, hs,
    ← List.append_assoc]
  rw [show (12 : Nat) =
    ([typeByte kind, 0, 0, 0, 0, 0, 0, 0] ++ Bytes.ofU32 source).length from rfl, hd,
    List.append_assoc]
  rfl

/-! ## What a client knows of its network -/

inductive NodeType
  | vnt
  | wireguard
  deriving DecidableEq

structure ClientSimpleInfo where
  ip : Ipv4Addr
  online : Bool
  nodeType : NodeType
  deriving DecidableEq

structure ServerNodeInfo where
  connected : Bool
  clientMap : HashMap Ipv4Addr ClientSimpleInfo

/-- What the servers told the client, for each server. -/
structure ServerInfoCollection where
  serverNodeMap : HashMap Nat ServerNodeInfo

namespace ServerInfoCollection

variable (info : ServerInfoCollection)

def isWireguardClient (ip : Ipv4Addr) : Bool :=
  info.serverNodeMap.values.any fun server =>
    server.connected &&
      (server.clientMap.lookup ip).any fun client => client.online && client.nodeType == .wireguard

def entryOrDefault (serverId : Nat) : ServerNodeInfo :=
  (info.serverNodeMap.lookup serverId).getD ⟨false, ∅⟩

def insert (serverId : Nat) (node : ServerNodeInfo) : ServerInfoCollection :=
  ⟨info.serverNodeMap.insert serverId node⟩

/-- The map of a list of clients, without the client itself. -/
def others (selfIp : Ipv4Addr) (list : List ClientSimpleInfo) :
    HashMap Ipv4Addr ClientSimpleInfo :=
  .ofPairs ((list.filter (·.ip != selfIp)).map fun client => (client.ip, client))

def updateClientSimpleList (serverId : Nat) (selfIp : Ipv4Addr) (list : List ClientSimpleInfo)
    (isAll : Bool) : ServerInfoCollection :=
  let node := info.entryOrDefault serverId
  let map := others selfIp list
  info.insert serverId
    { node with clientMap := if isAll then map else node.clientMap.extend map }

def replaceClientListFromRpc (serverId : Nat) (selfIp : Ipv4Addr) (list : List ClientSimpleInfo) :
    ServerInfoCollection :=
  info.insert serverId { info.entryOrDefault serverId with clientMap := others selfIp list }

def setServerConnected (serverId : Nat) (val : Bool) : ServerInfoCollection :=
  info.insert serverId { info.entryOrDefault serverId with connected := val }

def clear : ServerInfoCollection := ⟨info.serverNodeMap.retainMut fun _ _ => some ⟨false, ∅⟩⟩

end ServerInfoCollection

inductive ServerInfoOp
  | update (serverId : Nat) (list : List ClientSimpleInfo) (isAll : Bool)
  | replace (serverId : Nat) (list : List ClientSimpleInfo)
  | connected (serverId : Nat) (val : Bool)
  | clear

namespace ServerInfoCollection

/-- A change of what the client at `selfIp` knows. It keeps its address as long as it runs. -/
def apply (selfIp : Ipv4Addr) (info : ServerInfoCollection) : ServerInfoOp → ServerInfoCollection
  | .update serverId list isAll => info.updateClientSimpleList serverId selfIp list isAll
  | .replace serverId list => info.replaceClientListFromRpc serverId selfIp list
  | .connected serverId val => info.setServerConnected serverId val
  | .clear => info.clear

/-- At first the servers told nothing. -/
def sys (selfIp : Ipv4Addr) : Sys ServerInfoCollection ServerInfoOp :=
  Sys.ofFun (fun info => ∀ id node, info.serverNodeMap.lookup id = some node → node.clientMap = ∅)
    (apply selfIp)

/-- No server's list has the address. -/
def Unlisted (ip : Ipv4Addr) (info : ServerInfoCollection) : Prop :=
  ∀ id node, info.serverNodeMap.lookup id = some node → node.clientMap.lookup ip = none

variable {selfIp : Ipv4Addr} {info : ServerInfoCollection}

theorem lookup_others (list : List ClientSimpleInfo) :
    (others selfIp list).lookup selfIp = none := by
  rw [Option.eq_none_iff_forall_ne_some]
  intro client h
  obtain ⟨c, hc, he⟩ := List.mem_map.mp (HashMap.mem_of_lookup_ofPairs h)
  have hne := (List.mem_filter.mp hc).2
  cases he
  simp at hne

theorem Unlisted.entryOrDefault (h : Unlisted selfIp info) (serverId : Nat) :
    (info.entryOrDefault serverId).clientMap.lookup selfIp = none := by
  unfold ServerInfoCollection.entryOrDefault
  cases hn : info.serverNodeMap.lookup serverId with
  | none => rfl
  | some node => exact h serverId node hn

theorem Unlisted.insert (h : Unlisted selfIp info) (serverId : Nat) {node : ServerNodeInfo}
    (hn : node.clientMap.lookup selfIp = none) : Unlisted selfIp (info.insert serverId node) := by
  intro id other hl
  rw [ServerInfoCollection.insert, HashMap.lookup_insert_if] at hl
  split at hl
  · cases hl
    exact hn
  · exact h id other hl

theorem Unlisted.apply (h : Unlisted selfIp info) (op : ServerInfoOp) :
    Unlisted selfIp (info.apply selfIp op) := by
  cases op with
  | update serverId list isAll =>
    refine h.insert serverId ?_
    have ho : (others selfIp list).lookup selfIp = none := lookup_others list
    cases isAll with
    | true => exact ho
    | false =>
      show (HashMap.extend _ _).lookup selfIp = none
      rw [HashMap.lookup_extend, ho]
      exact h.entryOrDefault serverId
  | replace serverId list => exact h.insert serverId (lookup_others list)
  | connected serverId val => exact h.insert serverId (h.entryOrDefault serverId)
  | clear =>
    intro id node hl
    show node.clientMap.lookup selfIp = none
    rw [ServerInfoCollection.apply, ServerInfoCollection.clear, HashMap.lookup_retainMut,
      Option.bind_eq_some_iff] at hl
    obtain ⟨-, -, hl⟩ := hl
    cases hl
    rfl

theorem unlisted_of_reach (h : (sys selfIp).Reach info) : Unlisted selfIp info := by
  refine h.invariant (fun s hs id node hn => ?_) fun s op s' hi hst => ?_
  · rw [hs id node hn]
    rfl
  · cases hst
    exact hi.apply op

/-- A client never takes itself for a WireGuard peer. -/
theorem isWireguardClient_self (h : (sys selfIp).Reach info) :
    info.isWireguardClient selfIp = false := by
  rw [isWireguardClient, List.any_eq_false]
  intro node hn
  obtain ⟨id, hl⟩ := HashMap.mem_values.mp hn
  simp [unlisted_of_reach h id node hl]

end ServerInfoCollection

/-! ## Frames of a client -/

/-- What happens to a packet. The last two are compressed, coded and encrypted on their way. -/
inductive Sent
  /-- A tunnel to the WireGuard peer took it. -/
  | tunnel (dest : Ipv4Addr) (ipv4 : Bytes)
  /-- To the server that knows the destination. -/
  | server (dest : Ipv4Addr) (packet : NetPacket)
  | defaultServer (packet : NetPacket)
  | turn (dest : Ipv4Addr) (packet : NetPacket)
  | broadcast (packet : NetPacket)

/-- The frame as it gets to a server, if it is sent as it is. -/
def Sent.raw : Sent → Option NetPacket
  | .server _ packet => some packet
  | .defaultServer packet => some packet
  | _ => none

structure HybridOutbound where
  serverInfo : ServerInfoCollection
  allowWireGuard : Bool
  /-- The LANs whose packets the client lets out. -/
  allowSubnet : List Ipv4Net
  /-- There is a tunnel to the peer, and it took the packet. -/
  wireguardP2p : Ipv4Addr → Bytes → Bool
  /-- The client behind which the destination is. -/
  externalRoute : Ipv4Addr → Option Ipv4Addr

namespace HybridOutbound

variable (out : HybridOutbound) (net : NetworkAddr) (data : TransmissionBytes)

/-- How a packet for a WireGuard peer is relayed, if it is. -/
def relayType (dest : Ipv4Addr) : Option Vntc.MsgType :=
  if Ipv4Packet.source data.data = net.ip then
    if (validateInnerIpv4 data.data net.ip net (some dest)).isNone then none
    else some .wireGuardRelay
  else do
    let route ← validateSubnetReplyInnerIpv4 data.data dest net
    if ¬ out.allowWireGuard = true ∨ ¬ out.allowSubnet.any (·.contains route.source) = true then
      none
    else some .wireGuardSubnetRelay

/-- The header goes in front of the packet; there is an error if there is no room for it. -/
def frame (kind : Vntc.MsgType) (dest : Ipv4Addr) : Option NetPacket := do
  let data ← data.retreatHead headLength
  let packet ← NetPacket.new data.data
  some (withHeader packet kind net.ip dest)

def ipv4Outbound : Option (List Sent) :=
  if data.data.length < Ipv4Packet.minimumPacketSize then some []
  else
    let dest := Ipv4Packet.destination data.data
    if net.network.contains dest && out.serverInfo.isWireguardClient dest then
      match out.relayType net data dest with
      | none => some []
      | some kind =>
        if kind == .wireGuardRelay && out.wireguardP2p dest data.data then
          some [.tunnel dest data.data]
        else (frame net data kind dest).map fun packet => [.server dest packet]
    else
      match if net.network.contains dest then some dest else out.externalRoute dest with
      -- The header is made before the route is looked up.
      | none => (frame net data .turn dest).map fun _ => []
      | some dest => (frame net data .turn dest).map fun packet => [.turn dest packet]

/-- The part of a broadcast that is for WireGuard peers. -/
def broadcastRelay : Option (List Sent) :=
  if out.allowWireGuard && (validateBroadcastInnerIpv4 data.data net.ip net).isSome then
    (frame net data .wireGuardBroadcastRelay Ipv4Addr.broadcast).map fun packet =>
      [.defaultServer packet]
  else some []

def ipv4BroadcastOutbound : Option (List Sent) := do
  let relayed ← out.broadcastRelay net data
  let packet ← frame net data .broadcast Ipv4Addr.broadcast
  some (relayed ++ [.broadcast packet])

end HybridOutbound

/-! ## Frames of the server -/

/-- The check of a relayed packet, by the type of its frame. -/
def validateFrame (packet : NetPacket) (addr : NetworkAddr) : Vntc.MsgType → Option Ipv4Route
  | .wireGuardRelay => validateRelay packet addr.ip addr
  | .wireGuardBroadcastRelay => validateBroadcastRelay packet addr.ip addr
  | .wireGuardSubnetRelay => validateSubnetRelay packet addr.ip addr
  | _ => none

section
variable {kind : Vntc.MsgType} {ipv4 : Bytes} {source destination : Ipv4Addr} {packet : NetPacket}

theorem refusesHeader_build
    (h : new (buildWireguardEnvelope kind ipv4 source destination) = some packet) :
    refusesHeader packet kind = false := by
  obtain ⟨he, -, -⟩ := envelope_of_build h
  refine refusesHeader_eq_false.mpr ⟨he.srcId.symm ▸ he, ?_, ?_⟩
  · have h2 : Bytes.byteAt (buildWireguardEnvelope kind ipv4 source destination) 2 = 0 := rfl
    rw [isFec, buffer_of_new h, h2]
    rfl
  · rw [ttl_build h]
    decide

/-- A frame of a client is one that the server could have built. -/
theorem frame_outgoing {addr : NetworkAddr} {data : TransmissionBytes} (h : Outgoing data) :
    HybridOutbound.frame addr data kind destination =
      new (buildWireguardEnvelope kind data.data addr.ip destination) := by
  have hl : headLength ≤ (List.replicate headLength (0 : UInt8) ++ data.data).length := by
    rw [List.length_append, List.length_replicate]
    exact Nat.le_add_right _ _
  have hn : new (List.replicate headLength 0 ++ data.data) = some ⟨_, hl⟩ := dif_pos hl
  have hb := @withHeader_buffer ⟨_, hl⟩ _ rfl kind addr.ip destination
  rw [← hb, new_buffer]
  simp only [HybridOutbound.frame, h.retreatHead, Option.bind_eq_bind, Option.bind_some, hn]

end

namespace HybridOutbound

variable {out : HybridOutbound} {addr : NetworkAddr} {data : TransmissionBytes} {sent : List Sent}
  {packet : NetPacket}

theorem relayType_eq_some {dest : Ipv4Addr} {kind : Vntc.MsgType}
    (h : out.relayType addr data dest = some kind) :
    kind = .wireGuardRelay ∧
        (∃ route, validateInnerIpv4 data.data addr.ip addr (some dest) = some route) ∨
      kind = .wireGuardSubnetRelay ∧
        ∃ route, validateSubnetReplyInnerIpv4 data.data dest addr = some route := by
  unfold relayType at h
  split at h
  · rw [Option.ite_none_left_eq_some, Option.isNone_iff_eq_none, Option.some_inj] at h
    obtain ⟨hv, rfl⟩ := h
    exact .inl ⟨rfl, Option.ne_none_iff_exists'.mp hv⟩
  · rw [Option.bind_eq_bind, Option.bind_eq_some_iff] at h
    obtain ⟨route, hv, h⟩ := h
    rw [Option.ite_none_left_eq_some, Option.some_inj] at h
    exact .inr ⟨h.2.symm, route, hv⟩

/-- What is sent as it is, of a packet for one address. -/
theorem raw_of_ipv4Outbound (h : out.ipv4Outbound addr data = some sent) {s : Sent} (hs : s ∈ sent)
    (hr : s.raw = some packet) :
    ∃ dest kind, out.serverInfo.isWireguardClient dest = true ∧
      out.relayType addr data dest = some kind ∧ frame addr data kind dest = some packet := by
  unfold ipv4Outbound at h
  split at h
  · cases h; cases hs
  dsimp only at h
  split at h
  · rename_i hw
    split at h
    · cases h; cases hs
    · rename_i kind hk
      split at h
      · cases h
        rw [List.mem_singleton.mp hs] at hr
        cases hr
      · obtain ⟨q, hf, rfl⟩ := Option.map_eq_some_iff.mp h
        rw [List.mem_singleton.mp hs] at hr
        cases hr
        exact ⟨_, kind, (Bool.and_eq_true_iff.mp hw).2, hk, hf⟩
  · split at h
    · obtain ⟨-, -, rfl⟩ := Option.map_eq_some_iff.mp h
      cases hs
    · obtain ⟨q, -, rfl⟩ := Option.map_eq_some_iff.mp h
      rw [List.mem_singleton.mp hs] at hr
      cases hr

/-- What is sent as it is, of a broadcast. -/
theorem raw_of_ipv4BroadcastOutbound (h : out.ipv4BroadcastOutbound addr data = some sent)
    {s : Sent} (hs : s ∈ sent) (hr : s.raw = some packet) :
    (∃ route, validateBroadcastInnerIpv4 data.data addr.ip addr = some route) ∧
      frame addr data .wireGuardBroadcastRelay Ipv4Addr.broadcast = some packet := by
  unfold ipv4BroadcastOutbound at h
  rw [Option.bind_eq_bind, Option.bind_eq_some_iff] at h
  obtain ⟨relayed, hrel, h⟩ := h
  obtain ⟨q, -, h⟩ := Option.bind_eq_some_iff.mp h
  cases h
  rcases List.mem_append.mp hs with hs | hs
  · unfold broadcastRelay at hrel
    split at hrel
    · rename_i hv
      obtain ⟨p, hf, rfl⟩ := Option.map_eq_some_iff.mp hrel
      rw [List.mem_singleton.mp hs] at hr
      cases hr
      exact ⟨Option.isSome_iff_exists.mp (Bool.and_eq_true_iff.mp hv).2, hf⟩
    · cases hrel; cases hs
  · rw [List.mem_singleton.mp hs] at hr
    cases hr

end HybridOutbound

end Client

namespace NetworkState

variable (st : NetworkState)

/-- The server's check of a relayed packet of the client at `ip`, by the type of its frame. -/
def validateVnt (ip : Ipv4Addr) (packet : NetPacket) :
    MsgType → Except RelayValidationError Ipv4Route
  | .wireGuardRelay => validateVntRelay packet ip st.net st.gateway
  | .wireGuardBroadcastRelay => validateVntBroadcastRelay packet ip st.net st.gateway
  | .wireGuardSubnetRelay => validateVntSubnetRelay packet ip st.net st.gateway
  | _ => .error .invalidMessageType

/-- A relayed packet of the client at `ip` passes its check and has a hop left. -/
def Passes (ip : Ipv4Addr) (packet : NetPacket) : Prop :=
  ∃ kind route next, packet.msgType = some kind ∧ st.validateVnt ip packet kind = .ok route ∧
    packet.decrTtl = some next

variable {st}

/-! ## From a WireGuard peer to a client -/

section
variable {peer : ActivePeer} {inner : Bytes} {target : Ipv4Addr} {packet : NetPacket}
  {route : Ipv4Route} (hs : HostIp st.net st.gateway peer.reservedIp) (ht : st.net.contains target = true)
  (hm : ∀ ip, st.net.contains ip = true → ip.isMulticast = false)
include hs ht hm

theorem validateRelay_of_build
    (hv : validateInnerIpv4 inner peer.reservedIp st.net st.gateway = .ok route)
    (hp : new (buildWireguardRelay inner route) = some packet) (hd : target = route.destination) :
    validateRelay packet target (.ofReg st.net st.gateway target) = some (.ofPacket inner) := by
  obtain ⟨hpl, rfl, hsrc, hdst, hc⟩ := validateInnerIpv4_ok.mp hv
  obtain ⟨he, hdi, hpay⟩ := envelope_of_build hp
  obtain ⟨⟨hsc, hsn, hsb⟩, hsg⟩ := hs
  have hmul := hm _ hsc
  refine validateRelay_eq_some.mpr ⟨refusesHeader_build hp, ?_, hdi⟩
  rw [hpay, he.srcId]
  refine validateInnerIpv4_eq_some.mpr ⟨⟨⟨hpl, rfl⟩, rfl⟩, ?_, ?_⟩
  · rintro ip ⟨⟩
    exact hd.symm
  · simp only [contains_ofReg ht, network_ofReg ht,
      broadcast_ofReg ht, hsrc]
    rintro (h | h | h | h | h | h | h)
    · exact h hsc
    · exact h hc
    · exact hsn h
    · exact hsb h
    · exact hsg h
    · exact absurd (hmul.symm.trans h) (by decide)
    · exact hdst h

theorem validateBroadcastRelay_of_build
    (hv : validateBroadcastInnerIpv4 inner peer.reservedIp st.net st.gateway = .ok route)
    (hp : new (buildWireguardBroadcastRelay inner route target) = some packet) :
    validateBroadcastRelay packet target (.ofReg st.net st.gateway target) =
      some (.ofPacket inner) := by
  obtain ⟨hpl, rfl, hsrc, -, hdst⟩ := validateBroadcastInnerIpv4_ok.mp hv
  obtain ⟨he, hdi, hpay⟩ := envelope_of_build hp
  obtain ⟨⟨hsc, hsn, hsb⟩, hsg⟩ := hs
  have hmul := hm _ hsc
  refine unlessHeader_eq_some.mpr ⟨⟨refusesHeader_build hp, hdi⟩, ?_⟩
  rw [hpay, he.srcId]
  refine validateBroadcastInnerIpv4_eq_some.mpr ⟨⟨⟨hpl, rfl⟩, rfl⟩, ?_, ?_⟩
  · simp only [contains_ofReg ht, network_ofReg ht,
      broadcast_ofReg ht, hsrc]
    rintro (h | h | h | h | h)
    · exact h hsc
    · exact hsn h
    · exact hsb h
    · exact hsg h
    · exact absurd (hmul.symm.trans h) (by decide)
  · rw [broadcast_ofReg ht]
    exact hdst

omit hs hm in
theorem validateSubnetRelay_of_build {lanNetwork : Ipv4Net}
    (hv : validateSubnetInnerIpv4 inner peer.reservedIp st.net st.gateway lanNetwork = .ok route)
    (hp : new (buildWireguardSubnetRelay inner route target) = some packet) :
    validateSubnetRelay packet target (.ofReg st.net st.gateway target) =
      some (.ofPacket inner) := by
  obtain ⟨hpl, rfl, -, hsrc, hdst, -⟩ := validateSubnetInnerIpv4_ok.mp hv
  obtain ⟨he, hdi, hpay⟩ := envelope_of_build hp
  refine unlessHeader_eq_some.mpr ⟨⟨refusesHeader_build hp, hdi⟩, ?_⟩
  rw [hpay, he.srcId]
  refine unless_eq_some.mpr ⟨parseInnerIpv4_eq_some.mpr ⟨⟨hpl, rfl⟩, rfl⟩, ?_⟩
  simp only [contains_ofReg ht, network_ofReg ht,
    broadcast_ofReg ht]
  rintro (h | h | h | h | h)
  · exact hsrc (.inl h)
  · exact hsrc (.inr (.inl h))
  · exact hsrc (.inr (.inr (.inl h)))
  · exact hsrc (.inr (.inr (.inr h)))
  · exact hdst h

end

/-- What a client gets for a packet of a peer passes the client's check. -/
theorem validateFrame_of_mem {env : PeerEnv} {peer : ActivePeer} {inner : Bytes}
    {sourceIp : Ipv4Addr} {d : Delivery}
    (hd : d ∈ st.processPeerPacket env peer inner sourceIp) (hs : HostIp st.net st.gateway peer.reservedIp)
    (ht : st.net.contains d.target = true)
    (hm : ∀ ip, st.net.contains ip = true → ip.isMulticast = false) :
    ∃ packet kind, new d.data = some packet ∧ packet.msgType = some kind ∧
      (kind.isWireGuardRelay = true →
        validateFrame packet (.ofReg st.net st.gateway d.target) kind =
          some (.ofPacket inner)) := by
  have ha := st.ingress_checked env peer inner sourceIp
  unfold processPeerPacket at hd
  generalize st.ingress env peer inner sourceIp = i at ha hd
  cases ha with
  | rejected => cases hd
  | reply => cases hd
  | control request =>
    simp only [resolveAgentRequest] at hd
    split at hd
    · cases hd
    · obtain ⟨-, hdata, -, -, packet, kind, -, hp, hk, -⟩ :=
        tryDeliver_sent (LocalDelivery.mem_deliveries.mp hd)
      refine ⟨packet, kind, hdata ▸ hp, hk, fun hr => ?_⟩
      rw [p2pControlFrame_msgType hp] at hk
      cases hk
      cases hr
  | unicast hv =>
    obtain ⟨htar, hdata, -⟩ := tryDeliver_sent (LocalDelivery.mem_deliveries.mp hd)
    obtain ⟨packet, hp, he, -⟩ := envelope_build _ _ _ _
    exact ⟨packet, _, hdata ▸ hp, he.msgType, fun _ => validateRelay_of_build hs ht hm hv hp htar⟩
  | broadcast hv0 =>
    obtain ⟨route, target, hv, hsent⟩ := mem_routeWireguardBroadcast hd
    rw [(validateBroadcastInnerIpv4_ok.mp hv0).2.2.1] at hv
    obtain ⟨rfl, hdata, -⟩ := tryDeliver_sent hsent
    obtain ⟨packet, hp, he, -⟩ := envelope_build _ _ _ _
    exact ⟨packet, _, hdata ▸ hp, he.msgType,
      fun _ => validateBroadcastRelay_of_build hs ht hm hv hp⟩
  | subnet hv =>
    obtain ⟨htar, hdata, -⟩ := tryDeliver_sent (LocalDelivery.mem_deliveries.mp hd)
    rw [← htar] at hdata
    obtain ⟨packet, hp, he, -⟩ := envelope_build _ _ _ _
    exact ⟨packet, _, hdata ▸ hp, he.msgType, fun _ => validateSubnetRelay_of_build ht hv hp⟩

/-! ## From a client to the server -/

section
variable {kind : MsgType} {ipv4 : Bytes} {ip dest : Ipv4Addr} {packet : NetPacket}
  {route : Ipv4Route} (hi : st.net.contains ip = true)

theorem passes_of_build (route : Ipv4Route)
    (hp : new (buildWireguardEnvelope kind ipv4 ip dest) = some packet)
    (hv : (Envelope packet kind ip ∧ packet.ttl ≠ 0) → packet.destId = dest →
      packet.payload = ipv4 → st.validateVnt ip packet kind = .ok route) : st.Passes ip packet := by
  obtain ⟨he, hd, hpay⟩ := envelope_of_build hp
  have httl := ttl_build hp
  cases hn : packet.decrTtl with
  | none =>
    have hle := decrTtl_eq_none.mp hn
    rw [httl] at hle
    exact absurd hle (by decide)
  | some next =>
    exact ⟨kind, route, next, he.msgType, hv ⟨he, by rw [httl]; decide⟩ hd hpay, hn⟩

include hi

theorem passes_relay
    (hv : Client.validateInnerIpv4 ipv4 ip (.ofReg st.net st.gateway ip) (some dest) = some route)
    (hp : new (buildWireguardEnvelope .wireGuardRelay ipv4 ip dest) = some packet) :
    st.Passes ip packet := by
  obtain ⟨⟨⟨hpl, hro⟩, hsrc⟩, hdst, hc⟩ := validateInnerIpv4_eq_some.mp hv
  simp only [contains_ofReg hi, network_ofReg hi,
    broadcast_ofReg hi, not_or, not_not] at hc
  obtain ⟨-, hdc, -, -, -, -, hc⟩ := hc
  refine passes_of_build route hp fun he hd hpay => validateVntRelay_ok.mpr ⟨he, ?_, ?_⟩
  · rw [hpay]
    refine validateInnerIpv4_ok.mpr ⟨hpl, hro, hsrc, ?_, hdc⟩
    simp only [not_or]
    exact hc
  · rw [hd, hdst dest rfl]

theorem passes_broadcastRelay
    (hv : Client.validateBroadcastInnerIpv4 ipv4 ip (.ofReg st.net st.gateway ip) = some route)
    (hp : new (buildWireguardEnvelope .wireGuardBroadcastRelay ipv4 ip
      Ipv4Addr.broadcast) = some packet) : st.Passes ip packet := by
  obtain ⟨⟨⟨hpl, hro⟩, hsrc⟩, hs, hd⟩ := validateBroadcastInnerIpv4_eq_some.mp hv
  simp only [contains_ofReg hi, network_ofReg hi,
    broadcast_ofReg hi, not_or, not_not] at hs hd
  obtain ⟨hsc, -, -, hsg, -⟩ := hs
  refine passes_of_build route hp fun he hdi hpay =>
    validateVntBroadcastRelay_ok.mpr ⟨he, hdi, ?_⟩
  rw [hpay]
  refine validateBroadcastInnerIpv4_ok.mpr ⟨hpl, hro, hsrc, ?_, hd⟩
  rintro (h | h)
  · exact hsg h
  · exact h hsc

theorem passes_subnetRelay (hself : dest ≠ ip)
    (hv : validateSubnetReplyInnerIpv4 ipv4 dest (.ofReg st.net st.gateway ip) = some route)
    (hp : new (buildWireguardEnvelope .wireGuardSubnetRelay ipv4 ip dest) =
      some packet) : st.Passes ip packet := by
  obtain ⟨hp', hc⟩ := unless_eq_some.mp hv
  simp only [contains_ofReg hi, network_ofReg hi,
    broadcast_ofReg hi, not_or, not_not, ne_eq] at hc
  obtain ⟨rfl, hdc, hdn, hdl, hdg, hs⟩ := hc
  refine passes_of_build route hp fun he hd hpay =>
    validateVntSubnetRelay_ok.mpr ⟨he, ?_, ?_, hd.symm, ?_⟩
  · rw [hd]
    rintro (h | h | h | h | h)
    · exact h hdc
    · exact hdn h
    · exact hdl h
    · exact hdg h
    · exact hself h
  · rw [hpay]
    exact parseUnboundInnerIpv4_eq_some.mp hp'
  · simpa only [not_or] using hs

end

/-- What a client sends as it is passes the server's checks. -/
theorem passes_of_outbound {out : Client.HybridOutbound} {ip : Ipv4Addr}
    {data : Client.TransmissionBytes} {sent : List Client.Sent} {s : Client.Sent}
    {packet : NetPacket} (hi : st.net.contains ip = true)
    (hr : (Client.ServerInfoCollection.sys ip).Reach out.serverInfo) (ho : Client.Outgoing data)
    (h : out.ipv4Outbound (.ofReg st.net st.gateway ip) data = some sent ∨
      out.ipv4BroadcastOutbound (.ofReg st.net st.gateway ip) data = some sent)
    (hs : s ∈ sent) (hp : s.raw = some packet) : st.Passes ip packet := by
  rcases h with h | h
  · obtain ⟨dest, kind, hw, hk, hf⟩ := Client.HybridOutbound.raw_of_ipv4Outbound h hs hp
    rw [frame_outgoing ho] at hf
    have hself : dest ≠ ip := by
      rintro rfl
      rw [Client.ServerInfoCollection.isWireguardClient_self hr] at hw
      cases hw
    rcases Client.HybridOutbound.relayType_eq_some hk with ⟨rfl, route, hv⟩ | ⟨rfl, route, hv⟩
    · exact passes_relay hi hv hf
    · exact passes_subnetRelay hi hself hv hf
  · obtain ⟨⟨route, hv⟩, hf⟩ := Client.HybridOutbound.raw_of_ipv4BroadcastOutbound h hs hp
    rw [frame_outgoing ho] at hf
    exact passes_broadcastRelay hi hv hf

/-- **Server and client accept each other's relayed packets.** In a network without multicast
addresses: what the server delivers of a peer's packet passes the check of the client at that
address, with the addresses of the packet, and what a client sends to the server for a packet passes
the server's check and has a hop left. Peer and client are at hosts of the network; prefix length and
gateway do not matter. -/
theorem relays_accepted (st : NetworkState)
    (hm : ∀ ip, st.net.contains ip = true → ip.isMulticast = false) :
    (∀ (env : PeerEnv) (peer : ActivePeer) (inner : Bytes) (sourceIp : Ipv4Addr) (d : Delivery),
      d ∈ st.processPeerPacket env peer inner sourceIp →
      HostIp st.net st.gateway peer.reservedIp → HostIp st.net st.gateway d.target →
      ∃ packet kind, NetPacket.new d.data = some packet ∧ packet.msgType = some kind ∧
        (kind.isWireGuardRelay = true →
          Client.validateFrame packet (.ofReg st.net st.gateway d.target) kind =
            some (.ofPacket inner))) ∧
    ∀ (ip : Ipv4Addr) (out : Client.HybridOutbound) (data : Client.TransmissionBytes)
      (sent : List Client.Sent),
      HostIp st.net st.gateway ip → (Client.ServerInfoCollection.sys ip).Reach out.serverInfo →
      Client.Outgoing data →
      (out.ipv4Outbound (.ofReg st.net st.gateway ip) data = some sent ∨
        out.ipv4BroadcastOutbound (.ofReg st.net st.gateway ip) data = some sent) →
      ∀ s ∈ sent, ∀ packet, s.raw = some packet → st.Passes ip packet :=
  ⟨fun _ _ _ _ _ hd hs ht => validateFrame_of_mem hd hs ht.1.1 hm,
    fun _ _ _ _ hi hr ho h _ hs _ hp => passes_of_outbound hi.1.1 hr ho h hs hp⟩

/-- The laptop is at `10.26.0.2`. -/
def laptopNetwork : NetworkState :=
  (newFromDb "home" defaultNet 0 none none 0).apply
    (.register { anyIpReq "laptop" none with allowWireGuard := true } 7 2 0)

theorem laptopNetwork_unicast (ip : Ipv4Addr) (h : laptopNetwork.net.contains ip = true) :
    ip.isMulticast = false := by
  rw [Ipv4Net.contains_iff] at h
  have hn : laptopNetwork.net.network.toNat = 169476096 := by decide
  have hb : laptopNetwork.net.broadcast.toNat = 169476351 := by decide
  rw [← Bool.not_eq_true, Ipv4Addr.isMulticast_iff]
  omega

/-- An IPv4 packet without data. -/
def emptyIpv4 (source destination : Ipv4Addr) : Bytes :=
  [0x45, 0, 0, 20, 0, 0, 0, 0, 64, 17, 0, 0] ++ (Bytes.ofU32 source ++ Bytes.ofU32 destination)

/-- What the laptop knows: the phone at `10.26.0.5` is a WireGuard peer. -/
def laptopInfo : Client.ServerInfoCollection :=
  [.connected 0 true, .update 0 [⟨homeIp 5, true, .wireguard⟩] true].foldl
    (Client.ServerInfoCollection.apply (homeIp 2)) ⟨∅⟩

def laptopOutbound : Client.HybridOutbound where
  serverInfo := laptopInfo
  allowWireGuard := true
  allowSubnet := []
  wireguardP2p := fun _ _ => false
  externalRoute := fun _ => none

/-- The phone and the laptop send each other a packet. -/
theorem relays_accepted_laptop :
    (∃ d ∈ laptopNetwork.processPeerPacket ⟨fun _ => none, false, false, []⟩
        ⟨homeIp 5, []⟩ (emptyIpv4 (homeIp 5) (homeIp 2))
        (homeIp 5),
      ∃ packet, NetPacket.new d.data = some packet ∧
        Client.validateRelay packet (homeIp 2)
          (.ofReg laptopNetwork.net laptopNetwork.gateway (homeIp 2)) =
          some ⟨homeIp 5, homeIp 2⟩) ∧
    ∃ data packet,
      Client.decodeTun (emptyIpv4 (homeIp 2) (homeIp 5)) = some data ∧
      laptopOutbound.ipv4Outbound
        (.ofReg laptopNetwork.net laptopNetwork.gateway (homeIp 2)) data =
        some [.server (homeIp 5) packet] ∧
      laptopNetwork.Passes (homeIp 2) packet := by
  obtain ⟨hserver, hclient⟩ := relays_accepted laptopNetwork laptopNetwork_unicast
  constructor
  · have hd : (⟨homeIp 2, .vnt 2, buildWireguardRelay
        (emptyIpv4 (homeIp 5) (homeIp 2))
        ⟨homeIp 5, homeIp 2⟩⟩ : Delivery) ∈
        laptopNetwork.processPeerPacket ⟨fun _ => none, false, false, []⟩
          ⟨homeIp 5, []⟩
          (emptyIpv4 (homeIp 5) (homeIp 2))
          (homeIp 5) := by decide
    obtain ⟨packet, kind, hp, hk, hv⟩ := hserver _ _ _ _ _ hd (by decide) (by decide)
    refine ⟨_, hd, packet, hp, ?_⟩
    rw [(envelope_of_build hp).1.msgType] at hk
    cases hk
    exact (hv rfl).trans (by decide)
  · have h0 : (Client.ServerInfoCollection.sys (homeIp 2)).Reach ⟨∅⟩ :=
      .init fun id node h => (by cases h)
    have hr : (Client.ServerInfoCollection.sys (homeIp 2)).Reach laptopInfo :=
      h0.foldl _
    have ho : Client.decodeTun (emptyIpv4 (homeIp 2) (homeIp 5)) =
        some ⟨List.replicate headLength 0,
          emptyIpv4 (homeIp 2) (homeIp 5)⟩ := rfl
    refine ⟨_, _, ho, rfl, ?_⟩
    exact hclient _ laptopOutbound _ _ (by decide) hr (.tun ho) (.inl rfl)
      (.server (homeIp 5) _) (List.mem_singleton_self _) _ rfl

end NetworkState

end Vntc
