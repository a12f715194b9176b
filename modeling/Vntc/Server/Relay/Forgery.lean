import Vntc.Server.Relay.Deliver

/-!
# Frames of clients in other clients' queues

A client takes a frame with the gateway flag for one of the server (`ServerTurnInboundHandler` of
the client's `tunnel_core/server/inbound.rs`): lists of clients, answers to its calls, offers of
tunnels. The server drops such frames of clients, but it does not look at the flag of a packet that
is embedded in a selective broadcast.

A registration changes the queue of an address before its endpoint, and a delivery takes no lock, so
in between an address can have a WireGuard endpoint and the queue of a VNT client.
-/

namespace Vntc

open Lib NetPacket

/-- What a client does with a frame from its server. -/
inductive Inbound
  | invalid
  | serverData
  | dropped
  | clientData
  deriving DecidableEq

/-- `ServerTurnInboundHandler::handle` of the client at `ip`. -/
def ServerTurnInboundHandler.handle (ip : Ipv4Addr) (data : Bytes) : Inbound :=
  match NetPacket.new data with
  | none => .invalid
  | some packet =>
    if packet.isGateway then .serverData
    else if packet.destId ≠ Ipv4Addr.broadcast ∧ ¬ Ipv4Addr.isUnspecified packet.destId = true ∧
        ip ≠ packet.destId then .dropped
    else .clientData

/-- The gateway flag is clear, and the type is not that of a relayed packet. -/
structure Harmless (packet : NetPacket) : Prop where
  isGateway : packet.isGateway = false
  msgType : ∀ kind, packet.msgType = some kind → kind.isWireGuardRelay = false

theorem Harmless.decrTtl {p q : NetPacket} (hq : p.decrTtl = some q) : Harmless q ↔ Harmless p := by
  obtain ⟨ht, -, hg, -⟩ := decrTtl_some hq
  exact ⟨fun h => ⟨hg ▸ h.isGateway, ht ▸ h.msgType⟩, fun h => ⟨hg ▸ h.isGateway, ht ▸ h.msgType⟩⟩

namespace NetworkState

variable {st : NetworkState} {env : DataEnv} {session : Session} {buf : Bytes} {own : Channel}

theorem isSelective_of_chosenBy {kind : MsgType} {ips : List Ipv4Addr} {ip : Ipv4Addr}
    (h : chosenBy kind ips ip = true) : kind = .excludeBroadcast ∨ kind = .targetBroadcast := by
  cases kind <;> simp_all [chosenBy]

/-- An embedded packet with a hop left goes out to the chosen clients. -/
theorem handleFrame_selective {packet inner next : NetPacket} {kind : MsgType}
    {broadcast : SelectiveBroadcast} (hk : kind = .excludeBroadcast ∨ kind = .targetBroadcast)
    (hdec : env.decode packet.payload = some broadcast)
    (hi : new broadcast.data = some inner) (hn : inner.decrTtl = some next) :
    st.handleFrame env session packet kind = .ok (st.fanOut
      (fun ip => chosenBy kind broadcast.ips ip && decide (ip ≠ packet.srcId)) next.buffer) := by
  rcases hk with rfl | rfl <;>
    simp only [handleFrame, selectiveBroadcast, hdec, hi, hn, orStop, bind, Except.bind, chosenBy]

/-- A network with two clients, the laptop at `10.26.0.2` and the tablet at `10.26.0.3`. -/
def twoClients : NetworkState :=
  [.register (anyIpReq "laptop" none) 7 2 0,
    .register (anyIpReq "tablet" none) 9 4 0].foldl apply
    (newFromDb "home" defaultNet 0 none none 0)

theorem twoClients_reach : networkSys.Reach twoClients := by
  have h0 : networkSys.Reach (newFromDb "home" defaultNet 0 none none 0) :=
    .init ⟨"home", defaultNet, 0, none, none, 0, List.Pairwise.nil, rfl,
      fun _ => .inl rfl⟩
  exact h0.foldl _

def laptopSession : Session :=
  registerSession "home" (anyIpReq "laptop" none) (homeIp 2) 7

/-- The encoding of a selective broadcast without addresses: the tag of its data, their length, and
the data. -/
def decodeData : Bytes → Option SelectiveBroadcast
  | tag :: n :: data =>
    if tag = 0x12 ∧ n.toNat = data.length ∧ n.toNat < 128 then some ⟨[], data⟩ else none
  | _ => none

def shortEnv : DataEnv := ⟨decodeData, true, false⟩

/-- A packet in a broadcast of the laptop to all. -/
def embedding (inner : Bytes) : Bytes :=
  buildWireguardEnvelope .excludeBroadcast ([0x12, UInt8.ofNat inner.length] ++ inner)
    (homeIp 2) Ipv4Addr.broadcast

end NetworkState

end Vntc
