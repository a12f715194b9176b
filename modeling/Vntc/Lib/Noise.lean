import Vntc.Lib.Bytes
import Vntc.Lib.Ipv4

/-!
# WireGuard tunnels

A tunnel as the program around it sees it: each call changes the state of the tunnel and answers
with a packet for the network, with a packet from the tunnel, or with an error. What a call does
depends on the time and on random numbers; an `Entropy` has those of all calls of one event, which
the state of the tunnel can tell apart.

* `Noise`: the calls, and what is assumed of them. A tunnel is for one public key, and what it takes
  is authentic for this key, cookies aside: under load a tunnel answers any handshake with a cookie,
  and who has seen a handshake can make the cookie that answers it.
-/

namespace Lib

namespace Noise

/-- The answer of a tunnel. -/
inductive Answer
  | done
  | err
  | writeToNetwork (packet : Bytes)
  | writeToTunnelV4 (packet : Bytes) (source : Ipv4Addr)
  | writeToTunnelV6
  deriving DecidableEq

/-- The tunnel answers with a cookie: the type of a message is its first four bytes. -/
def Answer.isCookie : Answer → Bool
  | .writeToNetwork packet => packet.take 4 == [3, 0, 0, 0]
  | _ => false

/-- The messages of the protocol, with the index of the receiver that they name. -/
inductive Message
  | handshakeInit
  | handshakeResponse (receiverIdx : BitVec 32)
  | cookieReply (receiverIdx : BitVec 32)
  | data (receiverIdx : BitVec 32)
  deriving DecidableEq

/-- The message is a cookie reply. -/
def Message.isCookie : Message → Bool
  | .cookieReply _ => true
  | _ => false

end Noise

/-- An implementation of tunnels. -/
structure Noise where
  Tunn : Type
  RateLimiter : Type
  Entropy : Type
  /-- A tunnel between a private key and the public key of a peer, with a receiver index. -/
  new : Entropy → Bytes → Bytes → Nat → Tunn
  formatHandshakeInitiation : Entropy → Tunn → Tunn × Noise.Answer
  /-- The source of the packet is known, or the call is for what is queued. -/
  decapsulate : Entropy → Option IpAddr → Bytes → Tunn → Tunn × Noise.Answer
  encapsulate : Entropy → Bytes → Tunn → Tunn × Noise.Answer
  updateTimers : Entropy → Tunn → Tunn × Noise.Answer
  /-- The check of a packet before its tunnel is known. -/
  verifyPacket : Entropy → IpAddr → Bytes → RateLimiter →
    RateLimiter × Except Noise.Answer Noise.Message
  /-- The public key in the first message of a handshake, read with a private and a public key. -/
  parseHandshakeAnon : Bytes → Bytes → Bytes → Option Bytes
  /-- The public key that a tunnel is for. -/
  peerKey : Tunn → Bytes
  peerKey_new : ∀ e priv key i, peerKey (new e priv key i) = key
  peerKey_format : ∀ e t, peerKey (formatHandshakeInitiation e t).1 = peerKey t
  peerKey_decapsulate : ∀ e src p t, peerKey (decapsulate e src p t).1 = peerKey t
  peerKey_encapsulate : ∀ e p t, peerKey (encapsulate e p t).1 = peerKey t
  peerKey_timers : ∀ e t, peerKey (updateTimers e t).1 = peerKey t
  /-- A bound on the packets that a tunnel can send without a new one. -/
  queued : Tunn → Nat
  queued_decapsulate : ∀ e t p, (decapsulate e none [] t).2 = .writeToNetwork p →
    queued (decapsulate e none [] t).1 < queued t
  /-- The packet was made with the private key of this public key. -/
  Authentic : Bytes → Bytes → Prop
  /-- A packet that passes the check and that the tunnel takes is authentic, if it is not a cookie
  and is not answered with one. -/
  authenticates : ∀ e src p limiter message t,
    (verifyPacket e src p limiter).2 = .ok message → (decapsulate e (some src) p t).2 ≠ .err →
    message.isCookie = false → (decapsulate e (some src) p t).2.isCookie = false →
    Authentic (peerKey t) p

namespace Noise

variable (N : Noise) (e : N.Entropy)

variable {N e} in
theorem queued_lt {t t' : N.Tunn} {packet : Bytes}
    (h : N.decapsulate e none [] t = (t', .writeToNetwork packet)) : N.queued t' < N.queued t := by
  have hq := N.queued_decapsulate e t packet (by rw [h])
  rwa [h] at hq

/-- The loop that sends what is queued. -/
def flush (t : N.Tunn) : N.Tunn × List Bytes :=
  match _ : N.decapsulate e none [] t with
  | (t', .writeToNetwork packet) => ((flush t').1, packet :: (flush t').2)
  | (t', _) => (t', [])
termination_by N.queued t
decreasing_by all_goals exact queued_lt ‹_›

variable {N e}

theorem peerKey_flush (t : N.Tunn) : N.peerKey (N.flush e t).1 = N.peerKey t := by
  have hk := N.peerKey_decapsulate e none [] t
  fun_induction flush N e t with
  | case1 t t' packet h ih =>
    rw [h] at hk
    exact (ih (N.peerKey_decapsulate e none [] t')).trans hk
  | case2 t t' _ _ h =>
    rw [h] at hk
    exact hk

end Noise

end Lib
