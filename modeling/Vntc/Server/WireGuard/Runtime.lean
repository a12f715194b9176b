import Mathlib.Data.List.Sort
import Vntc.Server.Relay.Ingress
import Vntc.Server.Run

/-!
# WireGuard runtime and operations on peers

The WireGuard runtime of a server is one task (`server/wireguard_runtime.rs`). For a handshake of a
peer without a session it loads the peer's record from the database, and then connects the peer at
the address of the record (`peer_for_handshake`, `activate_peer`); other steps run in between, but
no other step of the runtime. The operations on peers (`server/network_state_provider.rs`,
`server/control_server/service.rs`, `update_wireguard_peer_profile` of `http/web_server.rs`) change
the database and the lease state, and then have the runtime end the peer's session; the runtime
handles the command when it is idle, and acknowledges it.

A peer's record has a *generation*, the number of its changes so far. What the runtime has loaded
carries the generation that it was read from.
-/

namespace Vntc

open Lib

/-! ## Operations on peers -/

/-- What the runtime reads of a row of `wireguard_peers`. -/
structure PeerRow where
  publicKey : Bytes
  enabled : Bool
  deriving DecidableEq

/-- A peer with a tunnel, and the generation of the record that it was built from. -/
structure Activated extends ActivePeer where
  publicKey : Bytes
  generation : Nat
  deriving DecidableEq

inductive AdminOp
  | setEnabled (enabled : Bool)
  | delete
  /-- `reserve_wireguard_peer_ip` -/
  | move (ip : Ipv4Addr)
  | release
  /-- The profile is saved and then reloaded. -/
  | reload (routes : List WireGuardPeerRouteRecord)
  | create (row : PeerRow)
  | createAutomatic (row : PeerRow)
  /-- The address is a cluster grant. -/
  | createWithIp (row : PeerRow) (ip : Ipv4Addr)
  deriving DecidableEq

/-- The operation that `commit` and `rollback` are called for. -/
def AdminOp.reserveKind : AdminOp → ReserveKind
  | .createAutomatic _ => .createAutomatic
  | .createWithIp .. => .createWithIp
  | _ => .reserve

/-- How far an operation has come; `generation` is that of the peer's record right after the
operation's write. -/
inductive AdminStage
  /-- for the lock -/
  | waiting
  /-- The lease state has blocked the address. -/
  | prepared (ip : Ipv4Addr) (previous : Option Ipv4Addr)
  /-- The database has the address, and the lease state still has the previous one. -/
  | stored (ip : Ipv4Addr) (previous : Option Ipv4Addr) (generation : Nat)
  /-- The address is out of the database, and still in the lease state. -/
  | cleared (removed : Bool) (generation : Nat)
  /-- The row is updated and not yet read back. -/
  | updated (generation : Nat)
  /-- The command is sent to the runtime. -/
  | revoking (generation : Nat)
  | acknowledged (generation : Nat)
  deriving DecidableEq

structure AdminCall where
  peerId : String
  op : AdminOp
  stage : AdminStage
  deriving DecidableEq

/-- The peer had an address, and another one. -/
def changed (previous : Option Ipv4Addr) (ip : Ipv4Addr) : Bool := previous.any (· != ip)

/-- A record on its way to a session. -/
structure Loading where
  peerId : String
  peer : Activated
  /-- The routes are read after the row. -/
  complete : Bool

/-- One network, its rows in the database and the operations in flight. -/
structure PeerRecords where
  state : NetworkState
  peers : HashMap String PeerRow
  /-- The WireGuard rows of `ip_allocations`, by peer. -/
  allocations : HashMap String Ipv4Addr
  routes : HashMap String (List WireGuardPeerRouteRecord)
  generation : String → Nat
  /-- The operation that holds `wireguard_ip_update_lock`. -/
  lock : Option Nat
  calls : HashMap Nat AdminCall
  /-- The operations that have returned `Ok`: the peer, and the generation of its record right after
  the operation's write. -/
  returned : List (String × Nat)

/-- A network with a runtime for its peers. -/
structure RevokeState extends PeerRecords where
  active : HashMap String Activated
  peersByPublicKey : HashMap Bytes String
  loading : Option Loading
  maxActivePeers : Nat

/-- The network beside a runtime that does nothing. -/
def PeerRecords.idle (r : PeerRecords) : RevokeState := ⟨r, ∅, ∅, none, 0⟩

inductive RevokeOp
  /-- A method for devices, or the WireGuard addresses of other servers. -/
  | method (op : NetworkOp)
  | invoke (c : Nat) (peerId : String) (op : AdminOp)
  /-- An operation takes the lock and does its first write; `ok` is the answer of the database. -/
  | enter (c : Nat) (ok : Bool)
  /-- The operation with the lock stores the address. -/
  | persist (ok : Bool)
  /-- The operation with the lock changes the lease state; `ok`: its row could be read back. -/
  | finish (ok : Bool)
  /-- The runtime handles the command of an operation. -/
  | handle (c : Nat)
  | reply (c : Nat)
  /-- A handshake; `ok` is the answer of the database. -/
  | handshake (publicKey : Bytes) (ok : Bool)
  | loadRoutes (ok : Bool)
  /-- `ready`: there is a network state and a free receiver index. -/
  | activate (ready : Bool) (sender : Channel) (now : SystemTime)
  /-- The timer ends a session. -/
  | expire (peerId : String)

/-- The methods that leave WireGuard peers alone. -/
def NetworkOp.isDevice : NetworkOp → Bool
  | .register .. | .confirm .. | .offline .. | .releasePreRegistered .. | .expire _
  | .removeDevices _ | .removeDeviceFromMemory _ | .updateRemote .. | .removeRemote _ => true
  | _ => false

namespace NetworkState

variable {st : NetworkState} {op : NetworkOp} {d p : String} {a ip : Ipv4Addr} {t : Int}

theorem leaseOf_removeDeviceFromMemory {s : NetworkStateInner}
    (h : (s.removeDeviceFromMemory d).2 = some ip) : s.leaseOf d = some ip := by
  unfold NetworkStateInner.removeDeviceFromMemory at h
  split at h
  · cases h
  · rename_i e he
    rw [NetworkStateInner.leaseOf_of_lookup he]
    exact h

/-- The address that a registration hands out. -/
def handedOut (st : NetworkState) : NetworkOp → Option Ipv4Addr
  | .register req randomId sender now =>
    match st.allocateIpAndGetEntry req randomId sender now with
    | .ok (_, ip, _) => some ip
    | .error _ => none
  | _ => none

/-- What such a method does to the endpoints: it takes away the one at a device's address, if any; it
changes one that is a device's; or it puts one at the address that a registration hands out. -/
theorem endpoints_device (hop : op.isDevice = true) :
    (∃ d o, (∀ ip, o = some ip → st.leaseState.leaseOf d = some ip) ∧
        (st.apply op).onlineEndpoints = st.onlineEndpoints.eraseOpt o) ∨
      (∃ ip v v', st.onlineEndpoints.lookup ip = some v ∧ v.isWireGuard = false ∧
        v'.isWireGuard = false ∧ (st.apply op).onlineEndpoints = st.onlineEndpoints.insert ip v') ∨
      ∃ req randomId ip old v, st.handedOut op = some ip ∧
        st.leaseState.Allocated st.net st.gateway req randomId (st.apply op).leaseState ip old ∧
        v.isWireGuard = false ∧
        (st.apply op).onlineEndpoints = (st.onlineEndpoints.eraseOpt old).insert ip v := by
  cases op with
  | register req randomId sender now =>
    simp only [apply]
    cases hok : st.allocateIpAndGetEntry req randomId sender now with
    | error => exact .inl ⟨"", none, by simp, rfl⟩
    | ok r =>
      obtain ⟨st', ip, old, entry⟩ := r
      obtain ⟨ha, he⟩ := allocateIpAndGetEntry_ok hok
      exact .inr (.inr ⟨req, randomId, ip, old, _, by simp only [handedOut, hok], ha, rfl,
        by rw [he]; rfl⟩)
  | confirm ip randomId =>
    simp only [apply, confirmRegistration]
    split
    · rename_i hv
      split
      · exact .inr (.inl ⟨ip, _, _, hv, rfl, rfl, rfl⟩)
      · exact .inl ⟨"", none, by simp, rfl⟩
    · exact .inl ⟨"", none, by simp, rfl⟩
  | offline d ip randomId now =>
    simp only [apply, offlineIp]
    split
    · rename_i hoff
      exact .inl ⟨d, some ip, fun _ hb => hb ▸ (NetworkStateInner.offlineIp_some hoff).1, rfl⟩
    · exact .inl ⟨"", none, by simp, rfl⟩
  | releasePreRegistered d ip randomId =>
    simp only [apply, releasePreRegisteredIp]
    split
    · rename_i hrel
      exact .inl ⟨d, some ip,
        fun _ hb => hb ▸ (NetworkStateInner.releasePreRegisteredIp_true hrel).1, rfl⟩
    · exact .inl ⟨"", none, by simp, rfl⟩
  | removeDeviceFromMemory d =>
    exact .inl ⟨d, _, fun _ => leaseOf_removeDeviceFromMemory, rfl⟩
  | expire | removeDevices => exact .inl ⟨"", none, by simp, rfl⟩
  | updateRemote source ips =>
    simp only [apply, updateRemoteWireguardIps]
    split <;> exact .inl ⟨"", none, by simp, rfl⟩
  | removeRemote source =>
    simp only [apply, removeRemoteWireguardSource]
    split <;> exact .inl ⟨"", none, by simp, rfl⟩
  | reserve | createAutomatic | createWithIp | commit | rollback | releasePeer | connectPeer
  | disconnectPeer => cases hop

/-- Such a method brings no peer online. -/
theorem online_of_device (hop : op.isDevice = true)
    (h : (st.apply op).onlineEndpoints.lookup a = some (.wireGuard p t)) :
    st.onlineEndpoints.lookup a = some (.wireGuard p t) := by
  -- An endpoint that is left after another was removed was there before.
  have hrem : ∀ o, (st.onlineEndpoints.eraseOpt o).lookup a = some (.wireGuard p t) →
      st.onlineEndpoints.lookup a = some (.wireGuard p t) := by
    intro o ho
    rw [HashMap.lookup_eraseOpt] at ho
    split at ho
    · cases ho
    · exact ho
  rcases endpoints_device hop with ⟨d, o, -, he⟩ | ⟨ip, v, v', -, -, hv, he⟩ |
    ⟨_, _, ip, old, v, -, -, hv, he⟩
  · exact hrem o (he ▸ h)
  · rcases HashMap.lookup_insert_cases (he ▸ h) with ⟨-, rfl⟩ | ⟨-, h⟩
    · cases hv
    · exact h
  · rcases HashMap.lookup_insert_cases (he ▸ h) with ⟨-, rfl⟩ | ⟨-, h⟩
    · cases hv
    · exact hrem old h

end NetworkState

namespace RevokeState

variable (st : RevokeState)

/-! ### Database -/

def bump (p : String) : String → Nat :=
  Function.update st.generation p (st.generation p + 1)

/-- A write for `p`: a new generation of the record, unless the rows are as before. -/
def write (p : String) (peers : HashMap String PeerRow) (allocations : HashMap String Ipv4Addr) :
    RevokeState :=
  { st with
    peers := peers
    allocations := allocations
    generation :=
      if peers.lookup p = st.peers.lookup p ∧ allocations.lookup p = st.allocations.lookup p then
        st.generation
      else st.bump p }

/-- The peer and the key are new to the table. -/
def canInsert (p : String) (row : PeerRow) : Bool :=
  !isBlank p && (st.peers.lookup p).isNone && st.peers.values.all (·.publicKey != row.publicKey)

/-- The enabled row with the key, and its address. -/
def loadRuntimePeer (publicKey : Bytes) : Option (String × Ipv4Addr) :=
  st.peers.findMap fun p row =>
    if row.publicKey = publicKey ∧ row.enabled = true then (st.allocations.lookup p).map (p, ·)
    else none

/-! ### Operations -/

def withLease (lease : NetworkStateInner) : RevokeState :=
  { st with state := { st.state with leaseState := lease } }

def setStage (c : Nat) (call : AdminCall) (stage : AdminStage) : RevokeState :=
  { st with calls := st.calls.insert c { call with stage := stage } }

def unlock (c : Nat) : RevokeState :=
  { st with lock := if st.lock = some c then none else st.lock }

/-- The operation ends, with an error or without a result to keep. -/
def drop (c : Nat) : RevokeState := { st.unlock c with calls := st.calls.erase c }

/-- The operation returns `Ok`. -/
def ok (c : Nat) (p : String) (g : Nat) : RevokeState :=
  { st.drop c with returned := (p, g) :: st.returned }

/-- The operation has written for its peer and goes on at `stage`, with the lock. -/
def wrote (c : Nat) (call : AdminCall) (peers : HashMap String PeerRow)
    (allocations : HashMap String Ipv4Addr) (stage : Nat → AdminStage) : RevokeState :=
  let st1 := st.write call.peerId peers allocations
  { st1.setStage c call (stage (st1.generation call.peerId)) with lock := some c }

/-- The address is blocked, or the operation fails. -/
def startWith (c : Nat) (call : AdminCall)
    (r : Except WireGuardError (NetworkStateInner × Ipv4Addr × Option Ipv4Addr)) : RevokeState :=
  match r with
  | .ok (lease, ip, previous) =>
    { (st.withLease lease).setStage c call (.prepared ip previous) with lock := some c }
  | .error _ => st.drop c

/-- The first section with the lock. -/
def enterLocked (c : Nat) (call : AdminCall) (ok : Bool) : RevokeState :=
  let p := call.peerId
  let lease := st.state.leaseState
  match call.op with
  | .setEnabled enabled =>
    match ok, st.peers.lookup p with
    | true, some row =>
      st.wrote c call (st.peers.insert p { row with enabled := enabled }) st.allocations .updated
    -- No row: the service turns the empty result into an error.
    | _, _ => st.drop c
  | .delete =>
    if isBlank p || !ok then st.drop c
    -- The deletion of a peer revokes in any case.
    else { st with routes := st.routes.erase p }.wrote c call (st.peers.erase p)
      (st.allocations.erase p) (.cleared true)
  | .release =>
    if isBlank p || !ok then st.drop c
    else st.wrote c call st.peers (st.allocations.erase p)
      (.cleared (st.allocations.lookup p).isSome)
  | .move ip =>
    st.startWith c call
      ((lease.startReserve st.state.net st.state.gateway p ip).map fun r => (r.1, ip, r.2))
  | .create row =>
    if ok && st.canInsert p row then
      (st.write p (st.peers.insert p row) st.allocations).drop c
    else st.drop c
  | .createAutomatic _ =>
    st.startWith c call (lease.startCreateAutomatic st.state.net st.state.gateway p)
  | .createWithIp _ ip =>
    st.startWith c call ((lease.prepareFor p ip).map fun r => (r.1, ip, r.2))
  | .reload _ => st

/-- The profile is saved without the lock. -/
def saveProfile (c : Nat) (call : AdminCall) (routes : List WireGuardPeerRouteRecord) :
    RevokeState :=
  let p := call.peerId
  { st with
    routes := st.routes.insert p routes
    generation := st.bump p
    calls := st.calls.insert c { call with stage := .revoking (st.generation p + 1) } }

def enter (c : Nat) (ok : Bool) : RevokeState :=
  match st.calls.lookup c with
  | some ⟨p, .reload routes, .waiting⟩ =>
    if ok then st.saveProfile c ⟨p, .reload routes, .waiting⟩ routes else st.drop c
  | some ⟨p, op, .waiting⟩ =>
    if st.lock.isSome then st else st.enterLocked c ⟨p, op, .waiting⟩ ok
  | _ => st

/-- The operation with the lock. -/
def holder : Option (Nat × AdminCall) :=
  st.lock.bind fun c => (st.calls.lookup c).map (c, ·)

/-- The rows of `wireguard_peers` after the operation's address is stored, if it can be. -/
def storedPeers (call : AdminCall) : Option (HashMap String PeerRow) :=
  match call.op with
  | .createAutomatic row | .createWithIp row _ =>
    if st.canInsert call.peerId row && (st.allocations.lookup call.peerId).isNone then
      some (st.peers.insert call.peerId row)
    else none
  | .move _ => some st.peers
  | _ => none

def finishReservation (call : AdminCall) (ip : Ipv4Addr) (previous : Option Ipv4Addr)
    (persisted : Bool) : RevokeState :=
  st.withLease (st.state.leaseState.finishReservation call.peerId ip
    (call.op.reserveKind.previousArg previous) persisted)

def persist (ok : Bool) : RevokeState :=
  match st.holder with
  | some (c, ⟨p, op, .prepared ip previous⟩) =>
    match ok, st.storedPeers ⟨p, op, .prepared ip previous⟩ with
    | true, some peers =>
      st.wrote c ⟨p, op, .prepared ip previous⟩ peers (st.allocations.insert p ip)
        (.stored ip previous)
    | _, _ => (st.finishReservation ⟨p, op, .prepared ip previous⟩ ip previous false).drop c
  | _ => st

/-- The command is sent after the lock is given back. -/
def revokeUnlocked (c : Nat) (call : AdminCall) (g : Nat) : RevokeState :=
  (st.unlock c).setStage c call (.revoking g)

def finish (ok : Bool) : RevokeState :=
  match st.holder with
  | some (c, ⟨p, op, .updated g⟩) =>
    if ok && op == .setEnabled false then st.setStage c ⟨p, op, .updated g⟩ (.revoking g)
    else st.drop c
  | some (c, ⟨p, op, .stored ip previous g⟩) =>
    let st1 := st.finishReservation ⟨p, op, .stored ip previous g⟩ ip previous true
    match op with
    | .move _ =>
      if changed previous ip then st1.revokeUnlocked c ⟨p, op, .stored ip previous g⟩ g
      else st1.ok c p g
    | _ => st1.drop c
  | some (c, ⟨p, op, .cleared removed g⟩) =>
    let r := st.state.leaseState.releaseWireguardPeerIp p
    let st1 := st.withLease r.1
    if op == .delete then st1.setStage c ⟨p, op, .cleared removed g⟩ (.revoking g)
    else if removed || r.2 then st1.revokeUnlocked c ⟨p, op, .cleared removed g⟩ g
    else st1.ok c p g
  | _ => st

def reply (c : Nat) : RevokeState :=
  match st.calls.lookup c with
  | some ⟨p, _, .acknowledged g⟩ => st.ok c p g
  | _ => st

/-! ### Runtime -/

def removePeer (p : String) : RevokeState :=
  match st.active.lookup p with
  | some peer =>
    { st with
      active := st.active.erase p
      peersByPublicKey := st.peersByPublicKey.erase peer.publicKey
      state := (st.state.disconnectWireguardPeer p peer.reservedIp).1 }
  | none => st

/-- The runtime takes commands in the order they were sent; here it takes any of them. -/
def handle (c : Nat) : RevokeState :=
  match st.loading, st.calls.lookup c with
  | none, some ⟨p, op, .revoking g⟩ =>
    (st.removePeer p).setStage c ⟨p, op, .revoking g⟩ (.acknowledged g)
  | _, _ => st

def handshake (publicKey : Bytes) (ok : Bool) : RevokeState :=
  if st.loading.isSome || (st.peersByPublicKey.lookup publicKey).isSome ||
      st.maxActivePeers ≤ HashMap.len st.active || !ok then st
  else
    match st.loadRuntimePeer publicKey with
    | some (p, ip) =>
      { st with loading := some ⟨p, ⟨⟨ip, []⟩, publicKey, st.generation p⟩, false⟩ }
    | none => st

/-- The routes by their prefixes, the longest first. -/
def sortRoutes (routes : List WireGuardPeerRouteRecord) : List WireGuardPeerRouteRecord :=
  routes.insertionSort fun a b => b.lanNetwork.prefixLen ≤ a.lanNetwork.prefixLen

def loadRoutes (ok : Bool) : RevokeState :=
  match st.loading with
  | some ⟨p, peer, false⟩ =>
    if ok then
      { st with loading := some ⟨p,
          { peer with routes := sortRoutes ((st.routes.lookup p).getD []) }, true⟩ }
    else { st with loading := none }
  | _ => st

def activate (ready : Bool) (sender : Channel) (now : SystemTime) : RevokeState :=
  match st.loading with
  | some ⟨p, peer, true⟩ =>
    let r := st.state.connectWireguardPeer p peer.reservedIp sender now
    if ready && HashMap.len st.active < st.maxActivePeers && r.2 then
      { st with
        state := r.1
        active := st.active.insert p peer
        peersByPublicKey := st.peersByPublicKey.insert peer.publicKey p
        loading := none }
    else { st with loading := none }
  | _ => st

def expire (p : String) : RevokeState := if st.loading.isSome then st else st.removePeer p

/-- The interleavings of the steps of the runtime and of the operations on the peers of one network,
with the methods for devices. A packet of a session changes none of this, except that it may find
the session expired. -/
def step : RevokeOp → RevokeState
  | .method op => if op.isDevice then { st with state := st.state.apply op } else st
  | .invoke c p op =>
    if (st.calls.lookup c).isSome then st
    else { st with calls := st.calls.insert c ⟨p, op, .waiting⟩ }
  | .enter c ok => st.enter c ok
  | .persist ok => st.persist ok
  | .finish ok => st.finish ok
  | .handle c => st.handle c
  | .reply c => st.reply c
  | .handshake publicKey ok => st.handshake publicKey ok
  | .loadRoutes ok => st.loadRoutes ok
  | .activate ready sender now => st.activate ready sender now
  | .expire p => st.expire p

/-- The runtime has just started, and no operation is in flight. -/
def Fresh : Prop :=
  (∀ ip p t, st.state.onlineEndpoints.lookup ip ≠ some (.wireGuard p t)) ∧
  st.lock = none ∧ st.calls = ∅ ∧ st.active = ∅ ∧ st.peersByPublicKey = ∅ ∧ st.loading = none ∧
  st.returned = []

def revokeSys : Sys RevokeState RevokeOp := Sys.ofFun Fresh step

end RevokeState

end Vntc
