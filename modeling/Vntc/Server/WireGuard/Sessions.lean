import Vntc.Lib.Indexed
import Vntc.Server.WireGuard.Sections

/-!
# Sessions of the WireGuard runtime

The runtime of a server has the sessions of the peers of all networks
(`WireGuardRuntime` of `server/wireguard_runtime.rs`), and finds them by the peer's public key, by
the receiver index of the tunnel and by the peer's address. `activate_peer` and `remove_peer` keep
the maps, and connect and disconnect the peer at its network.
-/

namespace Vntc

open Lib HashMap NetworkState

/-! ## Maps -/

structure PeerKey where
  networkCode : String
  peerId : String
  deriving DecidableEq

inductive SocketAddr
  | v4 (ip : Ipv4Addr) (port : BitVec 16)
  | v6 (ip : BitVec 128) (port : BitVec 16)
  deriving DecidableEq

/-- The fields of a session that packets change. -/
structure PeerTraffic where
  endpoint : Option SocketAddr
  rejectedPackets : Nat
  droppedPackets : Nat
  /-- The lease ids of the offers to clients. -/
  p2pLeases : HashMap Ipv4Addr (BitVec 64)

def PeerTraffic.new : PeerTraffic := ⟨none, 0, 0, ∅⟩

/-- A session. -/
structure RuntimePeer extends ActivePeer where
  publicKey : Bytes
  receiverIndex : Nat
  traffic : PeerTraffic

structure WireGuardRuntime where
  maxActivePeers : Nat
  peers : HashMap PeerKey RuntimePeer
  peersByPublicKey : HashMap Bytes PeerKey
  peersByReceiverIndex : HashMap Nat PeerKey
  peersByReservedIp : HashMap (String × Ipv4Addr) PeerKey

inductive PacketDestination
  | publicKey (key : Bytes)
  | receiverIndex (index : Nat)

def maxReceiverIndex : Nat := 0x00ffffff

def indexAllocationAttempts : Nat := 128

/-- `generate i` is the random number of the attempt `i`. -/
def allocateReceiverIndexWith (used : List Nat) (generate : Nat → Nat) : Option Nat :=
  ((List.range indexAllocationAttempts).map fun i => generate i &&& maxReceiverIndex).find?
    fun candidate => !used.contains candidate

theorem allocateReceiverIndexWith_some {used : List Nat} {generate : Nat → Nat} {index : Nat}
    (h : allocateReceiverIndexWith used generate = some index) :
    index ≤ maxReceiverIndex ∧ index ∉ used := by
  constructor
  · obtain ⟨i, -, hi⟩ := List.mem_map.mp (List.mem_of_find?_eq_some h)
    rw [← hi]
    exact Nat.and_le_right
  · simpa using List.find?_some h

namespace WireGuardRuntime

variable (rt : WireGuardRuntime)

def insertPeer (key : PeerKey) (peer : RuntimePeer) : WireGuardRuntime :=
  { rt with
    peersByPublicKey := rt.peersByPublicKey.insert peer.publicKey key
    peersByReceiverIndex := rt.peersByReceiverIndex.insert peer.receiverIndex key
    peersByReservedIp := rt.peersByReservedIp.insert (key.networkCode, peer.reservedIp) key
    peers := rt.peers.insert key peer }

def erasePeer (key : PeerKey) (peer : RuntimePeer) : WireGuardRuntime :=
  { rt with
    peers := rt.peers.erase key
    peersByPublicKey := rt.peersByPublicKey.erase peer.publicKey
    peersByReceiverIndex := rt.peersByReceiverIndex.erase peer.receiverIndex
    peersByReservedIp := rt.peersByReservedIp.erase (key.networkCode, peer.reservedIp) }

def peerFor : PacketDestination → Option PeerKey
  | .publicKey key => rt.peersByPublicKey.lookup key
  | .receiverIndex index => rt.peersByReceiverIndex.lookup index

def setTraffic (key : PeerKey) (traffic : PeerTraffic) : WireGuardRuntime :=
  { rt with peers := HashMap.modify rt.peers key fun peer => { peer with traffic } }

end WireGuardRuntime

/-! ## Steps -/

/-- A record on its way to a session. -/
structure WireGuardRuntimePeer where
  key : PeerKey
  publicKey : Bytes
  ip : Ipv4Addr
  routes : List WireGuardPeerRouteRecord
  /-- The routes are read after the row. -/
  complete : Bool

/-- The networks of a server, with the operations on their peers, and the runtime. -/
structure RuntimeState where
  networks : HashMap String PeerRecords
  runtime : WireGuardRuntime
  loading : Option WireGuardRuntimePeer

/-- A section of an operation, or a method for devices. -/
def PeerRecords.section (st : PeerRecords) (op : RevokeOp) : PeerRecords :=
  if st.idle.granted op then (st.idle.step op).toPeerRecords else st

inductive RuntimeOp
  /-- An operation on a peer or a method for devices. -/
  | network (networkCode : String) (op : RevokeOp)
  /-- The runtime handles the command of the operation `c`. -/
  | handle (networkCode : String) (c : Nat)
  /-- A handshake; `ok` is the answer of the database. -/
  | handshake (publicKey : Bytes) (ok : Bool)
  | loadRoutes (ok : Bool)
  /-- `ready`: there is a network state. -/
  | activate (ready : Bool) (generate : Nat → Nat) (sender : Channel) (now : SystemTime)
  /-- A packet of a peer, and what it leaves of the session. -/
  | packet (destination : PacketDestination) (traffic : PeerTraffic)
  /-- A frame of the network for a peer. -/
  | bridgePacket (networkCode : String) (destination : Ipv4Addr) (traffic : PeerTraffic)
  | updateTimers (expired : List PeerKey)
  | shutdown

namespace RuntimeState

variable (s : RuntimeState)

def onNetwork (networkCode : String) (f : PeerRecords → PeerRecords) : RuntimeState :=
  { s with networks := HashMap.modify s.networks networkCode f }

/-- The row with the key, of any network. -/
def loadRuntimePeer (publicKey : Bytes) : Option WireGuardRuntimePeer :=
  HashMap.findMap (fun n st => (st.idle.loadRuntimePeer publicKey).map fun r =>
    ⟨⟨n, r.1⟩, publicKey, r.2, [], false⟩) s.networks

def removePeer (key : PeerKey) : RuntimeState :=
  match s.runtime.peers.lookup key with
  | some peer =>
    { s.onNetwork key.networkCode fun st =>
        { st with state := (st.state.disconnectWireguardPeer key.peerId peer.reservedIp).1 } with
      runtime := s.runtime.erasePeer key peer }
  | none => s

def handle (networkCode : String) (c : Nat) : RuntimeState :=
  match s.loading, (s.networks.lookup networkCode).bind (·.calls.lookup c) with
  | none, some ⟨p, op, .revoking g⟩ =>
    (s.removePeer ⟨networkCode, p⟩).onNetwork networkCode fun st =>
      { st with calls := st.calls.insert c ⟨p, op, .acknowledged g⟩ }
  | _, _ => s

/-- `peer_for_handshake` for a peer without a session. -/
def handshake (publicKey : Bytes) (ok : Bool) : RuntimeState :=
  if s.loading.isSome || (s.runtime.peersByPublicKey.lookup publicKey).isSome ||
      s.runtime.maxActivePeers ≤ HashMap.len s.runtime.peers || !ok then s
  else
    match s.loadRuntimePeer publicKey with
    | some record => { s with loading := some record }
    | none => s

def loadRoutes (ok : Bool) : RuntimeState :=
  match s.loading with
  | some ⟨key, publicKey, ip, _, false⟩ =>
    match ok, s.networks.lookup key.networkCode with
    | true, some st =>
      { s with loading := some ⟨key, publicKey, ip,
          RevokeState.sortRoutes ((st.routes.lookup key.peerId).getD []), true⟩ }
    | _, _ => { s with loading := none }
  | _ => s

/-- The session of a record. -/
def newPeer (record : WireGuardRuntimePeer) (receiverIndex : Nat) : RuntimePeer :=
  ⟨⟨record.ip, record.routes⟩, record.publicKey, receiverIndex, .new⟩

def activatePeer (record : WireGuardRuntimePeer) (ready : Bool) (generate : Nat → Nat)
    (sender : Channel) (now : SystemTime) : RuntimeState :=
  if s.runtime.maxActivePeers ≤ HashMap.len s.runtime.peers || !ready then s
  else
    match s.networks.lookup record.key.networkCode,
      allocateReceiverIndexWith s.runtime.peersByReceiverIndex.keys generate with
    | some st, some receiverIndex =>
      let r := st.state.connectWireguardPeer record.key.peerId record.ip sender now
      if r.2 then
        { s.onNetwork record.key.networkCode fun st => { st with state := r.1 } with
          runtime := s.runtime.insertPeer record.key (newPeer record receiverIndex) }
      else s
    | _, _ => s

def activate (ready : Bool) (generate : Nat → Nat) (sender : Channel) (now : SystemTime) :
    RuntimeState :=
  match s.loading with
  | some ⟨key, publicKey, ip, routes, true⟩ =>
    { s with loading := none }.activatePeer ⟨key, publicKey, ip, routes, true⟩ ready generate sender
      now
  | _ => s

/-- The steps of the runtime, and in between the operations on peers and the methods for devices of
each network. -/
def step : RuntimeOp → RuntimeState
  | .network n op =>
    if op.isSection then s.onNetwork n (·.section op) else s
  | .handle n c => s.handle n c
  | .handshake publicKey ok => s.handshake publicKey ok
  | .loadRoutes ok => s.loadRoutes ok
  | .activate ready generate sender now => s.activate ready generate sender now
  | .packet destination traffic =>
    match s.loading, s.runtime.peerFor destination with
    | none, some key => { s with runtime := s.runtime.setTraffic key traffic }
    | _, _ => s
  | .bridgePacket n destination traffic =>
    match s.loading, s.runtime.peersByReservedIp.lookup (n, destination) with
    | none, some key => { s with runtime := s.runtime.setTraffic key traffic }
    | _, _ => s
  | .updateTimers expired => if s.loading.isSome then s else expired.foldl removePeer s
  | .shutdown => if s.loading.isSome then s else s.runtime.peers.keys.foldl removePeer s

/-- The runtime has just started. -/
def Fresh : Prop :=
  s.runtime.peers = ∅ ∧ s.runtime.peersByPublicKey = ∅ ∧ s.runtime.peersByReceiverIndex = ∅ ∧
  s.runtime.peersByReservedIp = ∅ ∧ s.loading = none ∧
  ∀ n st, s.networks.lookup n = some st →
    NetworkState.networkSys.Reach st.state ∧ ∀ ip, st.state.wireguardAt ip = none

def runtimeSys : Sys RuntimeState RuntimeOp := Sys.ofFun Fresh step

/-! ## Indexes -/

/-- The peer that is online at an address of a network. -/
def onlinePeer (a : String × Ipv4Addr) : Option PeerKey :=
  (s.networks.lookup a.1).bind fun st => (st.state.wireguardAt a.2).map (PeerKey.mk a.1)

def reservedAddr (key : PeerKey) (peer : RuntimePeer) : String × Ipv4Addr :=
  (key.networkCode, peer.reservedIp)

/-- The maps have the same sessions, and the networks have their endpoints. -/
structure Consistent (s : RuntimeState) : Prop where
  publicKey : s.runtime.peers.IndexedBy (fun _ peer => peer.publicKey)
    fun k => s.runtime.peersByPublicKey.lookup k
  receiverIndex : s.runtime.peers.IndexedBy (fun _ peer => peer.receiverIndex)
    fun i => s.runtime.peersByReceiverIndex.lookup i
  reservedIp : s.runtime.peers.IndexedBy reservedAddr
    fun a => s.runtime.peersByReservedIp.lookup a
  online : s.runtime.peers.IndexedBy reservedAddr s.onlinePeer
  indexRange : ∀ key peer, s.runtime.peers.lookup key = some peer →
    peer.receiverIndex ≤ maxReceiverIndex
  bounded : HashMap.len s.runtime.peers ≤ s.runtime.maxActivePeers

/-! ## Registrations -/

/-- No peer has a session at the address. -/
def NoSession (a : String × Ipv4Addr) : Prop :=
  ∀ e ∈ s.runtime.peers.entries, reservedAddr e.1 e.2 ≠ a

/-- No device is handed an address at which a peer has a session. -/
def Careful : RuntimeOp → Prop
  | .network n (.method op) => ∀ st ∈ s.networks.lookup n,
      st.state.net.network ≠ Ipv4Addr.broadcast ∧
        ∀ ip ∈ st.state.handedOut op, s.NoSession (n, ip)
  | _ => True

instance (a : String × Ipv4Addr) : Decidable (s.NoSession a) :=
  inferInstanceAs (Decidable (∀ e ∈ s.runtime.peers.entries, _))

/-! ## The invariant -/

/-- The runtime has a session of the peer with the key, or a record for one. -/
def Uses (key : PeerKey) (publicKey : Bytes) : Prop :=
  (∃ peer, s.runtime.peers.lookup key = some peer ∧ peer.publicKey = publicKey) ∨
    ∃ r, s.loading = some r ∧ r.key = key ∧ r.publicKey = publicKey

structure Inv (s : RuntimeState) : Prop extends s.Consistent where
  loading : ∀ r, s.loading = some r → s.runtime.peers.lookup r.key = none ∧
    s.runtime.peersByPublicKey.lookup r.publicKey = none
  keyed : ∀ key publicKey st, s.Uses key publicKey → s.networks.lookup key.networkCode = some st →
    st.idle.HasKey key.peerId publicKey
  reach : ∀ n st, s.networks.lookup n = some st → NetworkState.networkSys.Reach st.state

variable {s}

variable {key : PeerKey} {n : String} {st : PeerRecords} {peer : RuntimePeer}
  {record : WireGuardRuntimePeer}

theorem onlinePeer_eq_some {a : String × Ipv4Addr} :
    s.onlinePeer a = some key ↔ key.networkCode = a.1 ∧
      ∃ st, s.networks.lookup a.1 = some st ∧ st.state.wireguardAt a.2 = some key.peerId := by
  unfold onlinePeer
  rw [Option.bind_eq_some_iff]
  constructor
  · rintro ⟨st, hst, h⟩
    obtain ⟨p, hp, rfl⟩ := Option.map_eq_some_iff.mp h
    exact ⟨rfl, st, hst, hp⟩
  · rintro ⟨hn, st, hst, hp⟩
    refine ⟨st, hst, ?_⟩
    rw [hp, ← hn]
    rfl

theorem Fresh.inv (h : s.Fresh) : s.Inv := by
  obtain ⟨hp, hk, hr, hi, hl, hn⟩ := h
  have hnone : ∀ key peer, s.runtime.peers.lookup key ≠ some peer := by
    intro key peer hx
    rw [hp] at hx
    cases hx
  refine ⟨⟨?_, ?_, ?_, ?_, fun key peer hx => absurd hx (hnone key peer), ?_⟩, fun r hx => ?_, ?_,
    fun n st hst => (hn n st hst).1⟩
  · rw [hp, hk]; exact .empty
  · rw [hp, hr]; exact .empty
  · rw [hp, hi]; exact .empty
  · rw [hp]
    refine HashMap.IndexedBy.empty.congr fun a => ?_
    rw [Option.eq_none_iff_forall_ne_some]
    intro key hx
    obtain ⟨-, st, hst, hat⟩ := onlinePeer_eq_some.mp hx
    rw [(hn _ st hst).2] at hat
    cases hat
  · rw [hp]; exact Nat.zero_le _
  · rw [hl] at hx; cases hx
  · rintro key publicKey st (⟨peer, hx, -⟩ | ⟨r, hx, -⟩) -
    · exact absurd hx (hnone key peer)
    · rw [hl] at hx; cases hx

variable {f : PeerRecords → PeerRecords} {generate : Nat → Nat} {now : SystemTime}
  {sender : Channel} {op : RuntimeOp}

theorem lookup_onNetwork {m : String} {st' : PeerRecords}
    (h : (s.onNetwork n f).networks.lookup m = some st') :
    (m = n ∧ ∃ st, s.networks.lookup m = some st ∧ st' = f st) ∨
      s.networks.lookup m = some st' := by
  simp only [onNetwork, lookup_modify] at h
  split at h
  · rename_i hm
    obtain ⟨st, hst, rfl⟩ := Option.map_eq_some_iff.mp h
    exact .inl ⟨hm, st, hm ▸ hst, rfl⟩
  · exact .inr h

/-- A step of a network beside the runtime. -/
theorem Inv.onNetwork (h : s.Inv) (hat : ∀ st, s.networks.lookup n = some st →
      ∀ ip, (f st).state.wireguardAt ip = st.state.wireguardAt ip)
    (hkey : ∀ st p publicKey, s.networks.lookup n = some st → s.Uses ⟨n, p⟩ publicKey →
      (f st).idle.HasKey p publicKey) (hreach : ∀ st, s.networks.lookup n = some st →
      networkSys.Reach (f st).state) : (s.onNetwork n f).Inv := by
  refine ⟨⟨h.publicKey, h.receiverIndex, h.reservedIp, h.online.congr fun a => ?_, h.indexRange,
    h.bounded⟩, h.loading, fun key publicKey st hu hst => ?_, fun m st hst => ?_⟩
  · simp only [onlinePeer, RuntimeState.onNetwork, lookup_modify]
    split
    · rename_i hn
      rw [hn]
      cases hst : s.networks.lookup n with
      | none => rfl
      | some st => simp only [Option.map_some, Option.bind_some, hat st hst]
    · rfl
  · obtain ⟨m, p⟩ := key
    rcases lookup_onNetwork hst with ⟨rfl, st', hst', rfl⟩ | hst
    · exact hkey st' p publicKey hst' hu
    · exact h.keyed ⟨m, p⟩ publicKey st hu hst
  · rcases lookup_onNetwork hst with ⟨rfl, st', hst', rfl⟩ | hst
    · exact hreach st' hst'
    · exact h.reach m st hst

/-- The methods for devices leave the sessions' endpoints, if registrations are careful. -/
theorem Inv.wireguardAt_method (h : s.Inv) {op : NetworkOp}
    (hc : s.Careful (.network n (.method op)))
    (hst : s.networks.lookup n = some st) (ip : Ipv4Addr) :
    (st.idle.step (.method op)).state.wireguardAt ip = st.state.wireguardAt ip := by
  obtain ⟨hnet, hout⟩ := hc st hst
  simp only [RevokeState.step]
  split
  · rename_i hop
    refine wireguardAt_device (netInv_of_reach (h.reach n st hst) hnet) hop (fun a ha => ?_) ip
    rw [Option.eq_none_iff_forall_ne_some]
    intro p hp
    -- A peer that is online there would have a session, at this address.
    obtain ⟨peer, hpeer, hip⟩ :=
      (h.online (n, a) ⟨n, p⟩).mp (onlinePeer_eq_some.mpr ⟨rfl, st, hst, hp⟩)
    exact hout a ha ⟨⟨n, p⟩, peer⟩ (mem_entries.mpr hpeer) hip
  · rfl

theorem Inv.network (h : s.Inv) {op : RevokeOp} (hc : s.Careful (.network n op))
    (hop : op.isSection = true) :
    (s.onNetwork n (·.section op)).Inv := by
  unfold PeerRecords.section
  refine h.onNetwork (fun st hst ip => ?_) (fun st p publicKey hst hu => ?_) fun st hst => ?_
  · split
    · cases op with
      | method op => exact h.wireguardAt_method hc hst ip
      | _ =>
        unfold wireguardAt
        rw [(RevokeState.sameRuntime_section hop (by simp)).online]
        rfl
    · rfl
  · have hk := h.keyed ⟨n, p⟩ publicKey st hu hst
    split
    · exact hk.section hop
    · exact hk
  · have hr := h.reach n st hst
    split
    · rename_i hg
      rcases RevokeState.state_section hop hg with he | ⟨m, he⟩
      · rw [he]; exact hr
      · exact hr.next m he
    · exact hr

/-! ### The end of a session -/

theorem loading_removePeer (key : PeerKey) : (s.removePeer key).loading = s.loading := by
  unfold removePeer
  split <;> rfl

theorem lookup_removePeer (key k : PeerKey) :
    (s.removePeer key).runtime.peers.lookup k =
      if k = key then none else s.runtime.peers.lookup k := by
  unfold removePeer
  cases hp : s.runtime.peers.lookup key with
  | none =>
    by_cases hk : k = key
    · rw [if_pos hk, hk, hp]
    · rw [if_neg hk]
  | some peer => exact lookup_erase_if _ _ _

/-- What the runtime does to a network leaves the rows. -/
theorem Inv.keyed_onState (h : s.Inv) {g : PeerRecords → NetworkState} {publicKey : Bytes}
    (hst : (s.onNetwork n fun st => { st with state := g st }).networks.lookup key.networkCode =
      some st) (hu : s.Uses key publicKey) : st.idle.HasKey key.peerId publicKey := by
  rcases lookup_onNetwork hst with ⟨-, st', hst', rfl⟩ | hst
  · exact h.keyed key publicKey st' hu hst'
  · exact h.keyed key publicKey st hu hst

theorem Inv.removePeer (h : s.Inv) (hl : s.loading = none) (key : PeerKey) :
    (s.removePeer key).Inv := by
  have hlook := lookup_removePeer (s := s) key
  have hload := loading_removePeer (s := s) key
  unfold RuntimeState.removePeer at hlook hload ⊢
  cases hp : s.runtime.peers.lookup key with
  | none => exact h
  | some peer =>
    simp only [hp] at hlook hload
    -- A session's peer is online at its address.
    obtain ⟨st, hst, hat⟩ : ∃ st, s.networks.lookup key.networkCode = some st ∧
        st.state.wireguardAt peer.reservedIp = some key.peerId :=
      (onlinePeer_eq_some.mp (h.online.find hp)).2
    refine ⟨⟨h.publicKey.erase hp (lookup_erase_if _ _), h.receiverIndex.erase hp
      (lookup_erase_if _ _), h.reservedIp.erase hp (lookup_erase_if _ _),
      h.online.erase hp fun a => ?_, fun k x hx => ?_, ?_⟩, fun r hr => ?_,
      fun k publicKey st' hu hst' => ?_, fun n st' hst' => ?_⟩
    · obtain ⟨n, ip⟩ := a
      simp only [onlinePeer, RuntimeState.onNetwork, lookup_modify, reservedAddr,
        Prod.mk.injEq]
      by_cases hn : n = key.networkCode
      · subst hn
        simp only [if_true, hst, Option.map_some, Option.bind_some, true_and,
          wireguardAt_disconnect hat]
        split <;> rfl
      · simp only [hn, false_and, if_false]
    · rw [hlook] at hx
      split at hx
      · cases hx
      · exact h.indexRange k x hx
    · exact (len_erase_le _ _).trans h.bounded
    · exact absurd (hl.symm.trans hr) (by simp)
    · refine h.keyed_onState hst' ?_
      rcases hu with ⟨x, hx, hk⟩ | ⟨r, hr, -⟩
      · rw [hlook] at hx
        split at hx
        · cases hx
        · exact .inl ⟨x, hx, hk⟩
      · exact absurd (hl.symm.trans hr) (by simp)
    · rcases lookup_onNetwork hst' with ⟨-, st'', hst'', rfl⟩ | hst'
      · exact (h.reach n st'' hst'').next (.disconnectPeer key.peerId peer.reservedIp) rfl
      · exact h.reach n st' hst'

/-- Several sessions end. -/
theorem Inv.removePeers (h : s.Inv) (hl : s.loading = none) (keys : List PeerKey) :
    (keys.foldl RuntimeState.removePeer s).Inv := by
  induction keys generalizing s with
  | nil => exact h
  | cons key keys ih => exact ih (h.removePeer hl key) ((loading_removePeer key).trans hl)

/-- The runtime ends the session of an operation's peer, and acknowledges the command. The operation
may be a deletion that held its lock for this; the sessions of other peers do not depend on it. -/
theorem Inv.handle (h : s.Inv) (n : String) (c : Nat) : (s.handle n c).Inv := by
  unfold RuntimeState.handle
  split
  · rename_i q op g hl hc
    obtain ⟨st, hst, hc⟩ := Option.bind_eq_some_iff.mp hc
    have hr := h.removePeer hl ⟨n, q⟩
    have hcalls : ∀ st', (s.removePeer ⟨n, q⟩).networks.lookup n = some st' →
        st'.calls.lookup c = some ⟨q, op, .revoking g⟩ := by
      intro st' hst'
      unfold RuntimeState.removePeer at hst'
      split at hst'
      · rcases lookup_onNetwork hst' with ⟨-, st'', hst'', rfl⟩ | hst'
        · rw [hst] at hst''; cases hst''; exact hc
        · rw [hst] at hst'; cases hst'; exact hc
      · rw [hst] at hst'; cases hst'; exact hc
    refine hr.onNetwork (fun _ _ _ => rfl) (fun st' p publicKey hst' hu => ?_)
      fun st' hst' => hr.reach n st' hst'
    have hp : p ≠ q := by
      rintro rfl
      rcases hu with ⟨x, hx, -⟩ | ⟨r, hx, -⟩
      · rw [lookup_removePeer, if_pos rfl] at hx; cases hx
      · rw [loading_removePeer, hl] at hx; cases hx
    refine (hr.keyed ⟨n, p⟩ publicKey st' hu hst').same rfl ?_
    rintro ⟨d, call, hlock, hd, hid, hop, hrev, hrow⟩
    have hdc : d ≠ c := by
      rintro rfl
      cases (hcalls st' hst').symm.trans hd
      exact hp hid.symm
    refine ⟨d, call, hlock, ?_, hid, hop, hrev, hrow⟩
    simp only [PeerRecords.idle, lookup_insert_if, if_neg hdc]
    exact hd
  · exact h

/-! ### A new session -/

/-- A record is loaded only for a peer without a session: a session of the peer would have the key
of the row, and be found by it. -/
theorem Inv.handshake (h : s.Inv) (publicKey : Bytes) (ok : Bool) :
    (s.handshake publicKey ok).Inv := by
  unfold RuntimeState.handshake
  split
  · exact h
  · rename_i hc
    simp only [Bool.or_eq_true, not_or, Bool.not_eq_true, Option.isSome_eq_false_iff,
      Option.isNone_iff_eq_none] at hc
    obtain ⟨⟨⟨hl, hk⟩, -⟩, -⟩ := hc
    split
    · rename_i record hload
      obtain ⟨n, st, hst, hrec⟩ := findMap_some hload
      obtain ⟨⟨p, ip⟩, hrow, rfl⟩ := Option.map_eq_some_iff.mp hrec
      obtain ⟨row, hr, -, hkey, -⟩ :=
        RevokeState.loadRuntimePeer_eq hrow ⟨⟨ip, []⟩, publicKey, 0⟩ rfl rfl
      have hkey : row.publicKey = publicKey := hkey
      refine ⟨⟨h.publicKey, h.receiverIndex, h.reservedIp, h.online, h.indexRange, h.bounded⟩,
        fun r hx => ?_, fun key pk st' hu hst' => ?_, h.reach⟩
      · cases hx
        refine ⟨?_, hk⟩
        rw [Option.eq_none_iff_forall_ne_some]
        intro peer hp
        rcases h.keyed ⟨n, p⟩ peer.publicKey st (.inl ⟨peer, hp, rfl⟩) hst with
          ⟨row', hr', hk'⟩ | ⟨_, _, -, -, -, -, -, hn⟩
        · rw [hr] at hr'
          cases hr'
          have hfind : s.runtime.peersByPublicKey.lookup peer.publicKey = some ⟨n, p⟩ :=
            h.publicKey.find hp
          rw [← hk', hkey, hk] at hfind
          cases hfind
        · rw [hr] at hn
          cases hn
      · rcases hu with hu | ⟨r, hx, rfl, rfl⟩
        · exact h.keyed key pk st' (.inl hu) hst'
        · cases hx
          rw [hst] at hst'
          cases hst'
          exact .inl ⟨row, hr, hkey⟩
    · exact h

/-- The record goes on with the same peer and key, or is given up. -/
theorem Inv.setLoading (h : s.Inv) {o : Option WireGuardRuntimePeer}
    (ho : ∀ r, o = some r → ∃ r', s.loading = some r' ∧ r'.key = r.key ∧
      r'.publicKey = r.publicKey) : ({ s with loading := o } : RuntimeState).Inv := by
  refine ⟨⟨h.publicKey, h.receiverIndex, h.reservedIp, h.online, h.indexRange, h.bounded⟩,
    fun r hr => ?_, fun key pk st hu hst => h.keyed key pk st ?_ hst, h.reach⟩
  · obtain ⟨r', hr', hk, hpk⟩ := ho r hr
    rw [← hk, ← hpk]
    exact h.loading r' hr'
  · rcases hu with hu | ⟨r, hr, rfl, rfl⟩
    · exact .inl hu
    · exact .inr (ho r hr)

theorem Inv.loadRoutes (h : s.Inv) (ok : Bool) : (s.loadRoutes ok).Inv := by
  unfold RuntimeState.loadRoutes
  split
  · rename_i key publicKey ip routes hl
    split
    · refine h.setLoading ?_
      rintro r hr
      cases hr
      exact ⟨_, hl, rfl, rfl⟩
    · exact h.setLoading fun r hr => (by cases hr)
  · exact h

/-- The session is new to each of the maps: to the first two as its record was, to the others as
the index was drawn so and as nothing else was online at the address. -/
theorem Inv.insertPeer (h : s.Inv) (hl : s.loading = none)
    (hnew : s.runtime.peers.lookup record.key = none ∧
      s.runtime.peersByPublicKey.lookup record.publicKey = none)
    (hkey : ∀ st, s.networks.lookup record.key.networkCode = some st →
      st.idle.HasKey record.key.peerId record.publicKey)
    (hmax : len s.runtime.peers < s.runtime.maxActivePeers)
    {index : Nat}
    (hidx : allocateReceiverIndexWith s.runtime.peersByReceiverIndex.keys generate = some index)
    (hst : s.networks.lookup record.key.networkCode = some st)
    (hok : (st.state.connectWireguardPeer record.key.peerId record.ip sender now).2 = true) :
    ({ s.onNetwork record.key.networkCode fun st' => { st' with
        state := (st.state.connectWireguardPeer record.key.peerId record.ip sender now).1 } with
      runtime := s.runtime.insertPeer record.key (newPeer record index) } : RuntimeState).Inv := by
  obtain ⟨hrange, hunused⟩ := allocateReceiverIndexWith_some hidx
  obtain ⟨-, hfree⟩ := connect_checked hok
  have honline : s.onlinePeer (record.key.networkCode, record.ip) = none := by
    simp only [onlinePeer, hst, Option.bind_some, hfree, Option.map_none]
  -- The maps agree, so the address is free in the runtime too.
  have hreserved : s.runtime.peersByReservedIp.lookup (record.key.networkCode, record.ip) = none := by
    rw [Option.eq_none_iff_forall_ne_some]
    intro key hx
    rw [(h.online _ key).mpr ((h.reservedIp _ key).mp hx)] at honline
    cases honline
  refine ⟨⟨h.publicKey.insert hnew.1 hnew.2 (lookup_insert_if _ _ · _),
    h.receiverIndex.insert hnew.1 (AList.lookup_eq_none.mpr hunused)
      (lookup_insert_if _ _ · _),
    h.reservedIp.insert hnew.1 hreserved (lookup_insert_if _ _ · _),
    h.online.insert hnew.1 honline fun a => ?_, fun k x hx => ?_, ?_⟩, fun r hr => ?_,
    fun k publicKey st' hu hst' => ?_, fun n st' hst' => ?_⟩
  · obtain ⟨n, ip⟩ := a
    simp only [onlinePeer, RuntimeState.onNetwork, lookup_modify, reservedAddr, newPeer,
      Prod.mk.injEq]
    by_cases hn : n = record.key.networkCode
    · subst hn
      simp only [if_true, hst, Option.map_some, Option.bind_some, true_and,
        wireguardAt_connect hok]
      split <;> rfl
    · simp only [hn, false_and, if_false]
  · rw [WireGuardRuntime.insertPeer, lookup_insert_if] at hx
    split at hx
    · cases hx
      exact hrange
    · exact h.indexRange k x hx
  · show len (s.runtime.peers.insert _ _) ≤ _
    rw [len_insert_of_none hnew.1]
    exact hmax
  · exact absurd (hl.symm.trans hr) (by simp)
  · rcases hu with ⟨x, hx, hk⟩ | ⟨r, hr, -⟩
    · rw [WireGuardRuntime.insertPeer, lookup_insert_if] at hx
      split at hx
      · rename_i hkr
        cases hx
        subst hkr
        rcases lookup_onNetwork hst' with ⟨-, st'', hst'', rfl⟩ | hst'
        · exact hk ▸ hkey st'' hst''
        · exact hk ▸ hkey st' hst'
      · exact h.keyed_onState hst' (.inl ⟨x, hx, hk⟩)
    · exact absurd (hl.symm.trans hr) (by simp)
  · rcases lookup_onNetwork hst' with ⟨rfl, st'', hst'', rfl⟩ | hst'
    · exact (h.reach _ st hst).next (.connectPeer record.key.peerId record.ip sender now) rfl
    · exact h.reach n st' hst'

theorem Inv.activatePeer (h : s.Inv) (hl : s.loading = none)
    (hnew : s.runtime.peers.lookup record.key = none ∧
      s.runtime.peersByPublicKey.lookup record.publicKey = none)
    (hkey : ∀ st, s.networks.lookup record.key.networkCode = some st →
      st.idle.HasKey record.key.peerId record.publicKey) (ready : Bool) (generate : Nat → Nat)
    (sender : Channel) (now : SystemTime) :
    (s.activatePeer record ready generate sender now).Inv := by
  unfold RuntimeState.activatePeer
  split
  · exact h
  · rename_i hc
    simp only [Bool.or_eq_true, decide_eq_true_eq, not_or, not_le] at hc
    split
    · rename_i st index hst hidx
      simp only
      split
      · rename_i hok
        exact h.insertPeer hl hnew hkey hc.1 hidx hst hok
      · exact h
    · exact h

theorem Inv.activate (h : s.Inv) (ready : Bool) (generate : Nat → Nat) (sender : Channel)
    (now : SystemTime) : (s.activate ready generate sender now).Inv := by
  unfold RuntimeState.activate
  split
  · rename_i key publicKey ip routes hl
    refine Inv.activatePeer (h.setLoading fun r hr => (by cases hr)) rfl (h.loading _ hl)
      (fun st hst => ?_) ready generate sender now
    exact h.keyed key publicKey st (.inr ⟨_, hl, rfl, rfl⟩) hst
  · exact h

/-! ### Packets -/

theorem Inv.setTraffic (h : s.Inv) (key : PeerKey) (traffic : PeerTraffic) :
    ({ s with runtime := s.runtime.setTraffic key traffic } : RuntimeState).Inv := by
  unfold WireGuardRuntime.setTraffic HashMap.modify
  cases hp : s.runtime.peers.lookup key with
  | none => exact h
  | some peer =>
    have hlook := fun k => lookup_insert_if s.runtime.peers key k { peer with traffic }
    refine ⟨⟨h.publicKey.update hp rfl, h.receiverIndex.update hp rfl, h.reservedIp.update hp rfl,
      h.online.update hp rfl, fun k x hx => ?_, ?_⟩, fun r hr => ?_,
      fun k publicKey st hu hst => h.keyed k publicKey st ?_ hst, h.reach⟩
    · simp only [hlook] at hx
      split at hx
      · cases hx
        exact h.indexRange key peer hp
      · exact h.indexRange k x hx
    · show len (s.runtime.peers.insert _ _) ≤ _
      rw [len_insert_of_some hp]
      exact h.bounded
    · obtain ⟨hn, hk⟩ := h.loading r hr
      refine ⟨?_, hk⟩
      simp only [hlook]
      rw [if_neg, hn]
      rintro rfl
      rw [hp] at hn
      cases hn
    · rcases hu with ⟨x, hx, hk⟩ | hu
      · simp only [hlook] at hx
        split at hx
        · rename_i hkk
          cases hx
          exact .inl ⟨peer, hkk ▸ hp, hk⟩
        · exact .inl ⟨x, hx, hk⟩
      · exact .inr hu

/-! ## Runs -/

theorem Inv.step (h : s.Inv) (hc : s.Careful op) : (s.step op).Inv := by
  cases op with
  | network n op =>
    simp only [RuntimeState.step]
    split
    · rename_i hop
      exact h.network hc hop
    · exact h
  | handle n c => exact h.handle n c
  | handshake publicKey ok => exact h.handshake publicKey ok
  | loadRoutes ok => exact h.loadRoutes ok
  | activate ready generate sender now => exact h.activate ready generate sender now
  | packet destination traffic | bridgePacket n destination traffic =>
    simp only [RuntimeState.step]
    split
    · exact h.setTraffic _ traffic
    · exact h
  | updateTimers expired =>
    simp only [RuntimeState.step]
    split
    · exact h
    · rename_i hl
      exact h.removePeers (by simpa using hl) expired
  | shutdown =>
    simp only [RuntimeState.step]
    split
    · exact h
    · rename_i hl
      exact h.removePeers (by simpa using hl) _

theorem inv_of_careful (h : runtimeSys.ReachWith Careful s) : s.Inv :=
  h.invariant_of (I := Inv) (fun _ hf => Fresh.inv hf) fun _ _ hi hc => hi.step hc

/-- Sessions that end bring no session. -/
theorem lookup_removePeers (h : s.runtime.peers.lookup key = none)
    (keys : List PeerKey) : (keys.foldl removePeer s).runtime.peers.lookup key = none := by
  induction keys generalizing s with
  | nil => exact h
  | cons k keys ih =>
    refine ih ?_
    rw [lookup_removePeer, h, ite_self]

/-- A session starts at an address that is reserved for its peer. -/
theorem reserved_of_activatePeer {ready : Bool} (hn : s.runtime.peers.lookup key = none)
    (hp : (s.activatePeer record ready generate sender now).runtime.peers.lookup key = some peer) :
    ∃ st, s.networks.lookup key.networkCode = some st ∧
      st.state.leaseState.wireguardPeerIpMap.lookup peer.reservedIp = some key.peerId := by
  have hno : s.runtime.peers.lookup key ≠ some peer := by simp [hn]
  unfold activatePeer at hp
  split at hp
  · exact absurd hp hno
  · split at hp
    · rename_i st index hst hidx
      simp only at hp
      split at hp
      · rename_i hok
        rw [WireGuardRuntime.insertPeer, lookup_insert_if] at hp
        split at hp
        · rename_i hk
          cases hp
          subst hk
          exact ⟨st, hst, (connect_checked hok).1⟩
        · exact absurd hp hno
      · exact absurd hp hno
    · exact absurd hp hno

theorem lookup_setTraffic {rt : WireGuardRuntime} (h : rt.peers.lookup key = none)
    (k : PeerKey) (traffic : PeerTraffic) : (rt.setTraffic k traffic).peers.lookup key = none := by
  rw [WireGuardRuntime.setTraffic, lookup_modify]
  split
  · rename_i hk
    rw [← hk, h]
    rfl
  · exact h

/-- Only an activation starts a session. -/
theorem reserved_of_new (hn : s.runtime.peers.lookup key = none)
    (hp : (s.step op).runtime.peers.lookup key = some peer) :
    ∃ st, s.networks.lookup key.networkCode = some st ∧
      st.state.leaseState.wireguardPeerIpMap.lookup peer.reservedIp = some key.peerId := by
  have hno : s.runtime.peers.lookup key ≠ some peer := by simp [hn]
  cases op with
  | network n op =>
    simp only [step] at hp
    split at hp <;> exact absurd hp hno
  | handle n c =>
    simp only [step, handle] at hp
    split at hp
    · simp only [onNetwork, lookup_removePeer, hn, ite_self] at hp
      cases hp
    · exact absurd hp hno
  | handshake publicKey ok =>
    simp only [step, handshake] at hp
    split at hp
    · exact absurd hp hno
    · split at hp <;> exact absurd hp hno
  | loadRoutes ok =>
    simp only [step, loadRoutes] at hp
    split at hp
    · split at hp <;> exact absurd hp hno
    · exact absurd hp hno
  | activate ready generate sender now =>
    simp only [step, activate] at hp
    split at hp
    · exact reserved_of_activatePeer (s := { s with loading := none }) hn hp
    · exact absurd hp hno
  | packet destination traffic | bridgePacket n destination traffic =>
    simp only [step] at hp
    split at hp
    · rw [lookup_setTraffic hn] at hp
      cases hp
    · exact absurd hp hno
  | updateTimers expired | shutdown =>
    simp only [step] at hp
    split at hp
    · exact absurd hp hno
    · rw [lookup_removePeers hn] at hp
      cases hp

/-- **The maps of the runtime.** If no device is handed an address at which a peer has a session, then
the four maps have the same sessions, no more than allowed and with receiver indexes of 24 bits; the
sessions of a network are its online WireGuard endpoints; and each session starts at an address that
is reserved for its peer. -/
theorem consistent_of_careful (s : RuntimeState) (h : runtimeSys.ReachWith Careful s) :
    s.Consistent ∧ ∀ op key peer, s.runtime.peers.lookup key = none →
      (s.step op).runtime.peers.lookup key = some peer →
      ∃ st, s.networks.lookup key.networkCode = some st ∧
        st.state.leaseState.wireguardPeerIpMap.lookup peer.reservedIp = some key.peerId :=
  ⟨(inv_of_careful h).toConsistent, fun _ _ _ => reserved_of_new⟩

/-! ## A registration during a move -/

/-- A server with one network and one peer, right after its start. -/
def phoneServer : RuntimeState where
  networks := HashMap.ofPairs [("home", RevokeState.phoneState.toPeerRecords)]
  runtime := ⟨8, ∅, ∅, ∅, ∅⟩
  loading := none

theorem phoneServer_fresh : phoneServer.Fresh := by
  refine ⟨rfl, rfl, rfl, rfl, rfl, fun n st hst => ?_⟩
  have hm := mem_of_lookup_ofPairs hst
  cases List.mem_singleton.mp hm
  refine ⟨.init ⟨"home", defaultNet, 0, none,
    some [⟨"phone", RevokeState.phoneIp⟩], 0, List.Pairwise.nil, rfl, fun _ => .inl rfl⟩, fun ip => ?_⟩
  rfl

/-- The peer connects, and a request moves it to another address. -/
def movedPhone : List RuntimeOp :=
  [.handshake [1] true, .loadRoutes true, .activate true (fun _ => 5) 0 0,
    .packet (.receiverIndex 5) ⟨some (.v4 (Ipv4Addr.new 198 51 100 7) 40000), 0, 0, ∅⟩,
    .network "home" (.invoke 0 "phone" (.move RevokeState.phoneIp')), .network "home" (.enter 0 true),
    .network "home" (.persist true), .network "home" (.finish true)]

/-- A device asks for the address. -/
def deviceRegisters (deviceId : String) (ip : Ipv4Addr) : RuntimeOp :=
  .network "home" (.method (.register (anyIpReq deviceId (some ip)) 7 2 0))

/-- One device registers before the runtime handles the command, at an address of its own. Another one
gets the address that the peer had after that, and the peer connects again. -/
def reconnectedPhone : List RuntimeOp :=
  movedPhone ++ [deviceRegisters "tablet" (homeIp 9), .handle "home" 0,
    .network "home" (.reply 0), deviceRegisters "laptop" RevokeState.phoneIp, .handshake [1] true,
    .loadRoutes true, .activate true (fun _ => 5) 0 0]

theorem careful_deviceRegisters {d : String} {ip : Ipv4Addr}
    (hnet : ∀ st ∈ s.networks.lookup "home", st.state.net.network ≠ Ipv4Addr.broadcast)
    (hout : (s.networks.lookup "home").bind (·.state.handedOut
      (.register (anyIpReq d (some ip)) 7 2 0)) = some ip)
    (hno : s.NoSession ("home", ip)) : s.Careful (deviceRegisters d ip) := by
  refine fun st hst => ⟨hnet st hst, fun a ha => ?_⟩
  rw [hst, Option.bind_some, ha] at hout
  cases hout
  exact hno

theorem consistent_reconnected :
    (reconnectedPhone.foldl step phoneServer).onlinePeer ("home", RevokeState.phoneIp') =
      some ⟨"home", "phone"⟩ ∧ (reconnectedPhone.foldl step phoneServer).Consistent := by
  have hm : Sys.Meets Careful step phoneServer reconnectedPhone :=
    ⟨trivial, trivial, trivial, trivial, trivial, trivial, trivial, trivial,
      careful_deviceRegisters (by decide) (by decide) (by decide), trivial, trivial,
      careful_deviceRegisters (by decide) (by decide) (by decide), trivial, trivial, trivial, trivial⟩
  exact ⟨by decide, (consistent_of_careful _ (Sys.ReachWith.foldl
    (Sys.ReachWith.init (S := runtimeSys) (C := Careful) phoneServer_fresh) hm)).1⟩

/-- A device asks for the address that the peer had before the runtime has the command. -/
def takenOver : List RuntimeOp := movedPhone ++ [deviceRegisters "laptop" RevokeState.phoneIp]

/-- The endpoint of the device replaces that of the peer, whose session goes on. -/
theorem device_takes_over :
    ∃ s, runtimeSys.Reach s ∧
      (∃ peer, s.runtime.peers.lookup ⟨"home", "phone"⟩ = some peer ∧
        peer.reservedIp = RevokeState.phoneIp) ∧
      s.onlinePeer ("home", RevokeState.phoneIp) = none ∧ ¬ s.Consistent := by
  have hr : runtimeSys.Reach (takenOver.foldl step phoneServer) :=
    Sys.Reach.foldl (Sys.Reach.init (S := runtimeSys) phoneServer_fresh) _
  obtain ⟨peer, hp⟩ : ∃ peer, (takenOver.foldl step phoneServer).runtime.peers.lookup
      ⟨"home", "phone"⟩ = some peer := Option.isSome_iff_exists.mp (by decide)
  have hip : ((takenOver.foldl step phoneServer).runtime.peers.lookup ⟨"home", "phone"⟩).map
      (·.reservedIp) = some RevokeState.phoneIp := by decide
  rw [hp] at hip
  have hip : peer.reservedIp = RevokeState.phoneIp := Option.some.inj hip
  have hoff : (takenOver.foldl step phoneServer).onlinePeer ("home", RevokeState.phoneIp) = none := by
    decide
  refine ⟨_, hr, ⟨peer, hp, hip⟩, hoff, fun hc => ?_⟩
  have hfind := hc.online.find hp
  rw [reservedAddr, hip, hoff] at hfind
  cases hfind

end RuntimeState

end Vntc
