import Vntc.Lib.Flood
import Vntc.Lib.HashMap
import Vntc.Server.Relay.Packet

/-!
# Broadcasts between servers

The servers of a cluster flood the broadcasts of their WireGuard peers and devices:
`broadcast_wireguard`, `handle_broadcast_data` and `forward_broadcast_message` of
`server/peer_server.rs`. A server remembers the ids that it has seen, so that it passes a broadcast
on only once, and a hop count bounds the way of a copy.

Each connection of a server has its own task. Two copies of a broadcast that come over two
connections are handled at the same time, and the map of the seen ids is locked only for one access.
So a handler is modelled as three steps (`receive`, `insertSeen`, `finish`), with any steps of other
handlers in between.
-/


namespace Vntc

open Lib

/-- The bit of `CAPABILITY_WIREGUARD_BROADCAST_V1` in the capabilities of a server. -/
def capabilityWireguardBroadcastV1 : Nat := 2

def broadcastHopLimit : Nat := 8

/-- In nanoseconds. -/
def broadcastSeenTtl : Nat := 120 * 10 ^ 9

def maxBroadcastSeen : Nat := 4096

structure ServerBroadcastData where
  networkCode : String
  data : Bytes
  sourceIp : Ipv4Addr
  broadcastId : String
  originServerId : String
  hopsRemaining : Nat
  sourceIsWireguard : Bool
  deriving DecidableEq

/-! ## The ids that a server has seen -/

/-- The ids with the times at which they were seen. -/
abbrev BroadcastSeen := HashMap String Nat

/-- The answer of `get_mut`. -/
inductive Lookup
  | recent
  | refreshed
  | missing
  deriving DecidableEq

/-- The first part of `mark_broadcast_seen`. -/
def lookupSeen (seen : BroadcastSeen) (broadcastId : String) (now : Nat) : BroadcastSeen × Lookup :=
  let seen := if maxBroadcastSeen ≤ seen.len then
      seen.retain fun _ t => now - t < broadcastSeenTtl
    else seen
  match seen.lookup broadcastId with
  | some t =>
    if now - t < broadcastSeenTtl then (seen, .recent)
    else (seen.insert broadcastId now, .refreshed)
  | none => (seen, .missing)

/-- `mark_broadcast_seen` without another access in between. -/
def markBroadcastSeen (seen : BroadcastSeen) (broadcastId : String) (now : Nat) :
    BroadcastSeen × Bool :=
  match lookupSeen seen broadcastId now with
  | (seen, .recent) => (seen, false)
  | (seen, .refreshed) => (seen, true)
  | (seen, .missing) => (seen.insert broadcastId now, true)

variable {broadcastId : String} {now : Nat} {seen : BroadcastSeen}

theorem lookupSeen_within (hlen : seen.len < maxBroadcastSeen)
    (hage : ∀ t ∈ seen.lookup broadcastId, now - t < broadcastSeenTtl) :
    lookupSeen seen broadcastId now =
      (seen, if (seen.lookup broadcastId).isSome then .recent else .missing) := by
  unfold lookupSeen
  rw [if_neg (Nat.not_le.mpr hlen)]
  dsimp only
  cases h : seen.lookup broadcastId with
  | none => rfl
  | some t => simp [hage t h]

/-- Marking an id adds it and keeps the other ids. -/
theorem isSome_lookup_mark (hlen : seen.len < maxBroadcastSeen) {k : String} :
    ((markBroadcastSeen seen broadcastId now).1.lookup k).isSome ↔
      k = broadcastId ∨ (seen.lookup k).isSome := by
  have hins : ((seen.insert broadcastId now).lookup k).isSome ↔
      k = broadcastId ∨ (seen.lookup k).isSome := by
    rw [HashMap.lookup_insert_if]
    by_cases he : k = broadcastId <;> simp [he]
  unfold markBroadcastSeen lookupSeen
  rw [if_neg (Nat.not_le.mpr hlen)]
  dsimp only
  cases h : seen.lookup broadcastId with
  | none => exact hins
  | some t =>
    by_cases ht : now - t < broadcastSeenTtl
    · simp only [ht, if_true, iff_or_self]
      rintro rfl
      rw [h]; rfl
    · simp only [ht, if_false]
      exact hins

/-! ## The links of a server -/

/-- A graph of servers. A link is one end of a connection, at the server `src`; `rev` is the other
end. -/
structure PeerGraph (V L : Type) where
  serverId : V → String
  src : L → V
  rev : L → L
  peers : V → List L
  nodup : ∀ v, (peers v).Nodup
  src_of_mem : ∀ v, ∀ l ∈ peers v, src l = v

def PeerGraph.dst {V L : Type} (g : PeerGraph V L) (l : L) : V := g.src (g.rev l)

/-- What the servers know about their links at some time, and over which of them a datagram can be
sent. -/
structure LinkInfo (L : Type) where
  connected : L → Bool
  remoteCapabilities : L → BitVec 64
  remoteServerId : L → Option String
  addr : L → String
  canSend : L → Bool

namespace LinkInfo

variable {L : Type} [DecidableEq L] (info : LinkInfo L)

def broadcasts (l : L) : Bool :=
  (info.remoteCapabilities l).getLsbD capabilityWireguardBroadcastV1

def remoteId (l : L) : String := (info.remoteServerId l).getD (info.addr l)

/-- The loop of `forward_broadcast_message`; `remoteIds` are the servers that have a copy. -/
def targets (incoming : Option L) : List String → List L → List L
  | _, [] => []
  | remoteIds, l :: ls =>
    if !info.connected l || !info.broadcasts l || incoming == some l then
      targets incoming remoteIds ls
    else if info.remoteId l ∈ remoteIds then targets incoming remoteIds ls
    else if info.canSend l then l :: targets incoming (info.remoteId l :: remoteIds) ls
    else targets incoming (info.remoteId l :: remoteIds) ls

theorem targets_sublist (incoming : Option L) (remoteIds : List String) (ls : List L) :
    (info.targets incoming remoteIds ls).Sublist ls := by
  induction ls generalizing remoteIds with
  | nil => exact .slnil
  | cons l ls ih =>
    unfold targets
    split
    · exact (ih _).cons l
    · split
      · exact (ih _).cons l
      · split
        · exact (ih _).cons_cons l
        · exact (ih _).cons l

theorem not_incoming_of_mem_targets {incoming : Option L} {remoteIds : List String} {ls : List L}
    {l : L} (h : l ∈ info.targets incoming remoteIds ls) : incoming ≠ some l := by
  induction ls generalizing remoteIds with
  | nil => cases h
  | cons x ls ih =>
    unfold targets at h
    split at h
    · exact ih h
    · rename_i hx
      split at h
      · exact ih h
      · split at h
        · rcases List.mem_cons.mp h with rfl | h
          · simp only [Bool.or_eq_true, beq_iff_eq, not_or] at hx
            exact hx.2
          · exact ih h
        · exact ih h

end LinkInfo

/-! ## Servers and copies in flight -/

/-- A broadcast that was sent over a link. -/
structure Copy (L : Type) where
  link : L
  broadcast : ServerBroadcastData
  deriving DecidableEq

/-- A handler after its lookup; `entered` says that the id is in the map. -/
structure Task (L : Type) where
  copy : Copy L
  now : Nat
  entered : Bool
  deriving DecidableEq

/-- A server relayed a broadcast to its own clients and passed it on; the cause is the copy that it
got, or none at the origin. -/
structure Pass (V L : Type) where
  server : V
  broadcastId : String
  cause : Option (Copy L)
  deriving DecidableEq

/-- A copy that was sent, with the copy that it was made from. -/
structure Sent (L : Type) where
  copy : Copy L
  cause : Option (Copy L)
  deriving DecidableEq

structure FloodState (V L : Type) where
  seen : V → BroadcastSeen
  inFlight : List (Copy L)
  tasks : List (Task L)
  /-- All passes so far. -/
  passes : List (Pass V L)
  /-- All copies that were sent so far. -/
  sent : List (Sent L)

namespace FloodState

variable {V L : Type} [DecidableEq V] [DecidableEq L] (g : PeerGraph V L) (s : FloodState V L)

/-- Make a pass: `forward_broadcast_message` after the relay to the own clients. -/
def pass (v : V) (broadcastId : String) (cause : Option (Copy L)) (copies : List (Copy L)) :
    FloodState V L :=
  { s with
    inFlight := copies ++ s.inFlight
    passes := ⟨v, broadcastId, cause⟩ :: s.passes
    sent := copies.map (fun c => ⟨c, cause⟩) ++ s.sent }

def copies (info : LinkInfo L) (v : V) (incoming : Option L) (broadcast : ServerBroadcastData) :
    List (Copy L) :=
  (info.targets incoming [] (g.peers v)).map fun l => ⟨l, broadcast⟩

/-- The id of a broadcast of a server. -/
def originId (v : V) (requestId : String) : String := g.serverId v ++ ":" ++ requestId

def broadcastWireguard (info : LinkInfo L) (v : V) (networkCode : String) (source : Ipv4Addr)
    (data : Bytes) (fromWireguard : Bool) (requestId : String) (now : Nat) : FloodState V L :=
  if maxInnerIpv4PacketSize < data.length then s
  else
    let broadcastId := originId g v requestId
    let seen := (markBroadcastSeen (s.seen v) broadcastId now).1
    let s := { s with seen := Function.update s.seen v seen }
    s.pass v broadcastId none (copies g info v none
      { networkCode, data, sourceIp := source, broadcastId, originServerId := g.serverId v,
        hopsRemaining := broadcastHopLimit, sourceIsWireguard := fromWireguard })

/-- The checks of `handle_broadcast_data`. -/
def accepts (info : LinkInfo L) (incoming : L) (broadcast : ServerBroadcastData) : Bool :=
  info.broadcasts incoming && broadcast.networkCode ≠ "" && broadcast.broadcastId ≠ "" &&
    broadcast.broadcastId.utf8ByteSize ≤ 128 && broadcast.data.length ≤ maxInnerIpv4PacketSize &&
    broadcast.hopsRemaining ≠ 0 && broadcast.hopsRemaining ≤ broadcastHopLimit

/-- A copy arrives, is checked and looked up. -/
def receive (info : LinkInfo L) (c : Copy L) (now : Nat) : FloodState V L :=
  if c ∈ s.inFlight then
    let s := { s with inFlight := s.inFlight.erase c }
    if accepts info (g.rev c.link) c.broadcast then
      let v := g.dst c.link
      match lookupSeen (s.seen v) c.broadcast.broadcastId now with
      | (seen, .recent) => { s with seen := Function.update s.seen v seen }
      | (seen, .refreshed) =>
        { s with seen := Function.update s.seen v seen, tasks := ⟨c, now, true⟩ :: s.tasks }
      | (seen, .missing) =>
        { s with seen := Function.update s.seen v seen, tasks := ⟨c, now, false⟩ :: s.tasks }
    else s
  else s

/-- The last access of `mark_broadcast_seen`. -/
def insertSeen (t : Task L) : FloodState V L :=
  if t ∈ s.tasks ∧ t.entered = false then
    let v := g.dst t.copy.link
    { s with
      seen := Function.update s.seen v ((s.seen v).insert t.copy.broadcast.broadcastId t.now)
      tasks := { t with entered := true } :: s.tasks.erase t }
  else s

/-- The rest of `handle_broadcast_data`. -/
def finish (info : LinkInfo L) (t : Task L) : FloodState V L :=
  if t ∈ s.tasks ∧ t.entered = true then
    let v := g.dst t.copy.link
    let broadcast := { t.copy.broadcast with
      hopsRemaining := t.copy.broadcast.hopsRemaining - 1 }
    let s := { s with tasks := s.tasks.erase t }
    s.pass v broadcast.broadcastId (some t.copy)
      (if 0 < broadcast.hopsRemaining then
        copies g info v (some (g.rev t.copy.link)) broadcast else [])
  else s

end FloodState

inductive FloodOp (V L : Type)
  | originate (info : LinkInfo L) (v : V) (networkCode : String) (source : Ipv4Addr) (data : Bytes)
      (fromWireguard : Bool) (requestId : String) (now : Nat)
  | receive (info : LinkInfo L) (c : Copy L) (now : Nat)
  | insertSeen (t : Task L)
  | finish (info : LinkInfo L) (t : Task L)
  | lose (c : Copy L)

namespace FloodState

section
variable {V L : Type} [DecidableEq V] [DecidableEq L] (g : PeerGraph V L)

def apply (s : FloodState V L) : FloodOp V L → FloodState V L
  | .originate info v networkCode source data fromWireguard requestId now =>
    s.broadcastWireguard g info v networkCode source data fromWireguard requestId now
  | .receive info c now => s.receive g info c now
  | .insertSeen t => s.insertSeen g t
  | .finish info t => s.finish g info t
  | .lose c => { s with inFlight := s.inFlight.erase c }

def initial : FloodState V L where
  seen _ := ∅
  inFlight := []
  tasks := []
  passes := []
  sent := []

/-- The servers of a graph, with copies in flight that arrive in any order or are lost. -/
def floodSys : Sys (FloodState V L) (FloodOp V L) := Sys.ofFun (fun s => s = initial) (apply g)

/-- A new broadcast has a new id; a table of seen ids is not full, and its entry of an arriving copy
is not too old. -/
def Within (s : FloodState V L) : FloodOp V L → Prop
  | .originate _ v _ _ _ _ requestId _ =>
    (s.seen v).len < maxBroadcastSeen ∧ ∀ p ∈ s.passes, p.broadcastId ≠ originId g v requestId
  | .receive _ c now =>
    (s.seen (g.dst c.link)).len < maxBroadcastSeen ∧
      ∀ t ∈ (s.seen (g.dst c.link)).lookup c.broadcast.broadcastId, now - t < broadcastSeenTtl
  | _ => True

instance (s : FloodState V L) (op : FloodOp V L) : Decidable (Within g s op) := by
  unfold Within; split <;> infer_instance

/-- The server and the id of a handler. -/
def key (t : Task L) : V × String := (g.dst t.copy.link, t.copy.broadcast.broadcastId)

/-- No other copy of the broadcast is looked up but not yet entered at the server. -/
def Apart (s : FloodState V L) : FloodOp V L → Prop
  | .receive _ c _ =>
    ∀ t ∈ s.tasks, t.entered = false → key g t ≠ (g.dst c.link, c.broadcast.broadcastId)
  | _ => True

instance (s : FloodState V L) (op : FloodOp V L) : Decidable (Apart g s op) := by
  unfold Apart; split <;> infer_instance

/-- Within the limits, and the lookups are apart. -/
def Orderly (s : FloodState V L) (op : FloodOp V L) : Prop := Within g s op ∧ Apart g s op

instance (s : FloodState V L) (op : FloodOp V L) : Decidable (Orderly g s op) :=
  inferInstanceAs (Decidable (_ ∧ _))

end

/-! ## The invariant -/

variable {V L : Type} {g : PeerGraph V L} {s : FloodState V L}

/-- What holds in the runs that are `Within` and `Apart`. -/
structure Inv (g : PeerGraph V L) (s : FloodState V L) : Prop where
  /-- A server handles one copy of a broadcast at a time, and none after its pass. -/
  nodup : (s.tasks.map (key g)).Nodup
  fresh : ∀ t ∈ s.tasks, ∀ p ∈ s.passes, (p.server, p.broadcastId) ≠ key g t
  seenPass : ∀ p ∈ s.passes, ((s.seen p.server).lookup p.broadcastId).isSome
  seenTask : ∀ t ∈ s.tasks, t.entered = true →
    ((s.seen (key g t).1).lookup (key g t).2).isSome
  /-- A broadcast on its way has passed its origin. -/
  originFlight : ∀ c ∈ s.inFlight, ∃ p ∈ s.passes, p.broadcastId = c.broadcast.broadcastId
  originTask : ∀ t ∈ s.tasks, ∃ p ∈ s.passes, p.broadcastId = t.copy.broadcast.broadcastId
  hops : ∀ t ∈ s.tasks, 0 < t.copy.broadcast.hopsRemaining
  causes : ∀ e ∈ s.sent, ∀ c, e.cause = some c →
    e.copy.broadcast.hopsRemaining < c.broadcast.hopsRemaining ∧ e.copy.link ≠ g.rev c.link ∧
      ⟨g.src e.copy.link, e.copy.broadcast.broadcastId, some c⟩ ∈ s.passes

theorem inv_initial : Inv g (initial : FloodState V L) where
  nodup := List.nodup_nil
  fresh := nofun
  seenPass := nofun
  seenTask := nofun
  originFlight := nofun
  originTask := nofun
  hops := nofun
  causes := nofun

variable {info : LinkInfo L} {v : V}

variable {c : Copy L} {now : Nat} {broadcast : ServerBroadcastData} {incoming : Option L}
  {broadcastId : String} {cause : Option (Copy L)} {cs : List (Copy L)}

/-- The invariant does not depend on more ids being seen. -/
theorem Inv.withSeen (h : Inv g s) {seen : V → BroadcastSeen}
    (hm : ∀ v k, ((s.seen v).lookup k).isSome → ((seen v).lookup k).isSome) :
    Inv g { s with seen } :=
  { h with
    seenPass := fun p hp => hm _ _ (h.seenPass p hp)
    seenTask := fun t ht he => hm _ _ (h.seenTask t ht he) }

/-- A pass of a server that no handler of the server is about. -/
theorem Inv.pass (h : Inv g s) (hfree : ∀ t ∈ s.tasks, (v, broadcastId) ≠ key g t)
    (hseen : ((s.seen v).lookup broadcastId).isSome)
    (hid : ∀ c ∈ cs, c.broadcast.broadcastId = broadcastId ∧ g.src c.link = v)
    (hcause : ∀ c ∈ cs, ∀ d, cause = some d →
      c.broadcast.hopsRemaining < d.broadcast.hopsRemaining ∧ c.link ≠ g.rev d.link) :
    Inv g (s.pass v broadcastId cause cs) := by
  refine ⟨h.nodup, ?_, ?_, h.seenTask, ?_, ?_, h.hops, ?_⟩
  · intro t ht p hp
    rcases List.mem_cons.mp hp with rfl | hp
    · exact hfree t ht
    · exact h.fresh t ht p hp
  · intro p hp
    rcases List.mem_cons.mp hp with rfl | hp
    · exact hseen
    · exact h.seenPass p hp
  · intro c hc
    rcases List.mem_append.mp hc with hc | hc
    · exact ⟨_, List.mem_cons_self, (hid c hc).1.symm⟩
    · obtain ⟨p, hp, e⟩ := h.originFlight c hc
      exact ⟨p, List.mem_cons_of_mem _ hp, e⟩
  · intro t ht
    obtain ⟨p, hp, e⟩ := h.originTask t ht
    exact ⟨p, List.mem_cons_of_mem _ hp, e⟩
  · intro e he d hd
    rcases List.mem_append.mp he with he | he
    · obtain ⟨c, hc, rfl⟩ := List.mem_map.mp he
      obtain ⟨hlt, hne⟩ := hcause c hc d hd
      refine ⟨hlt, hne, ?_⟩
      rw [(hid c hc).1, (hid c hc).2]
      exact List.mem_cons.mpr (.inl (by rw [← hd]))
    · obtain ⟨hlt, hne, hp⟩ := h.causes e he d hd
      exact ⟨hlt, hne, List.mem_cons_of_mem _ hp⟩

/-! ## The runs as abstract floods -/

/-- Who passed what on, and what the links carried. -/
def view (s : FloodState V L) : Flood V L String where
  passed := s.passes.map fun p => (p.server, p.broadcastId)
  sent := s.sent.map fun e => (e.copy.link, e.copy.broadcast.broadcastId)

theorem view_pass (hid : ∀ c ∈ cs, c.broadcast.broadcastId = broadcastId) :
    (s.pass v broadcastId cause cs).view = s.view.pass v broadcastId (cs.map (·.link)) := by
  refine Flood.ext rfl ?_
  simp only [view, pass, Flood.pass, List.map_append, List.map_map]
  congr 1
  exact List.map_congr_left fun c hc => by simp [hid c hc]

/-- How often a server relayed a broadcast of another server to its own clients. -/
def relays [DecidableEq V] (s : FloodState V L) (v : V) (broadcastId : String) : Nat :=
  s.passes.countP fun p => p.server = v ∧ p.broadcastId = broadcastId ∧ p.cause.isSome

/-- How many copies of a broadcast were sent. -/
def messages (s : FloodState V L) (broadcastId : String) : Nat :=
  s.sent.countP fun e => e.copy.broadcast.broadcastId = broadcastId

theorem relays_le_one [DecidableEq V] (h : Flood.Inv g.src s.view) (v : V) (b : String) : s.relays v b ≤ 1 := by
  calc s.relays v b ≤ s.view.passed.count (v, b) := by
        rw [List.count_eq_countP, view, List.countP_map]
        exact List.countP_mono_left fun p _ hp => by simp_all
    _ ≤ 1 := List.nodup_iff_count_le_one.mp h.passed (v, b)

/-- A server that passes a broadcast on as its origin does so only once. -/
theorem pass_unique (h : Flood.Inv g.src s.view) {p q : Pass V L} (hp : p ∈ s.passes)
    (hq : q ∈ s.passes) (hs : p.server = q.server) (hb : p.broadcastId = q.broadcastId) : p = q :=
  List.inj_on_of_nodup_map h.passed hp hq (Prod.ext hs hb)

theorem messages_le_card [Fintype L] (h : Flood.Inv g.src s.view) (b : String) :
    s.messages b ≤ Fintype.card L := by
  calc s.messages b = (s.view.sent.filter fun e => e.2 = b).length := by
        rw [← List.countP_eq_length_filter, view, List.countP_map]
        rfl
    _ ≤ Fintype.card L := h.length_sent_le b

/-! ## Steps -/

variable [DecidableEq L]

theorem mem_copies (hc : c ∈ copies g info v incoming broadcast) :
    c.broadcast = broadcast ∧ g.src c.link = v ∧ incoming ≠ some c.link := by
  obtain ⟨l, hl, rfl⟩ := List.mem_map.mp hc
  exact ⟨rfl, g.src_of_mem v l ((info.targets_sublist _ _ _).subset hl),
    info.not_incoming_of_mem_targets hl⟩

theorem map_link_copies :
    ((copies g info v incoming broadcast).map (·.link)).Nodup ∧
      ∀ l ∈ (copies g info v incoming broadcast).map (·.link), g.src l = v := by
  constructor
  · simp only [copies, List.map_map, Function.comp_def, List.map_id']
    exact (g.nodup v).sublist (info.targets_sublist _ _ _)
  · intro l hl
    obtain ⟨c, hc, rfl⟩ := List.mem_map.mp hl
    exact (mem_copies hc).2.1

theorem Inv.finish (h : Inv g s) (info : LinkInfo L) (t : Task L) : Inv g (s.finish g info t) := by
  unfold FloodState.finish
  split
  · rename_i ht
    obtain ⟨ht, hent⟩ := ht
    have hsub : ∀ x ∈ s.tasks.erase t, x ∈ s.tasks := fun x => List.mem_of_mem_erase
    have hnod := ((List.perm_cons_erase ht).map (key g)).nodup_iff.mp h.nodup
    rw [List.map_cons, List.nodup_cons] at hnod
    have hrest : Inv g { s with tasks := s.tasks.erase t } :=
      ⟨hnod.2, fun x hx => h.fresh x (hsub x hx), h.seenPass,
        fun x hx => h.seenTask x (hsub x hx), h.originFlight,
        fun x hx => h.originTask x (hsub x hx), fun x hx => h.hops x (hsub x hx), h.causes⟩
    refine hrest.pass (fun x hx e => hnod.1 (List.mem_map.mpr ⟨x, hx, e.symm⟩))
      (h.seenTask t ht hent) (fun c hc => ?_) (fun c hc d hd => ?_)
    all_goals
      split at hc
      case isFalse => cases hc
      obtain ⟨hb, hv, hin⟩ := mem_copies hc
    · rw [hb]
      exact ⟨rfl, hv⟩
    · cases hd
      have hpos := h.hops t ht
      rw [hb]
      exact ⟨Nat.sub_lt hpos Nat.one_pos, fun e => hin (by rw [e])⟩
  · exact h

variable [DecidableEq V]

/-- A copy that arrives is handled only if the server did not see its broadcast. -/
theorem Inv.receive (h : Inv g s)
    (hw : Within g s (.receive info c now)) (ha : Apart g s (.receive info c now)) :
    Inv g (s.receive g info c now) := by
  unfold FloodState.receive
  split
  · rename_i hc
    have hfl : ∀ x ∈ s.inFlight.erase c, ∃ p ∈ s.passes,
        p.broadcastId = x.broadcast.broadcastId := fun x hx =>
      h.originFlight x (List.mem_of_mem_erase hx)
    split
    · rename_i hacc
      dsimp only
      rw [lookupSeen_within hw.1 hw.2]
      have hupd : Function.update s.seen (g.dst c.link) (s.seen (g.dst c.link)) = s.seen :=
        Function.update_eq_self _ _
      cases hl : (s.seen (g.dst c.link)).lookup c.broadcast.broadcastId with
      | some t =>
        simp only [Option.isSome_some, if_true, hupd]
        exact { h with originFlight := hfl }
      | none =>
        simp only [Option.isSome_none, Bool.false_eq_true, if_false, hupd]
        have hpass : ∀ p ∈ s.passes, (p.server, p.broadcastId) ≠
            (g.dst c.link, c.broadcast.broadcastId) := by
          intro p hp e
          have hs := h.seenPass p hp
          obtain ⟨e₁, e₂⟩ := Prod.mk.inj e
          rw [e₁, e₂, hl] at hs
          cases hs
        have htask : (g.dst c.link, c.broadcast.broadcastId) ∉ s.tasks.map (key g) := by
          intro hm
          obtain ⟨t, ht, e⟩ := List.mem_map.mp hm
          cases hent : t.entered with
          | false => exact ha t ht hent e
          | true =>
            have hs := h.seenTask t ht hent
            rw [e, hl] at hs
            cases hs
        refine ⟨List.nodup_cons.mpr ⟨htask, h.nodup⟩, ?_, h.seenPass, ?_, hfl, ?_, ?_, h.causes⟩
        · intro t ht
          rcases List.mem_cons.mp ht with rfl | ht
          · exact hpass
          · exact h.fresh t ht
        · intro t ht hent
          rcases List.mem_cons.mp ht with rfl | ht
          · cases hent
          · exact h.seenTask t ht hent
        · intro t ht
          rcases List.mem_cons.mp ht with rfl | ht
          · exact h.originFlight c hc
          · exact h.originTask t ht
        · intro t ht
          rcases List.mem_cons.mp ht with rfl | ht
          · simp only [accepts, Bool.and_eq_true, decide_eq_true_eq] at hacc
            exact Nat.pos_of_ne_zero hacc.1.2
          · exact h.hops t ht
    · exact { h with originFlight := hfl }
  · exact h

theorem Inv.insertSeen (h : Inv g s) (t : Task L) : Inv g (s.insertSeen g t) := by
  unfold FloodState.insertSeen
  split
  · rename_i ht
    obtain ⟨ht, -⟩ := ht
    -- The handlers are the same up to the new mark.
    have hold : ∀ x ∈ ({ t with entered := true } : Task L) :: s.tasks.erase t,
        ∃ y ∈ s.tasks, y.copy = x.copy ∧ (x.entered = true → y.entered = true ∨ y = t) := by
      intro x hx
      rcases List.mem_cons.mp hx with rfl | hx
      · exact ⟨t, ht, rfl, fun _ => .inr rfl⟩
      · exact ⟨x, List.mem_of_mem_erase hx, rfl, .inl⟩
    have hmono : ∀ v k, ((s.seen v).lookup k).isSome →
        ((Function.update s.seen (g.dst t.copy.link)
          ((s.seen (g.dst t.copy.link)).insert t.copy.broadcast.broadcastId t.now) v).lookup
            k).isSome := by
      intro v k hk
      by_cases hv : v = g.dst t.copy.link
      · subst hv
        rw [Function.update_self, HashMap.lookup_insert_if]
        split
        · rfl
        · exact hk
      · rwa [Function.update_of_ne hv]
    have hperm : (({ t with entered := true } : Task L) :: s.tasks.erase t).map (key g) |>.Perm
        (s.tasks.map (key g)) := ((List.perm_cons_erase ht).map (key g)).symm
    refine ⟨hperm.nodup_iff.mpr h.nodup, ?_, fun p hp => hmono _ _ (h.seenPass p hp), ?_,
      h.originFlight, ?_, ?_, h.causes⟩
    · intro x hx
      obtain ⟨y, hy, hc, -⟩ := hold x hx
      have := h.fresh y hy
      rwa [key, hc] at this
    · intro x hx hent
      obtain ⟨y, hy, hc, hor⟩ := hold x hx
      rcases hor hent with he | rfl
      · have hs := h.seenTask y hy he
        rw [key, hc] at hs
        exact hmono _ _ hs
      · simp [key, ← hc, HashMap.lookup_insert_if]
    · intro x hx
      obtain ⟨y, hy, hc, -⟩ := hold x hx
      rw [← hc]
      exact h.originTask y hy
    · intro x hx
      obtain ⟨y, hy, hc, -⟩ := hold x hx
      rw [← hc]
      exact h.hops y hy
  · exact h

theorem Inv.originate (h : Inv g s) {networkCode : String}
    {source : Ipv4Addr} {data : Bytes} {fromWireguard : Bool} {requestId : String} (hw : Within g s
      (.originate info v networkCode source data fromWireguard requestId now)) :
    Inv g (s.broadcastWireguard g info v networkCode source data fromWireguard requestId now) := by
  unfold broadcastWireguard
  split
  · exact h
  · obtain ⟨hlen, hnew⟩ := hw
    have hmono : ∀ x k, ((s.seen x).lookup k).isSome →
        ((Function.update s.seen v
          (markBroadcastSeen (s.seen v) (originId g v requestId) now).1 x).lookup k).isSome := by
      intro x k hk
      by_cases hx : x = v
      · subst hx
        rw [Function.update_self]
        exact (isSome_lookup_mark hlen).mpr (.inr hk)
      · rwa [Function.update_of_ne hx]
    refine (h.withSeen hmono).pass (fun t ht e => ?_) ?_ (fun c hc => ?_) (fun c hc d hd => by cases hd)
    · obtain ⟨p, hp, hid⟩ := h.originTask t ht
      exact hnew p hp (hid.trans (Prod.mk.inj e).2.symm)
    · simp only [Function.update_self]
      exact (isSome_lookup_mark hlen).mpr (.inl rfl)
    · obtain ⟨hb, hv, -⟩ := mem_copies hc
      rw [hb]
      exact ⟨rfl, hv⟩

theorem Inv.apply (h : Inv g s) (op : FloodOp V L) (hw : Within g s op) (ha : Apart g s op) :
    Inv g (s.apply g op) := by
  cases op with
  | originate => exact h.originate hw
  | receive => exact h.receive hw ha
  | insertSeen t => exact h.insertSeen t
  | finish info t => exact h.finish info t
  | lose c => exact { h with originFlight := fun x hx => h.originFlight x (List.mem_of_mem_erase hx) }

theorem inv_of_reachWith (h : (floodSys g).ReachWith (Orderly g) s) : Inv g s := by
  refine Sys.ReachWith.invariant (fun s hs => ?_) (fun s op s' hi hc hst => ?_) h
  · obtain rfl := hs
    exact inv_initial
  · obtain rfl := hst
    exact hi.apply op hc.1 hc.2

/-- A pass is a pass of the abstract flood, and the other steps are not seen there. -/
theorem view_apply (h : Inv g s) (op : FloodOp V L) (hw : Within g s op) :
    (s.apply g op).view = s.view ∨ ∃ a, (Flood.sys g.src).step s.view a (s.apply g op).view := by
  cases op with
  | originate info v networkCode source data fromWireguard requestId now =>
    simp only [FloodState.apply, broadcastWireguard]
    split
    · exact .inl rfl
    · refine .inr ⟨(v, originId g v requestId, _), fun hm => ?_, map_link_copies.1,
        map_link_copies.2, view_pass fun c hc => by rw [(mem_copies hc).1]⟩
      obtain ⟨p, hp, e⟩ := List.mem_map.mp hm
      exact hw.2 p hp (Prod.mk.inj e).2
  | receive info c now =>
    refine .inl ?_
    simp only [FloodState.apply, receive]
    split
    · split
      · split <;> rfl
      · rfl
    · rfl
  | insertSeen t =>
    refine .inl ?_
    simp only [FloodState.apply, FloodState.insertSeen]
    split <;> rfl
  | finish info t =>
    simp only [FloodState.apply, FloodState.finish]
    split
    · rename_i ht
      refine .inr ⟨(g.dst t.copy.link, t.copy.broadcast.broadcastId, _), fun hm => ?_, ?_, ?_,
        view_pass fun c hc => ?_⟩
      · obtain ⟨p, hp, e⟩ := List.mem_map.mp hm
        exact h.fresh t ht.1 p hp e
      · split
        · exact map_link_copies.1
        · exact List.nodup_nil
      · split
        · exact map_link_copies.2
        · exact nofun
      · split at hc
        · rw [(mem_copies hc).1]
        · cases hc
    · exact .inl rfl
  | lose c => exact .inl rfl

theorem view_reach (h : (floodSys g).ReachWith (Orderly g) s) : (Flood.sys g.src).Reach s.view := by
  refine h.simulate view (fun s hs => inv_of_reachWith hs) (fun s hs => ?_)
    fun s op s' hi hc hst => ?_
  · obtain rfl := hs
    rfl
  · obtain rfl := hst
    exact view_apply hi op hc.1

/-- **Broadcasts are passed on at most once.** In every run within the limits whose lookups are
apart: a server relays a broadcast at most once; its origin does not relay it and sends no copy
again; a copy that is passed on has fewer hops left and does not go back over its link; and the
copies of a broadcast are at most as many as the directed links. -/
theorem flood_once [Fintype L] (g : PeerGraph V L) (s : FloodState V L)
    (h : (floodSys g).ReachWith (Orderly g) s) :
    (∀ v b, s.relays v b ≤ 1) ∧
    (∀ v b, ⟨v, b, none⟩ ∈ s.passes → s.relays v b = 0 ∧
      ∀ e ∈ s.sent, e.copy.broadcast.broadcastId = b → g.src e.copy.link = v → e.cause = none) ∧
    (∀ e ∈ s.sent, ∀ c, e.cause = some c →
      e.copy.broadcast.hopsRemaining < c.broadcast.hopsRemaining ∧
        e.copy.link ≠ g.rev c.link) ∧
    ∀ b, s.messages b ≤ Fintype.card L := by
  have hi := inv_of_reachWith h
  have hf := Flood.inv_of_reach (view_reach h)
  refine ⟨relays_le_one hf, fun v b ho => ⟨?_, fun e he hb hv => ?_⟩, fun e he c hc => ?_,
    messages_le_card hf⟩
  · refine List.countP_eq_zero.mpr fun p hp hc => ?_
    rw [decide_eq_true_eq] at hc
    obtain ⟨hs, hb, hcause⟩ := hc
    rw [pass_unique hf hp ho hs hb] at hcause
    cases hcause
  · cases hc : e.cause with
    | none => rfl
    | some c =>
      obtain ⟨-, -, hp⟩ := hi.causes e he c hc
      cases pass_unique hf hp ho hv hb
  · obtain ⟨hlt, hne, -⟩ := hi.causes e he c hc
    exact ⟨hlt, hne⟩

/-! ## Three servers -/

/-- Three servers, each connected to the other two: links 0 and 1 are the ends between the servers 0
and 1, links 2 and 3 between 0 and 2, links 4 and 5 between 1 and 2. -/
def triangle : PeerGraph (Fin 3) (Fin 6) where
  serverId v := ["server-a", "server-b", "server-c"].get v
  src l := [0, 1, 0, 2, 1, 2].get l
  rev l := [1, 0, 3, 2, 5, 4].get l
  peers v := [[0, 2], [1, 4], [3, 5]].get v
  nodup := by decide
  src_of_mem := by decide

def allLinks : LinkInfo (Fin 6) where
  connected _ := true
  remoteCapabilities _ := 4
  remoteServerId l := some (triangle.serverId (triangle.dst l))
  addr _ := ""
  canSend _ := true

/-- An IPv4 packet from `10.26.0.2` to everybody. -/
def helloData : Bytes := [0x45, 0, 0, 20, 0, 0, 0, 0, 64, 17, 0, 0, 10, 26, 0, 2, 255, 255, 255, 255]

/-- The broadcast of server 0, after `8 - hops` passes. -/
def hello (hops : Nat) : ServerBroadcastData :=
  ⟨"home", helloData, Ipv4Addr.new 10 26 0 2, "server-a:1", "server-a", hops, true⟩

/-- Server 0 originates the broadcast, and server 1 passes its copy on to server 2. -/
def helloOps : List (FloodOp (Fin 3) (Fin 6)) :=
  [.originate allLinks 0 "home" (Ipv4Addr.new 10 26 0 2) helloData true "1" 0,
    .receive allLinks ⟨0, hello 8⟩ 1, .insertSeen ⟨⟨0, hello 8⟩, 1, false⟩,
    .finish allLinks ⟨⟨0, hello 8⟩, 1, true⟩]

/-- Server 2 handles its two copies one after the other. -/
def orderlyOps : List (FloodOp (Fin 3) (Fin 6)) :=
  helloOps ++
    [.receive allLinks ⟨2, hello 8⟩ 2, .insertSeen ⟨⟨2, hello 8⟩, 2, false⟩,
      .receive allLinks ⟨4, hello 7⟩ 3, .finish allLinks ⟨⟨2, hello 8⟩, 2, true⟩]

theorem flood_once_triangle :
    ∃ s, (floodSys triangle).ReachWith (Orderly triangle) s ∧ s.messages "server-a:1" = 4 ∧
      s.relays 2 "server-a:1" = 1 ∧ (∀ v b, s.relays v b ≤ 1) ∧ ∀ b, s.messages b ≤ 6 := by
  have hr : (floodSys triangle).ReachWith (Orderly triangle)
      (orderlyOps.foldl (apply triangle) initial) :=
    (Sys.ReachWith.init rfl).foldl (by decide)
  obtain ⟨hrel, -, -, hmsg⟩ := flood_once triangle _ hr
  exact ⟨_, hr, by decide, by decide, hrel, hmsg⟩

/-- Server 2 looks both copies up before it enters the id, and relays the broadcast twice. -/
theorem flood_twice :
    ∃ s, (floodSys triangle).ReachWith (Within triangle) s ∧ s.relays 2 "server-a:1" = 2 := by
  let raceOps := helloOps ++
    [.receive allLinks ⟨2, hello 8⟩ 2, .receive allLinks ⟨4, hello 7⟩ 2,
      .insertSeen ⟨⟨2, hello 8⟩, 2, false⟩, .insertSeen ⟨⟨4, hello 7⟩, 2, false⟩,
      .finish allLinks ⟨⟨2, hello 8⟩, 2, true⟩, .finish allLinks ⟨⟨4, hello 7⟩, 2, true⟩]
  have hr : (floodSys triangle).ReachWith (Within triangle)
      (raceOps.foldl (apply triangle) initial) :=
    (Sys.ReachWith.init rfl).foldl (by decide)
  exact ⟨_, hr, by decide⟩

end FloodState

end Vntc
