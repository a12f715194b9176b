import Vntc.Server.Peer.Flood

/-!
# How far a broadcast gets

A server takes up the first copy of a broadcast that arrives and drops the others, whatever hops they
have left. So a copy that came a long way can use up the hops of a server that is near, and the
servers behind it get nothing.
-/

namespace Vntc

open Lib

namespace PeerGraph

variable {V L : Type} (g : PeerGraph V L)

/-- Both ends of a connection are links. -/
structure TwoWay : Prop where
  rev_mem : ∀ v, ∀ l ∈ g.peers v, g.rev l ∈ g.peers (g.dst l)
  rev_rev : ∀ v, ∀ l ∈ g.peers v, g.rev (g.rev l) = l

/-- The servers, with an edge between those that have a connection. -/
def graph : SimpleGraph V := .fromRel fun u v => ∃ l ∈ g.peers u, g.dst l = v

variable {g}

theorem TwoWay.exists_link (h : g.TwoWay) {u v : V} (hadj : g.graph.Adj u v) :
    ∃ l ∈ g.peers u, g.dst l = v := by
  obtain ⟨-, hl | ⟨l, hl, hd⟩⟩ := hadj
  · exact hl
  · refine ⟨g.rev l, hd ▸ h.rev_mem v l hl, ?_⟩
    rw [dst, h.rev_rev v l hl]
    exact g.src_of_mem v l hl

end PeerGraph

namespace LinkInfo

variable {V L : Type} [DecidableEq L] (g : PeerGraph V L) (info : LinkInfo L)

/-- All links are up, to servers that take part, and take datagrams. -/
structure Ideal : Prop where
  connected : ∀ l, info.connected l = true
  broadcasts : ∀ l, info.broadcasts l = true
  canSend : ∀ l, info.canSend l = true

/-- A remote id stands for one server. -/
def Identifies : Prop := ∀ l l', info.remoteId l = info.remoteId l' → g.dst l = g.dst l'

variable {info}

/-- The loop sends a copy to every server whose id it does not know yet. -/
theorem Ideal.exists_target (h : info.Ideal) {incoming : Option L} {remoteIds : List String}
    {ls : List L} {l : L} (hl : l ∈ ls) (hin : incoming ≠ some l) (hid : info.remoteId l ∉ remoteIds) :
    ∃ l' ∈ info.targets incoming remoteIds ls, info.remoteId l' = info.remoteId l := by
  induction ls generalizing remoteIds with
  | nil => cases hl
  | cons x ls ih =>
    simp only [targets, h.connected, h.broadcasts, h.canSend, Bool.not_true, Bool.false_or,
      beq_iff_eq, if_true]
    by_cases hx : incoming = some x
    · rw [if_pos hx]
      refine ih ((List.mem_cons.mp hl).resolve_left ?_) hid
      rintro rfl
      exact hin hx
    · rw [if_neg hx]
      by_cases hm : info.remoteId x ∈ remoteIds
      · rw [if_pos hm]
        refine ih ((List.mem_cons.mp hl).resolve_left ?_) hid
        rintro rfl
        exact hid hm
      · rw [if_neg hm]
        by_cases he : info.remoteId x = info.remoteId l
        · exact ⟨x, List.mem_cons_self, he⟩
        · have hls : l ∈ ls := (List.mem_cons.mp hl).resolve_left fun e => he (e ▸ rfl)
          have hnew : info.remoteId l ∉ info.remoteId x :: remoteIds := by simp [hid, Ne.symm he]
          obtain ⟨l', hl', hr⟩ := ih hls hnew
          exact ⟨l', List.mem_cons_of_mem _ hl', hr⟩

end LinkInfo

/-- Every server accepts a copy of the broadcast. -/
structure ServerBroadcastData.WellFormed (b : ServerBroadcastData) : Prop where
  networkCode : b.networkCode ≠ ""
  broadcastId : b.broadcastId ≠ ""
  size : b.broadcastId.utf8ByteSize ≤ 128
  data : b.data.length ≤ maxInnerIpv4PacketSize

namespace FloodState

variable {V L : Type} (g : PeerGraph V L) (s : FloodState V L)

/-- How often a server relayed a broadcast to its own endpoints, as its origin or for a copy. -/
def deliveries [DecidableEq V] (v : V) (broadcastId : String) : Nat :=
  s.passes.countP fun p => p.server = v ∧ p.broadcastId = broadcastId

/-- Nothing is on its way, and no copy is being handled. -/
def Complete : Prop := s.inFlight = [] ∧ s.tasks = []

/-- No copy is lost, and all servers take part. -/
def Ideal : FloodOp V L → Prop
  | .originate info .. | .receive info .. | .finish info _ => info.Ideal
  | .insertSeen _ => True
  | .lose _ => False

/-- The server has the broadcast from its origin `o`, or first gets it over a shortest way; the
copies that are sent find their servers and are accepted there. -/
def Shortest : FloodOp V L → Prop
  | .originate info v networkCode _ _ _ requestId _ =>
    info.Identifies g ∧ networkCode ≠ "" ∧ (originId g v requestId).utf8ByteSize ≤ 128
  | .receive _ c _ => ∀ o ∈ s.passes, o.cause = none → o.broadcastId = c.broadcast.broadcastId →
      (s.seen (g.dst c.link)).lookup c.broadcast.broadcastId = none →
        g.graph.dist o.server (g.dst c.link) + c.broadcast.hopsRemaining = broadcastHopLimit + 1
  | .finish info _ => info.Identifies g
  | _ => True

/-- What a run has to meet for the coverage. -/
structure Covers [DecidableEq V] [DecidableEq L] (op : FloodOp V L) : Prop where
  ideal : Ideal op
  orderly : Orderly g s op
  shortest : s.Shortest g op

/-! ## The invariant -/

/-- A copy is on its way or is being handled. -/
def Moving (c : Copy L) : Prop := c ∈ s.inFlight ∨ ∃ t ∈ s.tasks, t.copy = c

/-- The server handles the broadcast, or has passed it on. -/
def Known (v : V) (b : String) : Prop :=
  (∃ t ∈ s.tasks, key g t = (v, b)) ∨ ∃ p ∈ s.passes, p.server = v ∧ p.broadcastId = b

/-- The server knows the broadcast, or will get a copy. -/
def Reached (v : V) (b : String) : Prop :=
  s.Known g v b ∨ ∃ c ∈ s.inFlight, g.dst c.link = v ∧ c.broadcast.broadcastId = b

/-- The hops that a copy has left, and the way of the server that got it, make up the limit. -/
def Nearest (v : V) (c : Copy L) (b : String) : Prop :=
  ∀ o ∈ s.passes, o.cause = none → o.broadcastId = b →
    g.graph.dist o.server v + c.broadcast.hopsRemaining = broadcastHopLimit + 1

structure Spread : Prop where
  wellFormed : ∀ c, s.Moving c → c.broadcast.WellFormed
  /-- A copy comes over a link of a server that has passed the broadcast on. -/
  sender : ∀ c, s.Moving c → c.link ∈ g.peers (g.src c.link) ∧
    ∃ p ∈ s.passes, p.server = g.src c.link ∧ p.broadcastId = c.broadcast.broadcastId
  hops : ∀ c ∈ s.inFlight, 0 < c.broadcast.hopsRemaining ∧
    c.broadcast.hopsRemaining ≤ broadcastHopLimit
  hopsTask : ∀ t ∈ s.tasks, t.copy.broadcast.hopsRemaining ≤ broadcastHopLimit
  seen : ∀ v b, ((s.seen v).lookup b).isSome → s.Known g v b
  task : ∀ t ∈ s.tasks, s.Nearest g (g.dst t.copy.link) t.copy t.copy.broadcast.broadcastId
  pass : ∀ p ∈ s.passes, ∀ c, p.cause = some c → s.Nearest g p.server c p.broadcastId
  /-- A pass with hops left reaches all neighbours. -/
  neighbours : ∀ p ∈ s.passes, (∀ c, p.cause = some c → 1 < c.broadcast.hopsRemaining) →
    ∀ l ∈ g.peers p.server, s.Reached g (g.dst l) p.broadcastId

variable {g s}

theorem spread_initial : (initial : FloodState V L).Spread g where
  wellFormed := by simp [Moving, initial]
  sender := by simp [Moving, initial]
  hops := nofun
  hopsTask := nofun
  seen v b h := by simp [initial] at h
  task := nofun
  pass := nofun
  neighbours := nofun

variable {b : String} {v : V} {info : LinkInfo L} {now : Nat}

/-- A copy that has arrived is not needed any more where its broadcast is known. -/
theorem Reached.of_known {s' : FloodState V L} (h : s.Reached g v b)
    (hk : ∀ v b, s.Known g v b → s'.Known g v b)
    (hf : ∀ c ∈ s.inFlight, s'.Reached g (g.dst c.link) c.broadcast.broadcastId) :
    s'.Reached g v b := by
  rcases h with h | ⟨c, hc, rfl, rfl⟩
  · exact .inl (hk v b h)
  · exact hf c hc

variable {l : L} {c : Copy L} {broadcast : ServerBroadcastData} {incoming : Option L}

theorem accepts_of_wellFormed (hi : info.Ideal)
    {b : ServerBroadcastData} (hb : b.WellFormed) (hpos : 0 < b.hopsRemaining)
    (hle : b.hopsRemaining ≤ broadcastHopLimit) : accepts info l b = true := by
  have hne : b.hopsRemaining ≠ 0 := by omega
  simp [accepts, hi.broadcasts, hb.networkCode, hb.broadcastId, hb.size, hb.data, hne, hle]

theorem originId_ne (v : V) (requestId : String) : originId g v requestId ≠ "" := by
  intro h
  have := congrArg String.length h
  simp [originId] at this

/-- What a complete run has reached was passed on. -/
theorem Complete.passed_of_reached (hd : s.Complete) (h : s.Reached g v b) :
    ∃ p ∈ s.passes, p.server = v ∧ p.broadcastId = b := by
  rcases h with (⟨t, ht, -⟩ | hp) | ⟨c, hc, -⟩
  · rw [hd.2] at ht
    cases ht
  · exact hp
  · rw [hd.1] at hc
    cases hc

/-- The servers up to the hop limit, by the distance from the origin. -/
theorem Spread.passed (h : s.Spread g) (hg : g.TwoWay) (hconn : g.graph.Connected)
    (hd : s.Complete) {o : Pass V L} (ho : o ∈ s.passes) (hn : o.cause = none)
    (hv : g.graph.dist o.server v ≤ broadcastHopLimit) :
    ∃ p ∈ s.passes, p.server = v ∧ p.broadcastId = o.broadcastId := by
  refine Flood.reached_of_dist_le
    (fun v => ∃ p ∈ s.passes, p.server = v ∧ p.broadcastId = o.broadcastId) hconn
    ⟨o, ho, rfl, rfl⟩ (fun u w hu hadj hdist => ?_) hv
  obtain ⟨p, hp, rfl, hb⟩ := hu
  obtain ⟨l, hl, rfl⟩ := hg.exists_link hadj
  refine hb ▸ hd.passed_of_reached (h.neighbours p hp (fun c hc => ?_) l hl)
  have := h.pass p hp c hc o ho hn hb.symm
  omega

theorem deliveries_eq_one [DecidableEq V] (hf : Flood.Inv g.src s.view)
    (h : ∃ p ∈ s.passes, p.server = v ∧ p.broadcastId = b) : s.deliveries v b = 1 := by
  have hcount : s.deliveries v b = s.view.passed.count (v, b) := by
    rw [List.count_eq_countP, view, List.countP_map]
    exact List.countP_congr fun p _ => by simp
  obtain ⟨p, hp, rfl, rfl⟩ := h
  rw [hcount]
  exact List.count_eq_one_of_mem hf.passed (List.mem_map.mpr ⟨p, hp, rfl⟩)

/-- A pass of `v`: the copies go out over its links, and its own handler has ended. -/
theorem Spread.passOn (h : s.Spread g) {cause : Option (Copy L)}
    {cs : List (Copy L)} {seen : V → BroadcastSeen} {tasks : List (Task L)}
    (htasks : ∀ x ∈ tasks, x ∈ s.tasks) (hdone : ∀ x ∈ s.tasks, x ∈ tasks ∨ key g x = (v, b))
    (hseen : ∀ w k, ((seen w).lookup k).isSome → (w = v ∧ k = b) ∨ ((s.seen w).lookup k).isSome)
    (hcs : ∀ c ∈ cs, c.broadcast.broadcastId = b ∧ c.broadcast.WellFormed ∧
      c.link ∈ g.peers v ∧ 0 < c.broadcast.hopsRemaining ∧
        c.broadcast.hopsRemaining ≤ broadcastHopLimit)
    (hnear : ∀ c, cause = some c → s.Nearest g v c b)
    (hfresh : cause = none → (∀ t ∈ s.tasks, t.copy.broadcast.broadcastId ≠ b) ∧
      ∀ p ∈ s.passes, p.broadcastId ≠ b)
    (hnb : (∀ c, cause = some c → 1 < c.broadcast.hopsRemaining) → ∀ l ∈ g.peers v,
      (∃ c ∈ cs, g.dst c.link = g.dst l) ∨ s.Known g (g.dst l) b) :
    (({ s with seen, tasks } : FloodState V L).pass v b cause cs).Spread g := by
  have hpassed : ∀ {w : V} {k : String}, (∃ p ∈ s.passes, p.server = w ∧ p.broadcastId = k) →
      ∃ p ∈ (⟨v, b, cause⟩ : Pass V L) :: s.passes, p.server = w ∧ p.broadcastId = k :=
    fun ⟨p, hp, hh⟩ => ⟨p, List.mem_cons_of_mem _ hp, hh⟩
  have hself : ∃ p ∈ (⟨v, b, cause⟩ : Pass V L) :: s.passes, p.server = v ∧ p.broadcastId = b :=
    ⟨_, List.mem_cons_self, rfl, rfl⟩
  have hkn : ∀ w k, s.Known g w k →
      (({ s with seen, tasks } : FloodState V L).pass v b cause cs).Known g w k := by
    rintro w k (⟨t, ht, hk⟩ | hp)
    · rcases hdone t ht with hm | he
      · exact .inl ⟨t, hm, hk⟩
      · obtain ⟨rfl, rfl⟩ := Prod.mk.inj (he.symm.trans hk)
        exact .inr hself
    · exact .inr (hpassed hp)
  have hmov : ∀ c, (({ s with seen, tasks } : FloodState V L).pass v b cause cs).Moving c →
      c ∈ cs ∨ s.Moving c := by
    rintro c (hc | ⟨t, ht, rfl⟩)
    · exact (List.mem_append.mp hc).imp id .inl
    · exact .inr (.inr ⟨t, htasks t ht, rfl⟩)
  -- The new pass is an origin only of a new broadcast.
  have hnear' : ∀ {w : V} {c : Copy L} {k : String}, (cause = none → k ≠ b) → s.Nearest g w c k →
      (({ s with seen, tasks } : FloodState V L).pass v b cause cs).Nearest g w c k := by
    intro w c k hk hn o ho hc hb
    rcases List.mem_cons.mp ho with rfl | ho
    · exact absurd hb.symm (hk hc)
    · exact hn o ho hc hb
  refine ⟨fun c hc => ?_, fun c hc => ?_, fun c hc => ?_, fun t ht => h.hopsTask t (htasks t ht),
    fun w k hs => ?_, fun t ht => ?_, fun p hp c hc => ?_, fun p hp hh l hl => ?_⟩
  · rcases hmov c hc with hc | hc
    · exact (hcs c hc).2.1
    · exact h.wellFormed c hc
  · rcases hmov c hc with hc | hc
    · obtain ⟨hb, -, hl, -⟩ := hcs c hc
      rw [g.src_of_mem v c.link hl, hb]
      exact ⟨hl, hself⟩
    · exact ⟨(h.sender c hc).1, hpassed (h.sender c hc).2⟩
  · rcases List.mem_append.mp hc with hc | hc
    · exact (hcs c hc).2.2.2
    · exact h.hops c hc
  · rcases hseen w k hs with ⟨rfl, rfl⟩ | hs
    · exact .inr hself
    · exact hkn w k (h.seen w k hs)
  · exact hnear' (fun hn => (hfresh hn).1 t (htasks t ht)) (h.task t (htasks t ht))
  · rcases List.mem_cons.mp hp with rfl | hp
    · exact hnear' (fun hn => by rw [hn] at hc; cases hc) (hnear c hc)
    · exact hnear' (fun hn => (hfresh hn).2 p hp) (h.pass p hp c hc)
  · rcases List.mem_cons.mp hp with rfl | hp
    · rcases hnb hh l hl with ⟨c, hc, hd⟩ | hk
      · exact .inr ⟨c, List.mem_append_left _ hc, hd, (hcs c hc).1⟩
      · exact .inl (hkn _ _ hk)
    · exact (h.neighbours p hp hh l hl).of_known hkn fun c hc =>
        .inr ⟨c, List.mem_append_right _ hc, rfl, rfl⟩

variable [DecidableEq L]

/-- All neighbours but the one over the incoming link get a copy. -/
theorem exists_copy (hi : info.Ideal) (hid : info.Identifies g) (hl : l ∈ g.peers v)
    (hin : incoming ≠ some l) : ∃ c ∈ copies g info v incoming broadcast, g.dst c.link = g.dst l := by
  obtain ⟨l', hl', hr⟩ := hi.exists_target hl hin (List.not_mem_nil)
  exact ⟨⟨l', broadcast⟩, List.mem_map.mpr ⟨l', hl', rfl⟩, hid l' l hr⟩

theorem link_mem_of_copies (hc : c ∈ copies g info v incoming broadcast) : c.link ∈ g.peers v := by
  obtain ⟨l, hl, rfl⟩ := List.mem_map.mp hc
  exact (info.targets_sublist _ _ _).subset hl

variable [DecidableEq V]

/-- The server of the copy knows its broadcast after the lookup, and no other server does. -/
theorem Spread.receive (h : s.Spread g)
    (hc : s.Covers g (.receive info c now)) : (s.receive g info c now).Spread g := by
  obtain ⟨hideal, ⟨hw, -⟩, hshort⟩ := hc
  unfold FloodState.receive
  by_cases hin : c ∈ s.inFlight
  swap
  · rw [if_neg hin]
    exact h
  obtain ⟨hpos, hle⟩ := h.hops c hin
  have herase : ∀ x ∈ s.inFlight.erase c, x ∈ s.inFlight := fun x => List.mem_of_mem_erase
  have hacc := accepts_of_wellFormed (l := g.rev c.link) hideal (h.wellFormed c (.inl hin)) hpos hle
  rw [if_pos hin]
  simp only [hacc, if_true]
  rw [lookupSeen_within hw.1 hw.2]
  have hupd : Function.update s.seen (g.dst c.link) (s.seen (g.dst c.link)) = s.seen :=
    Function.update_eq_self _ _
  -- A copy other than `c` is still on its way.
  have hrest : ∀ x ∈ s.inFlight, x ≠ c → x ∈ s.inFlight.erase c := fun x hx hne =>
    (List.mem_erase_of_ne hne).mpr hx
  cases hl : (s.seen (g.dst c.link)).lookup c.broadcast.broadcastId with
  | some t =>
    simp only [Option.isSome_some, if_true, hupd]
    have hknown := h.seen _ _ (by rw [hl]; rfl)
    have hmov : ∀ x, ({ s with inFlight := s.inFlight.erase c } : FloodState V L).Moving x →
        s.Moving x := fun x hx => hx.imp (herase x) id
    refine ⟨fun x hx => h.wellFormed x (hmov x hx), fun x hx => h.sender x (hmov x hx),
      fun x hx => h.hops x (herase x hx), h.hopsTask, h.seen, h.task, h.pass,
      fun p hp hh l hm => (h.neighbours p hp hh l hm).of_known (fun _ _ => id) fun x hx => ?_⟩
    by_cases hxc : x = c
    · rw [hxc]
      exact .inl hknown
    · exact .inr ⟨x, hrest x hx hxc, rfl, rfl⟩
  | none =>
    simp only [Option.isSome_none, Bool.false_eq_true, if_false, hupd]
    have hmov : ∀ x, (x ∈ s.inFlight.erase c ∨
        ∃ t ∈ (⟨c, now, false⟩ : Task L) :: s.tasks, t.copy = x) → s.Moving x := by
      rintro x (hx | ⟨t, ht, rfl⟩)
      · exact .inl (herase x hx)
      · rcases List.mem_cons.mp ht with rfl | ht
        · exact .inl hin
        · exact .inr ⟨t, ht, rfl⟩
    have hkn : ∀ v b, s.Known g v b → (∃ t ∈ (⟨c, now, false⟩ : Task L) :: s.tasks,
        key g t = (v, b)) ∨ ∃ p ∈ s.passes, p.server = v ∧ p.broadcastId = b :=
      fun v b hk => hk.imp (fun ⟨t, ht, hkey⟩ => ⟨t, List.mem_cons_of_mem _ ht, hkey⟩) id
    refine ⟨fun x hx => h.wellFormed x (hmov x hx), fun x hx => h.sender x (hmov x hx),
      fun x hx => h.hops x (herase x hx), ?_, fun v b hs => hkn v b (h.seen v b hs), ?_, h.pass,
      fun p hp hh l hm => (h.neighbours p hp hh l hm).of_known hkn fun x hx => ?_⟩
    · intro t ht
      rcases List.mem_cons.mp ht with rfl | ht
      · exact hle
      · exact h.hopsTask t ht
    · intro t ht
      rcases List.mem_cons.mp ht with rfl | ht
      · exact fun o ho hn hb => hshort o ho hn hb hl
      · exact h.task t ht
    · by_cases hxc : x = c
      · rw [hxc]
        exact .inl (.inl ⟨_, List.mem_cons_self, rfl⟩)
      · exact .inr ⟨x, hrest x hx hxc, rfl, rfl⟩

theorem Spread.insertSeen (h : s.Spread g) (t : Task L) : (s.insertSeen g t).Spread g := by
  unfold FloodState.insertSeen
  by_cases ht : t ∈ s.tasks ∧ t.entered = false
  swap
  · rw [if_neg ht]
    exact h
  rw [if_pos ht]
  -- The same copies are handled for the same keys.
  have hold : ∀ x ∈ ({ t with entered := true } : Task L) :: s.tasks.erase t,
      ∃ y ∈ s.tasks, y.copy = x.copy := by
    intro x hx
    rcases List.mem_cons.mp hx with rfl | hx
    · exact ⟨t, ht.1, rfl⟩
    · exact ⟨x, List.mem_of_mem_erase hx, rfl⟩
  have hnew : ∀ y ∈ s.tasks, ∃ x ∈ ({ t with entered := true } : Task L) :: s.tasks.erase t,
      key g x = key g y := by
    intro y hy
    by_cases hyt : y = t
    · exact ⟨_, List.mem_cons_self, by rw [hyt]; rfl⟩
    · exact ⟨y, List.mem_cons_of_mem _ ((List.mem_erase_of_ne hyt).mpr hy), rfl⟩
  have hmov : ∀ x, (x ∈ s.inFlight ∨
      ∃ y ∈ ({ t with entered := true } : Task L) :: s.tasks.erase t, y.copy = x) → s.Moving x := by
    rintro x (hx | ⟨y, hy, rfl⟩)
    · exact .inl hx
    · obtain ⟨z, hz, he⟩ := hold y hy
      exact .inr ⟨z, hz, he⟩
  have hkn : ∀ v b, s.Known g v b → (∃ x ∈ ({ t with entered := true } : Task L) :: s.tasks.erase t,
      key g x = (v, b)) ∨ ∃ p ∈ s.passes, p.server = v ∧ p.broadcastId = b := by
    rintro v b (⟨y, hy, hk⟩ | hp)
    · obtain ⟨x, hx, he⟩ := hnew y hy
      exact .inl ⟨x, hx, he.trans hk⟩
    · exact .inr hp
  refine ⟨fun x hx => h.wellFormed x (hmov x hx), fun x hx => h.sender x (hmov x hx), h.hops, ?_, ?_,
    ?_, h.pass, fun p hp hh l hm => (h.neighbours p hp hh l hm).of_known hkn fun x hx =>
      .inr ⟨x, hx, rfl, rfl⟩⟩
  · intro x hx
    obtain ⟨y, hy, he⟩ := hold x hx
    exact he ▸ h.hopsTask y hy
  · intro v b hs
    simp only [Function.update_apply] at hs
    split at hs
    · rename_i hv
      subst hv
      rw [HashMap.lookup_insert_if] at hs
      split at hs
      · rename_i hb
        subst hb
        exact .inl ⟨_, List.mem_cons_self, rfl⟩
      · exact hkn _ b (h.seen _ b hs)
    · exact hkn v b (h.seen v b hs)
  · intro x hx
    obtain ⟨y, hy, he⟩ := hold x hx
    exact he ▸ h.task y hy

theorem Spread.finish (h : s.Spread g) (hg : g.TwoWay) {t : Task L}
    (hc : s.Covers g (.finish info t)) : (s.finish g info t).Spread g := by
  obtain ⟨hideal, -, hid⟩ := hc
  unfold FloodState.finish
  by_cases ht : t ∈ s.tasks ∧ t.entered = true
  swap
  · rw [if_neg ht]
    exact h
  rw [if_pos ht]
  obtain ⟨ht, -⟩ := ht
  have hmov : s.Moving t.copy := .inr ⟨t, ht, rfl⟩
  obtain ⟨hlink, hsender⟩ := h.sender _ hmov
  refine h.passOn (fun x => List.mem_of_mem_erase) (fun x hx => ?_) (fun w k => .inr) (fun c hc => ?_)
    (fun c hc => ?_) nofun fun hh l hl => ?_
  · by_cases hxt : x = t
    · exact .inr (by rw [hxt]; rfl)
    · exact .inl ((List.mem_erase_of_ne hxt).mpr hx)
  · split at hc
    · rename_i hpos
      have hle := h.hopsTask t ht
      have hwf := h.wellFormed _ hmov
      have hb := (mem_copies hc).1
      rw [hb]
      exact ⟨rfl, ⟨hwf.1, hwf.2, hwf.3, hwf.4⟩, link_mem_of_copies hc, hpos, by
        show t.copy.broadcast.hopsRemaining - 1 ≤ broadcastHopLimit
        omega⟩
    · cases hc
  · cases hc
    exact h.task t ht
  · have hpos : 0 < t.copy.broadcast.hopsRemaining - 1 := by
      have := hh _ rfl
      omega
    rw [if_pos hpos]
    by_cases hrev : l = g.rev t.copy.link
    · refine .inr (.inr ?_)
      rw [hrev, PeerGraph.dst, hg.rev_rev _ _ hlink]
      exact hsender
    · exact .inl (exists_copy hideal hid hl fun e => hrev (Option.some.inj e).symm)

theorem Spread.originate (h : s.Spread g) (hi : Inv g s)
    {networkCode : String} {source : Ipv4Addr} {data : Bytes} {fromWireguard : Bool}
    {requestId : String}
    (hc : s.Covers g (.originate info v networkCode source data fromWireguard requestId now)) :
    (s.broadcastWireguard g info v networkCode source data fromWireguard requestId now).Spread g := by
  obtain ⟨hideal, ⟨⟨hlen, hnew⟩, -⟩, hid, hcode, hsize⟩ := hc
  unfold broadcastWireguard
  by_cases hdata : maxInnerIpv4PacketSize < data.length
  · rw [if_pos hdata]
    exact h
  rw [if_neg hdata]
  refine h.passOn (fun x => id) (fun x => .inl) (fun w k hs => ?_) (fun c hc => ?_) nofun
    (fun _ => ⟨fun t ht he => ?_, hnew⟩) fun _ l hl => .inl (exists_copy hideal hid hl nofun)
  · simp only [Function.update_apply] at hs
    by_cases hw : w = v
    · subst hw
      rw [if_pos rfl] at hs
      exact ((isSome_lookup_mark hlen).mp hs).imp (fun hk => ⟨rfl, hk⟩) id
    · rw [if_neg hw] at hs
      exact .inr hs
  · rw [(mem_copies hc).1]
    exact ⟨rfl, ⟨hcode, originId_ne v requestId, hsize, by simpa using hdata⟩, link_mem_of_copies hc,
      Nat.succ_pos _, Nat.le_refl _⟩
  · obtain ⟨p, hp, hb⟩ := hi.originTask t ht
    exact hnew p hp (hb.trans he)

theorem Spread.apply (h : s.Spread g) (hi : Inv g s) (hg : g.TwoWay) {op : FloodOp V L}
    (hc : s.Covers g op) : (s.apply g op).Spread g := by
  cases op with
  | originate => exact h.originate hi hc
  | receive => exact h.receive hc
  | insertSeen t => exact h.insertSeen t
  | finish => exact h.finish hg hc
  | lose c => exact hc.ideal.elim

theorem spread_of_reachWith (hg : g.TwoWay) (h : (floodSys g).ReachWith (fun s => s.Covers g) s) :
    Inv g s ∧ s.Spread g := by
  refine Sys.ReachWith.invariant (I := fun s => Inv g s ∧ s.Spread g) (fun s hs => ?_)
    (fun s op s' hi hc hst => ?_) h
  · obtain rfl := hs
    exact ⟨inv_initial, spread_initial⟩
  · obtain rfl := hst
    exact ⟨hi.1.apply op hc.orderly.1 hc.orderly.2, hi.2.apply hi.1 hg hc⟩

/-! ## Coverage -/

/-- **Coverage of a broadcast.** Let the servers form a connected graph, with both ends of every
connection known. In a run without losses in which the lookups are apart and every server first gets
a copy over a shortest way, when nothing is on its way any more, every server whose distance from the
origin is at most the hop limit has relayed the broadcast to its endpoints exactly once. -/
theorem delivered_once_of_shortest (g : PeerGraph V L) (hg : g.TwoWay) (hconn : g.graph.Connected)
    (s : FloodState V L) (h : (floodSys g).ReachWith (fun s => s.Covers g) s) (hd : s.Complete)
    (o : Pass V L) (ho : o ∈ s.passes) (hn : o.cause = none) (v : V)
    (hv : g.graph.dist o.server v ≤ broadcastHopLimit) : s.deliveries v o.broadcastId = 1 := by
  obtain ⟨-, hs⟩ := spread_of_reachWith hg h
  have hf := Flood.inv_of_reach (view_reach (h.mono fun s op hc => hc.orderly))
  exact deliveries_eq_one hf (hs.passed hg hconn hd ho hn hv)

/-! ## Three servers, again -/

theorem triangle_twoWay : triangle.TwoWay := ⟨by decide, by decide⟩

theorem triangle_adj {u v : Fin 3} (h : u ≠ v) : triangle.graph.Adj u v := by
  have hl : ∀ u v : Fin 3, u ≠ v → ∃ l ∈ triangle.peers u, triangle.dst l = v := by decide
  exact ⟨h, .inl (hl u v h)⟩

theorem triangle_connected : triangle.graph.Connected := by
  refine SimpleGraph.connected_iff_exists_forall_reachable _ |>.mpr ⟨0, fun v => ?_⟩
  by_cases hv : (0 : Fin 3) = v
  · rw [hv]
  · exact (triangle_adj hv).reachable

theorem allLinks_ideal : allLinks.Ideal := ⟨by decide, by decide, by decide⟩

theorem allLinks_identifies : allLinks.Identifies triangle := by
  unfold LinkInfo.Identifies
  decide

/-- In the triangle a copy of the origin itself has come over a shortest way. -/
theorem shortest_triangle {s : FloodState (Fin 3) (Fin 6)} {c : Copy (Fin 6)}
    (h : (s.seen (triangle.dst c.link)).lookup c.broadcast.broadcastId = none →
      c.broadcast.hopsRemaining = broadcastHopLimit ∧
        ∀ o ∈ s.passes, o.cause = none → o.server ≠ triangle.dst c.link) :
    s.Shortest triangle (.receive allLinks c now) := by
  intro o ho hn hb hl
  obtain ⟨hops, hne⟩ := h hl
  rw [SimpleGraph.dist_eq_one_iff_adj.mpr (triangle_adj (hne o ho hn)), hops]
  omega

/-- The last copy arrives, at server 1. -/
def coveringOps : List (FloodOp (Fin 3) (Fin 6)) :=
  orderlyOps ++ [.receive allLinks ⟨Fin.last 5, hello 7⟩ 4]

theorem covers_coveringOps :
    Sys.Meets (fun s => Covers triangle s) (apply triangle) initial coveringOps := by
  have ha := allLinks_ideal
  have hid := allLinks_identifies
  refine ⟨⟨ha, by decide, hid, by decide, by decide⟩,
    ⟨ha, by decide, shortest_triangle (by decide)⟩, ⟨trivial, by decide, trivial⟩,
    ⟨ha, by decide, hid⟩, ⟨ha, by decide, shortest_triangle (by decide)⟩,
    ⟨trivial, by decide, trivial⟩, ⟨ha, by decide, shortest_triangle (by decide)⟩,
    ⟨ha, by decide, hid⟩, ⟨ha, by decide, shortest_triangle (by decide)⟩, trivial⟩

theorem delivered_once_of_shortest_triangle :
    ∃ s, (floodSys triangle).ReachWith (fun s => s.Covers triangle) s ∧ s.Complete ∧
      s.deliveries 2 "server-a:1" = 1 := by
  have hr : (floodSys triangle).ReachWith (fun s => s.Covers triangle)
      (coveringOps.foldl (apply triangle) initial) :=
    (Sys.ReachWith.init rfl).foldl covers_coveringOps
  have hd : (coveringOps.foldl (apply triangle) initial).Complete := ⟨by decide, by decide⟩
  refine ⟨_, hr, hd, delivered_once_of_shortest triangle triangle_twoWay triangle_connected _ hr hd
    ⟨0, "server-a:1", none⟩ (by decide) rfl 2 ?_⟩
  rw [SimpleGraph.dist_eq_one_iff_adj.mpr (triangle_adj (by decide))]
  decide

/-! ## Ten servers -/

/-- Servers 0 to 8 in a ring, and server 9 with a connection to server 8. A connection has a number
and two ends. -/
def ringEnds : Fin 10 → Fin 10 × Fin 10
  | 8 => (8, 0)
  | 9 => (8, 9)
  | e => (e, e + 1)

def ringSrc (l : Fin 10 × Bool) : Fin 10 := if l.2 then (ringEnds l.1).2 else (ringEnds l.1).1

def ring : PeerGraph (Fin 10) (Fin 10 × Bool) where
  serverId v := ["s0", "s1", "s2", "s3", "s4", "s5", "s6", "s7", "s8", "s9"].get v
  src := ringSrc
  rev l := (l.1, !l.2)
  peers v := ((List.finRange 10).flatMap fun e => [(e, false), (e, true)]).filter (ringSrc · = v)
  nodup v := List.Nodup.filter _ (by decide)
  src_of_mem v l h := by simpa using (List.mem_filter.mp h).2

theorem ring_twoWay : ring.TwoWay := ⟨by decide, by decide⟩

theorem ring_adj {u v : Fin 10} (h : u ≠ v ∧ ∃ l ∈ ring.peers u, ring.dst l = v) :
    ring.graph.Adj u v := ⟨h.1, .inl h.2⟩

theorem ring_connected : ring.graph.Connected := by
  refine SimpleGraph.connected_iff_exists_forall_reachable _ |>.mpr ⟨0, fun v => ?_⟩
  have hstep : ∀ i : Fin 9, i.castSucc ≠ i.succ ∧
      ∃ l ∈ ring.peers i.castSucc, ring.dst l = i.succ := by decide
  induction v using Fin.induction with
  | zero => exact .refl 0
  | succ i ih => exact ih.trans (ring_adj (hstep i)).reachable

def ringLinks : LinkInfo (Fin 10 × Bool) where
  connected _ := true
  remoteCapabilities _ := 4
  remoteServerId l := some (ring.serverId (ring.dst l))
  addr _ := ""
  canSend _ := true

/-- The broadcast of server 0. -/
def ringHello (hops : Nat) : ServerBroadcastData :=
  ⟨"home", helloData, Ipv4Addr.new 10 26 0 2, "s0:1", "s0", hops, true⟩

/-- A copy arrives at a server that does not know it, and is handled to the end. -/
def handled (c : Copy (Fin 10 × Bool)) : List (FloodOp (Fin 10) (Fin 10 × Bool)) :=
  [.receive ringLinks c 0, .insertSeen ⟨c, 0, false⟩, .finish ringLinks ⟨c, 0, true⟩]

/-- The copy over servers 1 to 7 gets to server 8 before the one over its own link to the origin. -/
def longWayOps : List (FloodOp (Fin 10) (Fin 10 × Bool)) :=
  [.originate ringLinks 0 "home" (Ipv4Addr.new 10 26 0 2) helloData true "1" 0] ++
    ([0, 1, 2, 3, 4, 5, 6, 7].flatMap fun e => handled ⟨(Fin.ofNat 10 e, false), ringHello (8 - e)⟩) ++
    [.receive ringLinks ⟨(8, true), ringHello 8⟩ 0]

theorem ideal_longWayOps : ∀ op ∈ longWayOps, Ideal op := by
  have hall : ringLinks.Ideal := ⟨by decide, by decide, by decide⟩
  simp [longWayOps, handled, Ideal, hall]

theorem ring_dist : ring.graph.dist 0 9 ≤ 2 := by
  have h08 : ring.graph.Adj 0 8 := ring_adj (by decide)
  have h89 : ring.graph.Adj 8 9 := ring_adj (by decide)
  exact SimpleGraph.dist_le (.cons h08 (.cons h89 .nil))

/-- Server 9 is two hops away from the origin and gets no copy: the hops of server 8 were used up by
the copy that had come the long way. -/
theorem server_not_reached :
    ring.TwoWay ∧ ring.graph.Connected ∧
      ∃ s, (floodSys ring).ReachWith (fun s op => Ideal op ∧ Orderly ring s op) s ∧ s.Complete ∧
        ⟨0, "s0:1", none⟩ ∈ s.passes ∧ ring.graph.dist 0 9 ≤ broadcastHopLimit ∧
        s.deliveries 9 "s0:1" = 0 := by
  have hm : Sys.Meets (Orderly ring) (apply ring) initial longWayOps := by decide
  have hr : (floodSys ring).ReachWith (fun s op => Ideal op ∧ Orderly ring s op)
      (longWayOps.foldl (apply ring) initial) :=
    (Sys.ReachWith.init rfl).foldl (hm.and_left ideal_longWayOps)
  exact ⟨ring_twoWay, ring_connected, _, hr, ⟨by decide, by decide⟩, by decide,
    ring_dist.trans (by decide), by decide⟩

end FloodState

end Vntc
