import Vntc.Server.Relay.Forgery

/-!
# Who a client speaks as

Whom other clients take for the sender of a frame, and whose counters it runs up. `handle_data`
takes the source in the header for the sender of a frame, and of a packet that is embedded in a
selective broadcast it does not look at the source at all. Only the types of relayed WireGuard
packets compare it with the address of the session.
-/

namespace Vntc

open Lib NetPacket

/-! ## Counters -/

/-- The bytes of a client, each a `u64` in the source, so exact for fewer than `2 ^ 64`. -/
structure TrafficStats where
  tx : Nat
  rx : Nat
  deriving DecidableEq

def TrafficStats.addTx (s : TrafficStats) (bytes : Nat) : TrafficStats :=
  { s with tx := s.tx + bytes }

def TrafficStats.addRx (s : TrafficStats) (bytes : Nat) : TrafficStats :=
  { s with rx := s.rx + bytes }

/-- The counters of a network. Those of a device are at its address only: a registration removes
them from the address before. -/
structure Traffic where
  dashboardTraffic : TrafficStats
  trafficStatsMap : HashMap Ipv4Addr TrafficStats

namespace Traffic

variable (t : Traffic)

def recordTxTraffic (ip : Ipv4Addr) (bytes : Nat) : Traffic where
  dashboardTraffic := t.dashboardTraffic.addTx bytes
  trafficStatsMap := HashMap.modify t.trafficStatsMap ip (·.addTx bytes)

def recordRxTraffic (ip : Ipv4Addr) (bytes : Nat) : Traffic where
  dashboardTraffic := t.dashboardTraffic.addRx bytes
  trafficStatsMap := HashMap.modify t.trafficStatsMap ip (·.addRx bytes)

/-- The bytes that were counted as sent from an address. -/
def tx (ip : Ipv4Addr) : Nat := (t.trafficStatsMap.lookup ip).elim 0 TrafficStats.tx

/-- There are counters for the address. -/
def counts (ip : Ipv4Addr) : Bool := (t.trafficStatsMap.lookup ip).isSome

theorem tx_recordTxTraffic (ip a : Ipv4Addr) (bytes : Nat) :
    (t.recordTxTraffic ip bytes).tx a =
      if a = ip ∧ t.counts ip then t.tx a + bytes else t.tx a := by
  unfold tx counts recordTxTraffic
  rw [HashMap.lookup_modify]
  by_cases ha : a = ip
  · subst ha
    cases t.trafficStatsMap.lookup a <;> simp [TrafficStats.addTx]
  · simp [ha]

theorem tx_recordRxTraffic (ip a : Ipv4Addr) (bytes : Nat) :
    (t.recordRxTraffic ip bytes).tx a = t.tx a := by
  unfold tx recordRxTraffic
  rw [HashMap.lookup_modify]
  by_cases ha : a = ip
  · subst ha
    cases t.trafficStatsMap.lookup a <;> simp [TrafficStats.addRx]
  · simp [ha]

theorem tx_foldl_recordRxTraffic (ds : List Delivery) (a : Ipv4Addr) :
    (ds.foldl (fun t d => t.recordRxTraffic d.target d.data.length) t).tx a = t.tx a := by
  induction ds generalizing t with
  | nil => rfl
  | cons d ds ih => rw [List.foldl_cons, ih, tx_recordRxTraffic]

end Traffic

theorem Frame.unique {buf : Bytes} {packet packet' : NetPacket} {kind kind' : MsgType}
    (h : Frame buf packet kind) (h' : Frame buf packet' kind') :
    packet' = packet ∧ kind' = kind := by
  cases h.new.symm.trans h'.new
  cases h.msgType.symm.trans h'.msgType
  exact ⟨rfl, rfl⟩

/-- The types of frames that go to one client as they are. -/
def MsgType.isDirect : MsgType → Bool
  | turn | ping | pong | punchStart1 | punchStart2 | quic => true
  | _ => false

/-- The types of frames that go to many clients, without counters of what these receive. -/
def MsgType.isFannedOut : MsgType → Bool
  | broadcast | excludeBroadcast | targetBroadcast => true
  | _ => false

namespace NetworkState

variable (st : NetworkState)

/-- The counters after `handle_data`; `taken` says which frames their queues took. -/
def recordData (env : DataEnv) (taken : Delivery → Bool) (session : Option Session) (buf : Bytes)
    (traffic : Traffic) : Traffic :=
  match session with
  | none => traffic
  | some session =>
    if session.registrationStatus = .pendingConfirmation then traffic
    else match NetPacket.new buf with
      | none => traffic
      | some packet =>
        match packet.msgType with
        | none => traffic
        | some msgType =>
          if packet.isGateway = true ∨ ¬ env.clusterLeaseValid = true then traffic
          else
            -- The sender is counted before the frame is looked at.
            let traffic := traffic.recordTxTraffic packet.srcId buf.length
            if msgType.isFannedOut then traffic
            else (((st.handleFrame env session packet msgType).toOption.getD []).filter taken).foldl
              (fun t d => t.recordRxTraffic d.target d.data.length) traffic

variable {st} {env : DataEnv} {session : Session} {buf : Bytes} {traffic : Traffic}

/-- A frame that is looked at is counted for the source in its header. -/
theorem tx_recordData (hconf : session.registrationStatus = .confirmed)
    (hl : env.clusterLeaseValid = true) {packet : NetPacket} {kind : MsgType}
    (hf : Frame buf packet kind) (taken : Delivery → Bool) (ip : Ipv4Addr) :
    (st.recordData env taken (some session) buf traffic).tx ip =
      (traffic.recordTxTraffic packet.srcId buf.length).tx ip := by
  have hp : session.registrationStatus ≠ .pendingConfirmation := by rw [hconf]; decide
  have hg : ¬ (packet.isGateway = true ∨ ¬ env.clusterLeaseValid = true) := by
    simp [hf.isGateway, hl]
  simp only [recordData, if_neg hp, hf.new, hf.msgType, if_neg hg]
  split
  · rfl
  · exact Traffic.tx_foldl_recordRxTraffic _ _ _

/-- Nothing else is counted. -/
theorem recordData_of_not_frame
    (h : ¬ (env.clusterLeaseValid = true ∧ ∃ packet kind, Frame buf packet kind))
    (taken : Delivery → Bool) : st.recordData env taken (some session) buf traffic = traffic := by
  unfold recordData
  dsimp only
  split
  · rfl
  split
  · rfl
  · rename_i packet hn
    split
    · rfl
    · rename_i kind hk
      -- A packet with a type is a frame unless it is for the server.
      rw [if_pos]
      by_contra hg
      obtain ⟨hg, hl⟩ := not_or.mp hg
      exact h ⟨not_not.mp hl, packet, kind, hn, hk, by simpa using hg⟩

/-- The counter that grows is that of the source in the header. -/
theorem tx_lt_recordData (hconf : session.registrationStatus = .confirmed) {taken : Delivery → Bool}
    {ip : Ipv4Addr} :
    traffic.tx ip < (st.recordData env taken (some session) buf traffic).tx ip ↔
      env.clusterLeaseValid = true ∧ traffic.counts ip = true ∧
        ∃ packet kind, Frame buf packet kind ∧ packet.srcId = ip := by
  by_cases h : env.clusterLeaseValid = true ∧ ∃ packet kind, Frame buf packet kind
  · obtain ⟨hl, packet, kind, hf⟩ := h
    have hlen : 0 < buf.length := by
      have := packet.head_le
      rw [buffer_of_new hf.new] at this
      exact lt_of_lt_of_le (by decide) this
    rw [tx_recordData hconf hl hf, Traffic.tx_recordTxTraffic]
    constructor
    · intro hlt
      split at hlt
      · rename_i hip
        exact ⟨hl, hip.1 ▸ hip.2, packet, kind, hf, hip.1.symm⟩
      · exact absurd hlt (lt_irrefl _)
    · rintro ⟨-, hc, packet', kind', hf', rfl⟩
      obtain ⟨rfl, -⟩ := Frame.unique hf hf'
      rw [if_pos ⟨rfl, hc⟩]
      omega
  · rw [recordData_of_not_frame h]
    refine ⟨fun hlt => absurd hlt (lt_irrefl _), ?_⟩
    rintro ⟨hl, -, packet, kind, hf, -⟩
    exact absurd ⟨hl, packet, kind, hf⟩ h

end NetworkState

/-! ## What other clients hear -/

/-- The address has the queue of another client. -/
def NetworkState.Hears (st : NetworkState) (own : Channel) (ip : Ipv4Addr) : Prop :=
  st.isWireguardEndpoint ip = false ∧
    ∃ sender, st.senderMap.lookup ip = some sender ∧ sender ≠ .vnt own

/-- The packet goes out, as the sender wrote it, to a client with another queue than `own`. -/
inductive Spoken (st : NetworkState) (env : DataEnv) (own : Channel) (buf : Bytes) :
    NetPacket → Prop
  | direct {packet : NetPacket} {kind : MsgType} (hf : Frame buf packet kind)
      (hk : kind.isDirect = true) (hfw : env.forwarded = false) (ht : 1 < packet.ttl)
      (hs : st.Hears own packet.destId)
      (he : (st.onlineEndpoints.lookup packet.destId).isSome = true) :
      Spoken st env own buf packet
  | broadcast {packet : NetPacket} {ip : Ipv4Addr} (hf : Frame buf packet .broadcast)
      (ht : 1 < packet.ttl) (hs : st.Hears own ip) (hne : ip ≠ packet.srcId) :
      Spoken st env own buf packet
  | embedded {packet inner : NetPacket} {kind : MsgType} {broadcast : SelectiveBroadcast}
      {ip : Ipv4Addr} (hf : Frame buf packet kind)
      (hb : env.decode packet.payload = some broadcast)
      (hi : NetPacket.new broadcast.data = some inner) (ht : 1 < inner.ttl)
      (hs : st.Hears own ip) (hc : chosenBy kind broadcast.ips ip = true)
      (hne : ip ≠ packet.srcId) : Spoken st env own buf inner

/-- The frame carries the source `a`. -/
def CarriesSource (a : Ipv4Addr) (data : Bytes) : Prop :=
  (NetPacket.new data).map NetPacket.srcId = some a

variable {p : NetPacket}

theorem carriesSource_of_decrTtl {q : NetPacket} (h : p.decrTtl = some q) {a : Ipv4Addr} :
    CarriesSource a q.buffer ↔ p.srcId = a := by
  rw [CarriesSource, new_buffer, Option.map_some, Option.some_inj,
    (decrTtl_some h).2.2.2.1]

theorem NetPacket.one_lt_ttl {q : NetPacket} (h : p.decrTtl = some q) : 1 < p.ttl := by
  by_contra hle
  rw [decrTtl_eq_none.mpr (not_lt.mp hle)] at h
  cases h

theorem NetPacket.exists_decrTtl (h : 1 < p.ttl) : ∃ q, p.decrTtl = some q := by
  cases hq : p.decrTtl with
  | none => exact absurd (decrTtl_eq_none.mp hq) (not_le.mpr h)
  | some q => exact ⟨q, rfl⟩

namespace NetworkState

variable {st : NetworkState} {env : DataEnv} {session : Session} {buf : Bytes} {own : Channel}

variable {kind : MsgType} {d : Delivery} {packet : NetPacket} {ds : List Delivery}

theorem allowed_direct (hk : kind.isDirect = true) (endpoint : OnlineEndpoint) :
    allowed kind .vnt endpoint = !endpoint.isWireGuard := by
  cases kind <;> cases endpoint <;> first | rfl | cases hk

/-- A frame for one client gets to every endpoint but a WireGuard peer. -/
theorem tryDeliver_direct (hm : packet.msgType = some kind)
    (hk : kind.isDirect = true) {destination : Ipv4Addr} :
    st.tryDeliver destination packet.buffer .vnt = .sent d ↔
      (st.onlineEndpoints.lookup destination).isSome = true ∧
        st.isWireguardEndpoint destination = false ∧
        st.senderMap.lookup destination = some d.sender ∧ d.target = destination ∧
        d.data = packet.buffer := by
  unfold tryDeliver isWireguardEndpoint
  rw [new_buffer, Option.bind_some, hm]
  cases he : st.onlineEndpoints.lookup destination with
  | none => simp
  | some endpoint =>
    simp only [allowed_direct hk, Option.isSome_some, Option.any_some, true_and]
    cases endpoint.isWireGuard with
    | true => simp
    | false =>
      cases hs : st.senderMap.lookup destination with
      | none => simp
      | some sender =>
        obtain ⟨target, sender', data⟩ := d
        simp [eq_comm, and_left_comm]

theorem handleFrame_direct (hk : kind.isDirect = true) :
    st.handleFrame env session packet kind = .ok (packet.decrTtl.elim [] fun next =>
      if env.forwarded then [] else (st.tryDeliver packet.destId next.buffer .vnt).deliveries) := by
  cases kind with
  | turn | ping | pong | punchStart1 | punchStart2 | quic =>
    unfold handleFrame
    cases packet.decrTtl <;> rfl
  | _ => cases hk

/-- A frame for one client. -/
theorem spoken_of_direct (hf : Frame buf packet kind) (hk : kind.isDirect = true)
    (h : st.handleFrame env session packet kind = .ok ds) (hd : d ∈ ds) (ho : d.sender ≠ .vnt own) :
    ∃ p next, Spoken st env own buf p ∧ p.decrTtl = some next ∧ d.data = next.buffer := by
  cases (handleFrame_direct hk).symm.trans h
  cases hn : packet.decrTtl with
  | none => rw [hn] at hd; cases hd
  | some next =>
    rw [hn, Option.elim_some] at hd
    split at hd
    · cases hd
    · rename_i hfw
      have hm : next.msgType = some kind := (decrTtl_some hn).1.trans hf.msgType
      obtain ⟨he, hw, hs, -, hdata⟩ :=
        (tryDeliver_direct hm hk).mp (LocalDelivery.mem_deliveries.mp hd)
      exact ⟨packet, next, .direct hf hk (by simpa using hfw) (one_lt_ttl hn)
        ⟨hw, d.sender, hs, ho⟩ he, hn, hdata⟩

/-- A frame for many clients. -/
theorem spoken_of_fannedOut (hf : Frame buf packet kind) (hk : kind.isFannedOut = true)
    (h : st.handleFrame env session packet kind = .ok ds) (hd : d ∈ ds) (ho : d.sender ≠ .vnt own) :
    ∃ p next, Spoken st env own buf p ∧ p.decrTtl = some next ∧ d.data = next.buffer := by
  cases kind with
  | broadcast =>
    simp only [handleFrame] at h
    obtain ⟨next, hn, hd⟩ := hop_of_mem h hd
    obtain ⟨hs, hw, he, hdata⟩ := mem_fanOut.mp hd
    exact ⟨packet, next, .broadcast hf (one_lt_ttl hn) ⟨he, d.sender, hs, ho⟩
      (of_decide_eq_true hw), hn, hdata⟩
  | excludeBroadcast | targetBroadcast =>
    simp only [handleFrame] at h
    obtain ⟨broadcast, inner, next, hb, hi, hn, hd⟩ := selectiveBroadcast_ok h hd
    obtain ⟨hs, hw, he, hdata⟩ := mem_fanOut.mp hd
    simp only [Bool.and_eq_true, decide_eq_true_eq] at hw
    exact ⟨inner, next, .embedded hf hb hi (one_lt_ttl hn) ⟨he, d.sender, hs, ho⟩ hw.1
      hw.2, hn, hdata⟩
  | _ => cases hk

/-- A relayed packet to one endpoint, of which the source was checked. -/
theorem carriesSource_of_nextHop {allowed : Bool} {a : Ipv4Addr}
    {checked : Except RelayValidationError Ipv4Route}
    (hc : ∀ route, checked = .ok route → packet.srcId = a)
    (h : (match packet.nextHop (allowed && checked.isOk) with
      | none => .ok []
      | some next => .ok (st.routeWireguardRelay packet.destId next.buffer .vnt)) =
      (.ok ds : Except DataError (List Delivery))) (hd : d ∈ ds) :
    CarriesSource a d.data := by
  obtain ⟨next, hn, hd⟩ := hop_of_mem h hd
  obtain ⟨route, hr, hn⟩ := nextHop_some hn
  rw [(tryDeliver_sent (LocalDelivery.mem_deliveries.mp hd)).2.1, carriesSource_of_decrTtl hn]
  exact hc route hr

theorem carriesSource_of_routeWireguardBroadcast {source : Ipv4Addr} {inner : Bytes}
    {origin : RelayOrigin}
    (h : d ∈ st.routeWireguardBroadcast source inner origin) : CarriesSource source d.data := by
  obtain ⟨route, target, hv, hd⟩ := mem_routeWireguardBroadcast h
  obtain ⟨-, -, hs, -⟩ := validateBroadcastInnerIpv4_ok.mp hv
  obtain ⟨p, hp, he, -⟩ := envelope_build .wireGuardBroadcastRelay inner route.source target
  rw [(tryDeliver_sent hd).2.1, CarriesSource, buildWireguardBroadcastRelay, hp, Option.map_some,
    he.srcId, hs]

/-- What a frame puts into other queues is a packet as the sender wrote it, or it is relayed to
WireGuard endpoints and carries the address of the session. -/
theorem spoken_of_mem (hf : Frame buf packet kind)
    (h : st.handleFrame env session packet kind = .ok ds) (hd : d ∈ ds) (ho : d.sender ≠ .vnt own) :
    (∃ p next, Spoken st env own buf p ∧ p.decrTtl = some next ∧ d.data = next.buffer) ∨
      CarriesSource session.ip d.data := by
  cases kind with
  | turn | ping | pong | punchStart1 | punchStart2 | quic =>
    exact .inl (spoken_of_direct hf rfl h hd ho)
  | broadcast | excludeBroadcast | targetBroadcast =>
    exact .inl (spoken_of_fannedOut hf rfl h hd ho)
  | wireGuardRelay =>
    refine .inr (carriesSource_of_nextHop (fun route hv => ?_) h hd)
    exact (validateVntRelay_ok.mp hv).1.1.srcId
  | wireGuardSubnetRelay =>
    refine .inr (carriesSource_of_nextHop (fun route hv => ?_) h hd)
    exact (validateVntSubnetRelay_ok.mp hv).1.1.srcId
  | wireGuardBroadcastRelay =>
    simp only [handleFrame] at h
    split at h
    · cases h; cases hd
    · cases h; exact .inr (carriesSource_of_routeWireguardBroadcast hd)
  | pingTurn | pongTurn | punchReq | punchRes | pushClientIps | rpcReq | rpcRes
  | wireGuardP2pControl => cases h; cases hd

/-- A packet that is to go out does so. -/
theorem mem_of_spoken (hconf : session.registrationStatus = .confirmed)
    (hl : env.clusterLeaseValid = true) {p : NetPacket} (h : Spoken st env own buf p) :
    ∃ ds d next, st.handleData env (some session) buf = .ok ds ∧ d ∈ ds ∧ d.sender ≠ .vnt own ∧
      p.decrTtl = some next ∧ d.data = next.buffer := by
  have hp : session.registrationStatus ≠ .pendingConfirmation := by rw [hconf]; decide
  have handled {packet : NetPacket} {kind : MsgType} (hf : Frame buf packet kind)
      {ds : List Delivery} (h : st.handleFrame env session packet kind = .ok ds) :
      st.handleData env (some session) buf = .ok ds :=
    handleData_ok.mpr (.inr ⟨hp, hl, packet, kind, hf.new, hf.msgType, .inr ⟨hf.isGateway, h⟩⟩)
  cases h with
  | direct hf hk hfw ht hs he =>
    obtain ⟨next, hn⟩ := exists_decrTtl ht
    obtain ⟨hw, sender, hs, ho⟩ := hs
    refine ⟨_, ⟨p.destId, sender, next.buffer⟩, next, handled hf (handleFrame_direct hk), ?_, ho,
      hn, rfl⟩
    have hm := (decrTtl_some hn).1.trans hf.msgType
    rw [hn, Option.elim_some, if_neg (by simp [hfw]), LocalDelivery.mem_deliveries]
    exact (tryDeliver_direct hm hk).mpr ⟨he, hw, hs, rfl, rfl⟩
  | @broadcast _ ip hf ht hs hne =>
    obtain ⟨next, hn⟩ := exists_decrTtl ht
    obtain ⟨hw, sender, hs, ho⟩ := hs
    have hok : st.handleFrame env session p .broadcast =
        .ok (st.fanOut (fun ip => decide (ip ≠ p.srcId)) next.buffer) := by
      simp only [handleFrame, hn]
    exact ⟨_, ⟨ip, sender, next.buffer⟩, next, handled hf hok,
      mem_fanOut.mpr ⟨hs, decide_eq_true hne, hw, rfl⟩, ho, hn, rfl⟩
  | @embedded packet _ kind broadcast ip hf hb hi ht hs hc hne =>
    obtain ⟨next, hn⟩ := exists_decrTtl ht
    obtain ⟨hw, sender, hs, ho⟩ := hs
    exact ⟨_, ⟨ip, sender, next.buffer⟩, next,
      handled hf (handleFrame_selective (isSelective_of_chosenBy hc) hb hi hn),
      mem_fanOut.mpr ⟨hs, by simp [hc, hne], hw, rfl⟩, ho, hn, rfl⟩

end NetworkState

/-! ## The sender -/

/-- The frame names the sender at `a`: in the packets that other clients hear, and in its header if
there are counters for the address there. -/
def NamesSender (st : NetworkState) (traffic : Traffic) (env : DataEnv) (own : Channel)
    (a : Ipv4Addr) (buf : Bytes) : Prop :=
  env.clusterLeaseValid = true →
    (∀ p, Spoken st env own buf p → p.srcId = a) ∧
    ∀ packet kind, Frame buf packet kind → traffic.counts packet.srcId = true → packet.srcId = a

namespace NetworkState

/-- **When clients speak for themselves.** In every state of a network and of its counters: what
`handle_data` puts into other clients' queues for a frame of a confirmed session carries the address
of the session, and no counter of transmitted bytes grows but the one of that address, exactly if
the frame names its sender. -/
theorem handleData_identified_iff (st : NetworkState) (traffic : Traffic) (env : DataEnv)
    (taken : Delivery → Bool) (session : Session)
    (hconf : session.registrationStatus = .confirmed) (own : Channel) (buf : Bytes) :
    ((∀ ds, st.handleData env (some session) buf = .ok ds →
        ∀ d ∈ ds, d.sender ≠ .vnt own → CarriesSource session.ip d.data) ∧
      ∀ ip, traffic.tx ip < (st.recordData env taken (some session) buf traffic).tx ip →
        ip = session.ip) ↔
      NamesSender st traffic env own session.ip buf := by
  constructor
  · rintro ⟨hframes, hcounters⟩ hl
    constructor
    · intro p hp
      obtain ⟨ds, d, next, hok, hd, ho, hn, hdata⟩ := mem_of_spoken hconf hl hp
      have hc := hframes ds hok d hd ho
      rw [hdata] at hc
      exact (carriesSource_of_decrTtl hn).mp hc
    · intro packet kind hf hcount
      exact hcounters _ ((tx_lt_recordData hconf).mpr ⟨hl, hcount, packet, kind, hf, rfl⟩)
  · intro h
    constructor
    · intro ds hok d hd ho
      have hp : session.registrationStatus ≠ .pendingConfirmation := by rw [hconf]; decide
      rcases handleData_ok.mp hok with
        ⟨hpend, -⟩ | ⟨-, hl, packet, kind, hn, hk, ⟨-, rfl⟩ | ⟨hg, hok⟩⟩
      · exact absurd hpend hp
      · cases hd
      · obtain ⟨p, next, hs, hn, hdata⟩ | hc := spoken_of_mem ⟨hn, hk, hg⟩ hok hd ho
        · rw [hdata, carriesSource_of_decrTtl hn]
          exact (h hl).1 p hs
        · exact hc
    · intro ip hlt
      obtain ⟨hl, hcount, packet, kind, hf, rfl⟩ := (tx_lt_recordData hconf).mp hlt
      exact (h hl).2 packet kind hf hcount

/-- The laptop at `10.26.0.2`, the tablet at `10.26.0.3` and the phone at `10.26.0.4`. -/
def threeClients : NetworkState :=
  twoClients.apply (.register (anyIpReq "phone" none) 11 6 0)

theorem threeClients_reach : networkSys.Reach threeClients :=
  twoClients_reach.foldl [.register (anyIpReq "phone" none) 11 6 0]

/-- The counters of the three. -/
def threeCounters : Traffic where
  dashboardTraffic := ⟨0, 0⟩
  trafficStatsMap := HashMap.ofPairs
    [(homeIp 2, ⟨0, 0⟩), (homeIp 3, ⟨0, 0⟩),
      (homeIp 4, ⟨0, 0⟩)]

/-- A packet to the phone from `source`. -/
def packetFrom (source : Ipv4Addr) : Bytes :=
  buildWireguardEnvelope .turn [] source (homeIp 4)

theorem handleData_identified_iff_laptop :
    (∃ ds, threeClients.handleData shortEnv (some laptopSession)
        (packetFrom (homeIp 2)) = .ok ds ∧ ∃ d ∈ ds, d.sender = .vnt 6) ∧
    (∀ ds, threeClients.handleData shortEnv (some laptopSession)
        (packetFrom (homeIp 2)) = .ok ds →
      ∀ d ∈ ds, d.sender ≠ .vnt 2 → CarriesSource (homeIp 2) d.data) ∧
    ∀ ip, threeCounters.tx ip < (threeClients.recordData shortEnv (fun _ => true)
        (some laptopSession) (packetFrom (homeIp 2)) threeCounters).tx ip →
      ip = homeIp 2 := by
  refine ⟨⟨_, rfl, by decide⟩, (handleData_identified_iff threeClients threeCounters shortEnv
    (fun _ => true) laptopSession rfl 2 (packetFrom (homeIp 2))).mpr ?_⟩
  have hsrc {packet : NetPacket} {kind : MsgType}
      (hf : Frame (packetFrom (homeIp 2)) packet kind) :
      packet.srcId = laptopSession.ip := by
    rw [NetPacket.srcId, NetPacket.buffer_of_new hf.new]
    decide
  intro _
  refine ⟨fun p hp => ?_, fun packet kind hf _ => hsrc hf⟩
  cases hp with
  | direct hf => exact hsrc hf
  | broadcast hf => exact hsrc hf
  | embedded hf hb =>
    rw [NetPacket.payload, NetPacket.buffer_of_new hf.new] at hb
    cases hb

/-- The phone gets a packet of the laptop that carries the address of the tablet, as it is and in a
broadcast with the laptop's own header; the first one is counted for the tablet. -/
theorem handleData_not_identified :
    networkSys.Reach threeClients ∧ laptopSession.registrationStatus = .confirmed ∧
    laptopSession.ip = homeIp 2 ∧
    (∃ ds, threeClients.handleData shortEnv (some laptopSession)
        (packetFrom (homeIp 3)) = .ok ds ∧
      ∃ d ∈ ds, d.sender = .vnt 6 ∧ (NetPacket.new d.data).map NetPacket.srcId =
        some (homeIp 3)) ∧
    threeCounters.tx (homeIp 3) < (threeClients.recordData shortEnv (fun _ => true)
        (some laptopSession) (packetFrom (homeIp 3)) threeCounters).tx
      (homeIp 3) ∧
    ∃ ds, threeClients.handleData shortEnv (some laptopSession)
        (embedding (packetFrom (homeIp 3))) = .ok ds ∧
      ∃ d ∈ ds, d.sender = .vnt 6 ∧ (NetPacket.new d.data).map NetPacket.srcId =
        some (homeIp 3) :=
  ⟨threeClients_reach, rfl, rfl, ⟨_, rfl, by decide⟩, by decide, _, rfl, by decide⟩

end NetworkState

end Vntc
