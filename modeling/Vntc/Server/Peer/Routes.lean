import Vntc.Lib.Ranked
import Vntc.Lib.Sys
import Vntc.Server.Network
import Vntc.Server.Peer.Cluster

/-!
# Routes to the clients of other servers

A server asks its peers for their clients and keeps, for each network and address, the routes over at
most `MAX_ROUTES_PER_IP` links, sorted by latency: `handle_client_info_response` and `cleanup_routes`
of `server/peer_server.rs`. The answers also say which addresses are WireGuard peers, which goes to
the state of the network.

A total latency is a sum of `u32`s, and wraps around in a release build. So a route whose reported
latency is huge can count as a fast one.
-/

namespace Vntc

open Lib Ranked

def maxRoutesPerIp : Nat := 5

structure IpRouteInfo where
  /-- The link, by number. -/
  peer : Nat
  clientLatencyMs : BitVec 32
  deriving DecidableEq

structure ClientLatencyInfo where
  ip : Ipv4Addr
  latencyMs : BitVec 32
  isWireguard : Bool
  deriving DecidableEq

/-- `NetworkInfo` of a `ServerClientInfoResponse`. -/
structure NetworkInfo where
  networkCode : String
  clients : List ClientLatencyInfo
  deriving DecidableEq

/-- The fields of a link that the routes depend on. -/
structure PeerLink where
  addr : String
  remoteCapabilities : BitVec 64
  latencyMs : BitVec 32
  deriving DecidableEq

/-- The routes of a network. -/
abbrev IpMap := HashMap Ipv4Addr (List IpRouteInfo)

namespace IpRouteInfo

variable (links : Nat → PeerLink) (r : IpRouteInfo)

/-- `total_latency`, which wraps around. -/
def totalLatency : BitVec 32 := (links r.peer).latencyMs + r.clientLatencyMs + 2

/-- The time that the route takes. -/
def delay : Nat := (links r.peer).latencyMs.toNat + r.clientLatencyMs.toNat + 2

/-- The time is below `2 ^ 32` milliseconds. -/
def Fits : Prop := r.delay links < 4294967296

instance : Decidable (r.Fits links) := inferInstanceAs (Decidable (_ < _))

variable {links r}

theorem Fits.toNat_totalLatency (h : r.Fits links) : (r.totalLatency links).toNat = r.delay links := by
  unfold Fits delay at h
  simp only [totalLatency, delay, BitVec.toNat_add]
  show (_ + 2) % _ = _
  omega

end IpRouteInfo

namespace IpMap

/-- The routes of an address. -/
def routes (m : IpMap) (ip : Ipv4Addr) : List IpRouteInfo := (m.lookup ip).getD []

/-- Enter a route, sort and truncate. -/
def putRoute (links : Nat → PeerLink) (route : IpRouteInfo) (routes : List IpRouteInfo) :
    List IpRouteInfo :=
  Ranked.put IpRouteInfo.peer (fun r => (r.totalLatency links).toNat) maxRoutesPerIp route routes

/-- The entry of a listed client. -/
def addClient (links : Nat → PeerLink) (peer : Nat) (m : IpMap) (client : ClientLatencyInfo) : IpMap :=
  let route := ⟨peer, client.latencyMs⟩
  m.insert client.ip (match m.lookup client.ip with
    | some routes => putRoute links route routes
    | none => [route])

/-- `retain`: no route over the link to an address that was not listed, and no empty list. -/
def dropUnlisted (peer : Nat) (listed : Ipv4Addr → Bool) (m : IpMap) : IpMap :=
  m.retainMut fun ip routes =>
    let routes := if listed ip then routes else routes.filter (·.peer ≠ peer)
    if routes.isEmpty then none else some routes

/-- Every list has an entry, no more than the limit, and one for each link. -/
def WellFormed (m : IpMap) : Prop :=
  ∀ ip routes, m.lookup ip = some routes →
    routes ≠ [] ∧ routes.length ≤ maxRoutesPerIp ∧ (routes.map (·.peer)).Nodup

end IpMap

/-- The part of a server that the lists of its peers change. -/
structure RouteState where
  links : Nat → PeerLink
  /-- The networks that a link has announced since it came up. -/
  networkCodes : Nat → HashSet String
  ipToRoutes : HashMap String IpMap
  networkStates : HashMap String NetworkState

namespace RouteState

variable (s : RouteState)

/-- The addresses of a list that are WireGuard peers, if the other server tells them apart. -/
def remoteWireguardIps (peer : Nat) (clients : List ClientLatencyInfo) : HashSet Ipv4Addr :=
  let acceptsEndpointType :=
    (s.links peer).remoteCapabilities.getLsbD capabilityWireguardEndpointSyncV1
  HashMap.ofPairs ((clients.filter fun c => acceptsEndpointType && c.isWireguard).map fun c =>
    (c.ip, ()))

/-- One network of `handle_client_info_response`. -/
def handleNetworkInfo (peer : Nat) (info : NetworkInfo) : RouteState :=
  let ipMap := (s.ipToRoutes.lookup info.networkCode).getD ∅
  let ipMap := info.clients.foldl (IpMap.addClient s.links peer) ipMap
  let ipMap := IpMap.dropUnlisted peer (fun ip => info.clients.any (·.ip == ip)) ipMap
  { s with
    networkCodes := Function.update s.networkCodes peer
      ((s.networkCodes peer).insert info.networkCode ())
    ipToRoutes := s.ipToRoutes.insert info.networkCode ipMap
    networkStates := match s.networkStates.lookup info.networkCode with
      | some state => s.networkStates.insert info.networkCode
          (state.updateRemoteWireguardIps (s.links peer).addr
            (s.remoteWireguardIps peer info.clients)).1
      | none => s.networkStates }

def handleClientInfoResponse (peer : Nat) (networks : List NetworkInfo) : RouteState :=
  networks.foldl (fun s info => s.handleNetworkInfo peer info) s

/-- One network of `cleanup_routes`. -/
def cleanupNetwork (peer : Nat) (networkCode : String) : RouteState :=
  { s with
    ipToRoutes := match s.ipToRoutes.lookup networkCode with
      | some ipMap => s.ipToRoutes.insert networkCode (IpMap.dropUnlisted peer (fun _ => false) ipMap)
      | none => s.ipToRoutes
    networkStates := match s.networkStates.lookup networkCode with
      | some state => s.networkStates.insert networkCode
          (state.removeRemoteWireguardSource (s.links peer).addr).1
      | none => s.networkStates }

/-- `cleanup_routes` at the end of a connection; its set of networks goes with it. -/
def cleanupRoutes (peer : Nat) : RouteState :=
  { (s.networkCodes peer).keys.foldl (fun s code => s.cleanupNetwork peer code) s with
    networkCodes := Function.update s.networkCodes peer ∅ }

def updateLatency (peer : Nat) (latency : BitVec 32) : RouteState :=
  { s with links := Function.update s.links peer { s.links peer with latencyMs := latency } }

/-- The routes of an address of a network. -/
def routesAt (networkCode : String) (ip : Ipv4Addr) : List IpRouteInfo :=
  IpMap.routes ((s.ipToRoutes.lookup networkCode).getD ∅) ip

end RouteState

inductive RouteOp
  | response (peer : Nat) (networks : List NetworkInfo)
  | latency (peer : Nat) (latency : BitVec 32)
  | cleanup (peer : Nat)

namespace RouteState

def apply (s : RouteState) : RouteOp → RouteState
  | .response peer networks => s.handleClientInfoResponse peer networks
  | .latency peer latency => s.updateLatency peer latency
  | .cleanup peer => s.cleanupRoutes peer

/-- No routes yet; whatever is known about the links and the networks. -/
def routeSys : Sys RouteState RouteOp :=
  .ofFun (fun s => s.ipToRoutes = ∅ ∧ ∀ peer, s.networkCodes peer = ∅) apply

/-- All routes. -/
def allRoutes (s : RouteState) : List IpRouteInfo :=
  s.ipToRoutes.values.flatMap fun m => HashMap.values m |>.flatten

/-- No total latency wraps around, of a route that is reported or that has its link's latency
changed. -/
def NoOverflow (s : RouteState) : RouteOp → Prop
  | .response peer networks => ∀ info ∈ networks, ∀ c ∈ info.clients,
      IpRouteInfo.Fits s.links ⟨peer, c.latencyMs⟩
  | .latency peer latency => ∀ r ∈ s.allRoutes, r.peer = peer →
      latency.toNat + r.clientLatencyMs.toNat + 2 < 4294967296
  | .cleanup _ => True

instance (s : RouteState) : ∀ op, Decidable (s.NoOverflow op)
  | .response .. => inferInstanceAs (Decidable (∀ info ∈ _, ∀ c ∈ _, _))
  | .latency .. => inferInstanceAs (Decidable (∀ r ∈ _, _))
  | .cleanup _ => inferInstanceAs (Decidable True)

end RouteState

/-! ## One list of clients -/

/-- The latency that a list reports last for an address. -/
def lastLatency (clients : List ClientLatencyInfo) (ip : Ipv4Addr) : Option (BitVec 32) :=
  (clients.reverse.find? (·.ip == ip)).map (·.latencyMs)

theorem lastLatency_concat (clients : List ClientLatencyInfo) (c : ClientLatencyInfo)
    (ip : Ipv4Addr) : lastLatency (clients ++ [c]) ip =
      if c.ip = ip then some c.latencyMs else lastLatency clients ip := by
  simp only [lastLatency, List.reverse_append, List.reverse_singleton, List.singleton_append,
    List.find?_cons]
  by_cases h : c.ip = ip
  · simp [h]
  · have hb : (c.ip == ip) = false := by simpa using h
    simp [h, hb]

theorem lastLatency_eq_none {clients : List ClientLatencyInfo} {ip : Ipv4Addr} :
    lastLatency clients ip = none ↔ clients.any (·.ip == ip) = false := by
  simp [lastLatency]

namespace IpMap

variable {links : Nat → PeerLink} {peer : Nat} {m : IpMap} {ip : Ipv4Addr}

theorem routes_addClient (client : ClientLatencyInfo) :
    routes (addClient links peer m client) ip =
      if client.ip = ip then putRoute links ⟨peer, client.latencyMs⟩ (routes m ip)
      else routes m ip := by
  unfold addClient routes
  rw [HashMap.lookup_insert_if]
  by_cases h : client.ip = ip
  · subst h
    cases hl : m.lookup client.ip with
    | none => rw [if_pos rfl, if_pos rfl]; rfl
    | some l => simp
  · rw [if_neg (Ne.symm h), if_neg h]

variable {listed : Ipv4Addr → Bool} {clients : List ClientLatencyInfo}

theorem routes_dropUnlisted :
    routes (dropUnlisted peer listed m) ip =
      if listed ip then routes m ip else (routes m ip).filter (·.peer ≠ peer) := by
  unfold dropUnlisted routes
  rw [HashMap.lookup_retainMut]
  cases hl : m.lookup ip with
  | none => simp
  | some l =>
    simp only [Option.bind_some, Option.getD_some]
    generalize (if listed ip = true then l else l.filter (·.peer ≠ peer)) = l'
    cases l' <;> rfl

theorem WellFormed.routes (h : WellFormed m) (ip : Ipv4Addr) :
    (IpMap.routes m ip).length ≤ maxRoutesPerIp ∧ ((IpMap.routes m ip).map (·.peer)).Nodup := by
  unfold IpMap.routes
  cases hl : m.lookup ip with
  | none => simp [maxRoutesPerIp]
  | some l => exact (h ip l hl).2

theorem WellFormed.addClient (h : WellFormed m) (client : ClientLatencyInfo) :
    WellFormed (addClient links peer m client) := by
  intro ip l hl
  unfold IpMap.addClient at hl
  rcases HashMap.lookup_insert_cases hl with ⟨-, rfl⟩ | ⟨-, hl⟩
  · cases hm : m.lookup client.ip with
    | none => simp [maxRoutesPerIp]
    | some l =>
      exact ⟨put_ne_nil (by decide), length_put_le, nodup_put (h _ l hm).2.2⟩
  · exact h ip l hl

theorem WellFormed.dropUnlisted (h : WellFormed m) : WellFormed (dropUnlisted peer listed m) := by
  intro ip l hl
  unfold IpMap.dropUnlisted at hl
  rw [HashMap.lookup_retainMut] at hl
  obtain ⟨l₀, hl₀, hf⟩ := Option.bind_eq_some_iff.mp hl
  obtain ⟨-, hlen, hnd⟩ := h ip l₀ hl₀
  -- The list is a part of the old one.
  have hsub : (if listed ip = true then l₀ else l₀.filter (·.peer ≠ peer)).Sublist l₀ := by
    split
    · exact .refl l₀
    · exact List.filter_sublist
  generalize (if listed ip = true then l₀ else l₀.filter (·.peer ≠ peer)) = l' at hf hsub
  cases l' with
  | nil => cases hf
  | cons r rest =>
    cases hf
    exact ⟨List.cons_ne_nil r rest, hsub.length_le.trans hlen, hnd.sublist (hsub.map _)⟩

theorem WellFormed.foldl (h : WellFormed m) (clients : List ClientLatencyInfo) :
    WellFormed (clients.foldl (IpMap.addClient links peer) m) := by
  induction clients generalizing m with
  | nil => exact h
  | cons c clients ih => exact ih (h.addClient c)

theorem routes_foldl_of_none (h : lastLatency clients ip = none) :
    routes (clients.foldl (addClient links peer) m) ip = routes m ip := by
  induction clients using List.reverseRecOn with
  | nil => rfl
  | append_singleton clients c ih =>
    rw [lastLatency_concat] at h
    split at h
    · cases h
    · rename_i hc
      rw [List.foldl_append, List.foldl_cons, List.foldl_nil, routes_addClient, if_neg hc, ih h]

/-- A route is old or from the list. -/
theorem mem_routes_foldl {r : IpRouteInfo}
    (h : r ∈ routes (clients.foldl (addClient links peer) m) ip) :
    r ∈ routes m ip ∨ ∃ c ∈ clients, r = ⟨peer, c.latencyMs⟩ := by
  induction clients using List.reverseRecOn with
  | nil => exact .inl h
  | append_singleton clients c ih =>
    simp only [List.foldl_append, List.foldl_cons, List.foldl_nil, routes_addClient] at h
    have hprev : r ∈ routes (clients.foldl (addClient links peer) m) ip →
        r ∈ routes m ip ∨ ∃ c' ∈ clients ++ [c], r = ⟨peer, c'.latencyMs⟩ := fun hr =>
      (ih hr).imp id fun ⟨c', hc', e⟩ => ⟨c', List.mem_append_left _ hc', e⟩
    split at h
    · rcases mem_of_mem_enter (mem_enter_of_mem_put h) with rfl | hr
      · exact .inr ⟨c, List.mem_append_right _ List.mem_cons_self, rfl⟩
      · exact hprev hr
    · exact hprev h

end IpMap

/-! ## The table -/

namespace RouteState

variable {s : RouteState} {peer : Nat}

/-- The list `info` of `peer` has taken the routes of its network from `s` to `s'`. -/
structure Synced (peer : Nat) (info : NetworkInfo) (s s' : RouteState) : Prop where
  /-- A listed address has the route with the latency that was reported last, or as many routes of
  others as there may be, none slower. -/
  listed : ∀ ip latency, lastLatency info.clients ip = some latency →
    ⟨peer, latency⟩ ∈ s'.routesAt info.networkCode ip ∨
      (s'.routesAt info.networkCode ip).length = maxRoutesPerIp ∧
        ∀ r ∈ s'.routesAt info.networkCode ip, r.peer ≠ peer ∧
          r.delay s.links ≤ IpRouteInfo.delay s.links ⟨peer, latency⟩
  unlisted : ∀ ip, lastLatency info.clients ip = none →
    ∀ r ∈ s'.routesAt info.networkCode ip, r.peer ≠ peer
  others : ∀ ip, ∀ r ∈ s'.routesAt info.networkCode ip, r.peer ≠ peer →
    r ∈ s.routesAt info.networkCode ip
  /-- The routes of others go only from a full list of a listed address. -/
  kept : ∀ ip, ∀ r ∈ s.routesAt info.networkCode ip, r.peer ≠ peer →
    r ∈ s'.routesAt info.networkCode ip ∨
      lastLatency info.clients ip ≠ none ∧
        (s'.routesAt info.networkCode ip).length = maxRoutesPerIp

def WellFormed (s : RouteState) : Prop := ∀ n m, s.ipToRoutes.lookup n = some m → IpMap.WellFormed m

structure Inv (s : RouteState) : Prop where
  wellFormed : s.WellFormed
  /-- A link has routes only in networks that it has announced. -/
  announced : ∀ n ip, ∀ r ∈ s.routesAt n ip, n ∈ s.networkCodes r.peer
  fits : ∀ n ip, ∀ r ∈ s.routesAt n ip, r.Fits s.links

theorem WellFormed.getD (h : s.WellFormed) (n : String) :
    IpMap.WellFormed ((s.ipToRoutes.lookup n).getD ∅) := by
  cases hl : s.ipToRoutes.lookup n with
  | none => intro ip l hl; cases hl
  | some m => exact h n m hl

/-- The map of a network after its list was entered. -/
def entered (s : RouteState) (peer : Nat) (info : NetworkInfo) : IpMap :=
  info.clients.foldl (IpMap.addClient s.links peer) ((s.ipToRoutes.lookup info.networkCode).getD ∅)

variable {ip : Ipv4Addr} {n : String} {info : NetworkInfo}

variable {t : RouteState} {latency : BitVec 32} {r : IpRouteInfo} {networks : List NetworkInfo}

theorem routesAt_insert {k : String} {m : IpMap} (ht : t.ipToRoutes = s.ipToRoutes.insert n m) :
    t.routesAt k ip = if k = n then IpMap.routes m ip else s.routesAt k ip := by
  unfold routesAt
  rw [ht, HashMap.lookup_insert_if]
  split <;> rfl

theorem routesAt_handleNetworkInfo (info : NetworkInfo) (n : String) (ip : Ipv4Addr) :
    (s.handleNetworkInfo peer info).routesAt n ip = if n = info.networkCode then
        if lastLatency info.clients ip = none then (s.routesAt n ip).filter (·.peer ≠ peer)
        else IpMap.routes (s.entered peer info) ip else s.routesAt n ip := by
  rw [routesAt_insert (s := s) rfl]
  by_cases hn : n = info.networkCode
  · simp only [hn, if_true]
    rw [IpMap.routes_dropUnlisted]
    by_cases hl : lastLatency info.clients ip = none
    · rw [if_pos hl, if_neg (by simp [lastLatency_eq_none.mp hl])]
      congr 1
      exact IpMap.routes_foldl_of_none hl
    · rw [if_neg hl, if_pos (by simpa [lastLatency_eq_none] using hl)]
      rfl
  · simp only [hn, if_false]

/-- A route is old, or of the list, whose network is then announced. -/
theorem mem_routesAt_handleNetworkInfo (h : r ∈ (s.handleNetworkInfo peer info).routesAt n ip) :
    r ∈ s.routesAt n ip ∨ n = info.networkCode ∧ ∃ c ∈ info.clients, r = ⟨peer, c.latencyMs⟩ := by
  rw [routesAt_handleNetworkInfo] at h
  split at h
  · rename_i hn
    split at h
    · exact .inl (List.mem_filter.mp h).1
    · rw [hn]
      exact (IpMap.mem_routes_foldl h).imp id fun hc => ⟨rfl, hc⟩
  · exact .inl h

theorem Inv.handleNetworkInfo (h : s.Inv)
    (hfit : ∀ c ∈ info.clients, IpRouteInfo.Fits s.links ⟨peer, c.latencyMs⟩) :
    (s.handleNetworkInfo peer info).Inv := by
  refine ⟨fun n m hl => ?_, fun n ip r hr => ?_, fun n ip r hr => ?_⟩
  · simp only [RouteState.handleNetworkInfo, HashMap.lookup_insert_if] at hl
    split at hl
    · cases hl
      exact ((h.wellFormed.getD _).foldl info.clients).dropUnlisted
    · exact h.wellFormed n m hl
  · simp only [RouteState.handleNetworkInfo, Function.update_apply]
    rcases mem_routesAt_handleNetworkInfo hr with hr | ⟨rfl, c, -, rfl⟩
    · have ha := h.announced n ip r hr
      split
      · rename_i hp
        rw [hp] at ha
        exact AList.mem_insert _ |>.mpr (.inr ha)
      · exact ha
    · rw [if_pos rfl]
      exact AList.mem_insert _ |>.mpr (.inl rfl)
  · rcases mem_routesAt_handleNetworkInfo hr with hr | ⟨-, c, hc, rfl⟩
    · exact h.fits n ip r hr
    · exact hfit c hc

theorem Inv.handleClientInfoResponse (h : s.Inv) (hfit : s.NoOverflow (.response peer networks)) :
    (s.handleClientInfoResponse peer networks).Inv := by
  induction networks generalizing s with
  | nil => exact h
  | cons info networks ih =>
    exact ih (h.handleNetworkInfo (hfit info List.mem_cons_self)) fun i hi =>
      hfit i (List.mem_cons_of_mem info hi)

theorem routesAt_cleanupNetwork (code n : String) (ip : Ipv4Addr) :
    (s.cleanupNetwork peer code).routesAt n ip =
      if n = code then (s.routesAt n ip).filter (·.peer ≠ peer) else s.routesAt n ip := by
  cases hl : s.ipToRoutes.lookup code with
  | none =>
    have hsame : (s.cleanupNetwork peer code).ipToRoutes = s.ipToRoutes := by
      simp [cleanupNetwork, hl]
    have hr : (s.cleanupNetwork peer code).routesAt n ip = s.routesAt n ip := by
      unfold routesAt
      rw [hsame]
    rw [hr]
    split
    · rename_i hn
      subst hn
      simp [routesAt, hl, IpMap.routes]
    · rfl
  | some m =>
    have hins : (s.cleanupNetwork peer code).ipToRoutes =
        s.ipToRoutes.insert code (IpMap.dropUnlisted peer (fun _ => false) m) := by
      simp [cleanupNetwork, hl]
    rw [routesAt_insert hins]
    split
    · rename_i hn
      subst hn
      rw [IpMap.routes_dropUnlisted]
      simp [routesAt, hl]
    · rfl

theorem routesAt_cleanup_foldl (codes : List String) (n : String) (ip : Ipv4Addr) :
    (codes.foldl (fun s code => s.cleanupNetwork peer code) s).routesAt n ip =
      if n ∈ codes then (s.routesAt n ip).filter (·.peer ≠ peer) else s.routesAt n ip := by
  induction codes generalizing s with
  | nil => simp
  | cons code codes ih =>
    rw [List.foldl_cons, ih, routesAt_cleanupNetwork]
    by_cases hn : n = code <;> by_cases hm : n ∈ codes <;> simp [hn, hm]

/-- The clean-up takes away the routes of the link, and nothing else. -/
theorem routesAt_cleanupRoutes (h : ∀ n ip, ∀ r ∈ s.routesAt n ip, n ∈ s.networkCodes r.peer)
    (n : String) (ip : Ipv4Addr) :
    (s.cleanupRoutes peer).routesAt n ip = (s.routesAt n ip).filter (·.peer ≠ peer) := by
  have hfold : (s.cleanupRoutes peer).routesAt n ip =
      ((s.networkCodes peer).keys.foldl (fun s code => s.cleanupNetwork peer code) s).routesAt n ip :=
    rfl
  rw [hfold, routesAt_cleanup_foldl]
  split
  · rfl
  · rename_i hn
    refine (List.filter_eq_self.mpr fun r hr => ?_).symm
    have ha := h n ip r hr
    rw [decide_eq_true_eq]
    rintro rfl
    exact hn ha

theorem WellFormed.cleanup_foldl (h : s.WellFormed) (codes : List String) :
    (codes.foldl (fun s code => s.cleanupNetwork peer code) s).WellFormed := by
  induction codes generalizing s with
  | nil => exact h
  | cons code codes ih =>
    refine ih fun n m hl => ?_
    simp only [cleanupNetwork] at hl
    split at hl
    · rename_i m₀ hm
      rcases HashMap.lookup_insert_cases hl with ⟨-, rfl⟩ | ⟨-, hl⟩
      · exact (h code m₀ hm).dropUnlisted
      · exact h n m hl
    · exact h n m hl

theorem links_cleanup_foldl (codes : List String) :
    (codes.foldl (fun s code => s.cleanupNetwork peer code) s).links = s.links := by
  induction codes generalizing s with
  | nil => rfl
  | cons code codes ih => exact ih

theorem links_cleanupRoutes : (s.cleanupRoutes peer).links = s.links := links_cleanup_foldl _

theorem Inv.cleanupRoutes (h : s.Inv) : (s.cleanupRoutes peer).Inv := by
  refine ⟨h.wellFormed.cleanup_foldl _, fun n ip r hr => ?_, fun n ip r hr => ?_⟩
  · rw [routesAt_cleanupRoutes h.announced, List.mem_filter, decide_eq_true_eq] at hr
    simp only [RouteState.cleanupRoutes, Function.update_apply, hr.2, if_false]
    exact h.announced n ip r hr.1
  · rw [routesAt_cleanupRoutes h.announced, List.mem_filter] at hr
    rw [links_cleanupRoutes]
    exact h.fits n ip r hr.1

theorem mem_allRoutes (h : r ∈ s.routesAt n ip) : r ∈ s.allRoutes := by
  unfold routesAt at h
  cases hm : s.ipToRoutes.lookup n with
  | none => simp [hm, IpMap.routes] at h
  | some m =>
    rw [hm, Option.getD_some] at h
    unfold IpMap.routes at h
    cases hl : m.lookup ip with
    | none => simp [hl] at h
    | some l =>
      rw [hl, Option.getD_some] at h
      exact List.mem_flatMap.mpr ⟨m, HashMap.mem_values.mpr ⟨n, hm⟩,
        List.mem_flatten.mpr ⟨l, HashMap.mem_values.mpr ⟨ip, hl⟩, h⟩⟩

theorem Inv.updateLatency (h : s.Inv)
    (hfit : s.NoOverflow (.latency peer latency)) : (s.updateLatency peer latency).Inv := by
  refine ⟨h.wellFormed, h.announced, fun n ip r hr => ?_⟩
  have hold : r ∈ s.routesAt n ip := hr
  by_cases hp : r.peer = peer
  · have := hfit r (mem_allRoutes hold) hp
    simpa [IpRouteInfo.Fits, IpRouteInfo.delay, RouteState.updateLatency, hp] using this
  · have := h.fits n ip r hold
    simpa [IpRouteInfo.Fits, IpRouteInfo.delay, RouteState.updateLatency, hp] using this

theorem Inv.apply (h : s.Inv) {op : RouteOp} (hc : s.NoOverflow op) : (s.apply op).Inv := by
  cases op with
  | response => exact h.handleClientInfoResponse hc
  | latency => exact h.updateLatency hc
  | cleanup => exact h.cleanupRoutes

theorem inv_of_reachWith (h : routeSys.ReachWith NoOverflow s) : s.Inv := by
  refine Sys.ReachWith.invariant (fun s hs => ?_) (fun s op s' hi hc hst => ?_) h
  · have hno : ∀ n ip, s.routesAt n ip = [] := fun n ip => by
      simp [routesAt, hs.1, IpMap.routes]
    exact ⟨fun n m hl => by simp [hs.1] at hl, fun n ip r hr => by simp [hno] at hr,
      fun n ip r hr => by simp [hno] at hr⟩
  · obtain rfl := hst
    exact hi.apply hc

end RouteState

end Vntc
