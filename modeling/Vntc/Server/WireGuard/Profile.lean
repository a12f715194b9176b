import Mathlib.Data.List.Sort
import Vntc.Lib.Ipv4Text
import Vntc.Lib.Table
import Vntc.Server.Relay.Ingress

/-!
# Profiles of WireGuard peers

The settings of a WireGuard peer with its routes into LANs: `normalized_profile` of
`http/web_server.rs` checks and sorts them, `save_wireguard_peer_profile` and
`load_wireguard_runtime_peer` of `control_server/db.rs` store them as texts.
-/

namespace Vntc

open Lib

/-! ## Profiles -/

structure WireGuardPeerProfileRecord where
  networkCode : String
  peerId : String
  dnsServers : Option (List IpAddr)
  persistentKeepalive : Nat
  routes : List WireGuardPeerRouteRecord
  configAvailable : Bool
  createdAt : Int
  updatedAt : Int
  deriving DecidableEq

/-- The servers without repetitions. -/
def normalizedDns (servers : List IpAddr) : Except String (List IpAddr) := do
  ensure (servers.length ≤ 4) "每个 WireGuard Peer 最多配置 4 个 DNS 地址"
  .ok (servers.foldl (fun normalized server =>
    if normalized.contains server then normalized else normalized ++ [server]) [])

section
variable (network : Ipv4Net) (gateway : Ipv4Addr)

/-- The address of a route's gateway is one that a client can have. -/
def isClientIp (ip : Ipv4Addr) : Bool :=
  network.contains ip && ip != network.network && ip != network.broadcast && ip != gateway

/-- The loop over the routes; `seen` are the networks of the routes before. -/
def checkRoutes : List Ipv4Net → List WireGuardPeerRouteRecord → Except String Unit
  | _, [] => .ok ()
  | seen, route :: routes => do
    ensure (network.contains route.lanNetwork.network = false ∧
        route.lanNetwork.contains network.network = false)
      ("局域网路由 " ++ route.lanNetwork.toText ++ " 不能与 VNT 网段 " ++ network.toText ++ " 重叠")
    ensure (isClientIp network gateway route.vntCliIp = true)
      ("局域网路由网关 " ++ route.vntCliIp.toText ++ " 不是有效的 VNT 客户端地址")
    ensure (seen.contains route.lanNetwork = false)
      ("局域网路由 " ++ route.lanNetwork.toText ++ " 重复")
    checkRoutes (route.lanNetwork :: seen) routes

/-- `sort` is the sort of the standard library, and `now` the time. -/
def normalizedProfile (sort : List WireGuardPeerRouteRecord → List WireGuardPeerRouteRecord)
    (now : Int) (networkCode peerId : String) (dnsServers : Option (List IpAddr))
    (persistentKeepalive : Nat) (routes : List WireGuardPeerRouteRecord) (createdAt : Int) :
    Except String WireGuardPeerProfileRecord := do
  let dnsServers ← dnsServers.mapM normalizedDns
  ensure (routes.length ≤ 64) "每个 WireGuard Peer 最多配置 64 条局域网路由"
  checkRoutes network gateway [] routes
  .ok { networkCode, peerId, dnsServers, persistentKeepalive, routes := sort routes
        configAvailable := false, createdAt, updatedAt := now }

end

/-- The order of the routes: longer prefixes first, then by the address. -/
def RouteLe (a b : WireGuardPeerRouteRecord) : Prop :=
  b.lanNetwork.prefixLen < a.lanNetwork.prefixLen ∨
    b.lanNetwork.prefixLen = a.lanNetwork.prefixLen ∧
      a.lanNetwork.network.toNat ≤ b.lanNetwork.network.toNat

instance : DecidableRel RouteLe := fun _ _ => inferInstanceAs (Decidable (_ ∨ _ ∧ _))

/-- What is known of `sort_unstable_by_key`: routes with equal keys may change places. -/
structure SortsRoutes (sort : List WireGuardPeerRouteRecord → List WireGuardPeerRouteRecord) :
    Prop where
  perm : ∀ routes, (sort routes).Perm routes
  sorted : ∀ routes, (sort routes).Pairwise RouteLe

/-- Routes that pass the checks. -/
structure AcceptedRoutes (network : Ipv4Net) (gateway : Ipv4Addr)
    (routes : List WireGuardPeerRouteRecord) : Prop where
  apart : ∀ r ∈ routes, ∀ ip, ¬ (network.contains ip = true ∧ r.lanNetwork.contains ip = true)
  client : ∀ r ∈ routes, isClientIp network gateway r.vntCliIp = true
  nodup : (routes.map (·.lanNetwork)).Nodup

section
variable {network : Ipv4Net} {gateway : Ipv4Addr} {routes : List WireGuardPeerRouteRecord}

theorem checkRoutes_ok {seen : List Ipv4Net} {u : Unit} :
    checkRoutes network gateway seen routes = .ok u ↔
      AcceptedRoutes network gateway routes ∧ ∀ r ∈ routes, r.lanNetwork ∉ seen := by
  induction routes generalizing seen with
  | nil => exact iff_of_true rfl ⟨⟨nofun, nofun, .nil⟩, nofun⟩
  | cons route routes ih =>
    have hapart : (¬ network.contains route.lanNetwork.network = true ∧
        ¬ route.lanNetwork.contains network.network = true) ↔
        ∀ ip, ¬ (network.contains ip = true ∧ route.lanNetwork.contains ip = true) := by
      rw [← not_exists, Ipv4Net.overlap_iff, not_or]
    simp only [checkRoutes, bind_eq_ok, ensure_ok, ih, ← Bool.not_eq_true, hapart,
      List.contains_iff_mem]
    constructor
    · rintro ⟨-, ha, -, hc, -, hs, h, hseen⟩
      refine ⟨⟨List.forall_mem_cons.mpr ⟨ha, h.apart⟩, List.forall_mem_cons.mpr ⟨hc, h.client⟩, ?_⟩,
        List.forall_mem_cons.mpr ⟨hs, fun r hr hm => hseen r hr (List.mem_cons_of_mem _ hm)⟩⟩
      refine List.nodup_cons.mpr ⟨fun hm => ?_, h.nodup⟩
      obtain ⟨r, hr, he⟩ := List.mem_map.mp hm
      exact hseen r hr (he ▸ List.mem_cons_self)
    · rintro ⟨h, hseen⟩
      obtain ⟨ha, hapart⟩ := List.forall_mem_cons.mp h.apart
      obtain ⟨hc, hclient⟩ := List.forall_mem_cons.mp h.client
      obtain ⟨hs, hseen⟩ := List.forall_mem_cons.mp hseen
      obtain ⟨hne, hnodup⟩ := List.nodup_cons.mp h.nodup
      refine ⟨(), ha, (), hc, (), hs, ⟨hapart, hclient, hnodup⟩, fun r hr hm => ?_⟩
      rcases List.mem_cons.mp hm with he | hm
      · exact hne (List.mem_map.mpr ⟨r, hr, he⟩)
      · exact hseen r hr hm

theorem AcceptedRoutes.perm {routes' : List WireGuardPeerRouteRecord}
    (h : AcceptedRoutes network gateway routes) (hp : routes'.Perm routes) :
    AcceptedRoutes network gateway routes' :=
  ⟨fun r hr => h.apart r (hp.mem_iff.mp hr), fun r hr => h.client r (hp.mem_iff.mp hr),
    (hp.map _).nodup_iff.mpr h.nodup⟩

variable {sort : List WireGuardPeerRouteRecord → List WireGuardPeerRouteRecord} {now : Int}
  {networkCode peerId : String} {dnsServers : Option (List IpAddr)} {persistentKeepalive : Nat}
  {createdAt : Int} {profile : WireGuardPeerProfileRecord}

/-- What is accepted, and what becomes of it. -/
theorem normalizedProfile_ok
    (h : normalizedProfile network gateway sort now networkCode peerId dnsServers
      persistentKeepalive routes createdAt = .ok profile) :
    AcceptedRoutes network gateway routes ∧ profile.routes = sort routes := by
  obtain ⟨_, -, h⟩ := bind_eq_ok.mp h
  obtain ⟨_, -, h⟩ := bind_eq_ok.mp h
  obtain ⟨_, hc, h⟩ := bind_eq_ok.mp h
  cases h
  exact ⟨(checkRoutes_ok.mp hc).1, rfl⟩

end

/-! ## Stored routes -/

/-- A row of `wireguard_peer_routes`. -/
structure PeerRouteRow where
  networkCode : String
  peerId : String
  lanNetwork : String
  vntCliIp : String
  sortOrder : Nat
  deriving DecidableEq

namespace PeerRouteRow

def isOf (networkCode peerId : String) (r : PeerRouteRow) : Bool :=
  r.networkCode == networkCode && r.peerId == peerId

/-- The primary key. -/
def clash (r x : PeerRouteRow) : Bool :=
  r.isOf x.networkCode x.peerId && r.lanNetwork == x.lanNetwork

theorem clash_iff {r x : PeerRouteRow} : r.clash x = true ↔
    r.networkCode = x.networkCode ∧ r.peerId = x.peerId ∧ r.lanNetwork = x.lanNetwork := by
  simp [clash, isOf, and_assoc]

theorem clash_comm (r x : PeerRouteRow) : r.clash x = x.clash r := by
  rw [Bool.eq_iff_iff, clash_iff, clash_iff, eq_comm, @eq_comm _ r.peerId, @eq_comm _ r.lanNetwork]

/-- `ORDER BY sort_order, lan_network`. -/
def Le (a b : PeerRouteRow) : Prop :=
  a.sortOrder < b.sortOrder ∨ a.sortOrder = b.sortOrder ∧ a.lanNetwork ≤ b.lanNetwork

instance : DecidableRel Le := fun _ _ => inferInstanceAs (Decidable (_ ∨ _ ∧ _))

end PeerRouteRow

def wireguardPeerRoutes : Schema PeerRouteRow where
  check _ := true
  clash := PeerRouteRow.clash
  clash_comm := PeerRouteRow.clash_comm

section
variable (t : Table wireguardPeerRoutes)

def routeRow (profile : WireGuardPeerProfileRecord) (sortOrder : Nat)
    (route : WireGuardPeerRouteRecord) : PeerRouteRow :=
  ⟨profile.networkCode, profile.peerId, route.lanNetwork.toText, route.vntCliIp.toText, sortOrder⟩

/-- The part of `save_wireguard_peer_profile` about the routes. -/
def saveRoutes (profile : WireGuardPeerProfileRecord) : Option (Table wireguardPeerRoutes) :=
  (t.delete (PeerRouteRow.isOf profile.networkCode profile.peerId)).insertAll
    (profile.routes.mapIdx (routeRow profile))

variable (parseNet : String → Option Ipv4Net) (networkCode peerId : String)

def readRoute (row : PeerRouteRow) : Option WireGuardPeerRouteRecord :=
  (parseNet row.lanNetwork).bind fun lanNetwork =>
    (Ipv4Addr.parse row.vntCliIp).map fun vntCliIp => ⟨lanNetwork, vntCliIp⟩

/-- The part of `load_wireguard_peer_profile` about the routes. -/
def loadRoutes : Option (List WireGuardPeerRouteRecord) :=
  ((t.rows.filter (PeerRouteRow.isOf networkCode peerId)).insertionSort PeerRouteRow.Le).mapM
    (readRoute parseNet)

/-- The part of `load_wireguard_runtime_peer` about the routes. -/
def loadRuntimeRoutes : Option (List WireGuardPeerRouteRecord) :=
  (loadRoutes t parseNet networkCode peerId).map
    (·.insertionSort fun a b => b.lanNetwork.prefixLen ≤ a.lanNetwork.prefixLen)

end

section
variable {t : Table wireguardPeerRoutes} {parseNet : String → Option Ipv4Net}
  {profile : WireGuardPeerProfileRecord}

theorem pairwise_mapIdx_routeRow (hn : (profile.routes.map (·.lanNetwork)).Nodup) :
    (profile.routes.mapIdx (routeRow profile)).Pairwise fun a b => a.Le b ∧ a.clash b = false := by
  rw [List.pairwise_iff_getElem]
  intro i j hi hj hij
  rw [List.getElem_mapIdx, List.getElem_mapIdx]
  refine ⟨.inl hij, ?_⟩
  rw [← Bool.not_eq_true, PeerRouteRow.clash_iff]
  rintro ⟨-, -, hnet⟩
  have hne := List.pairwise_iff_getElem.mp hn i j (by simpa using hi) (by simpa using hj) hij
  rw [List.getElem_map, List.getElem_map] at hne
  exact hne (Ipv4Net.toText_injective hnet)

theorem readRoute_routeRow (hparse : ∀ net : Ipv4Net, parseNet net.toText = some net) (i : Nat)
    (route : WireGuardPeerRouteRecord) :
    readRoute parseNet (routeRow profile i route) = some route := by
  simp only [readRoute, routeRow, hparse, Ipv4Addr.parse_toText, Option.bind_some, Option.map_some]

/-- **The routes are loaded as they were saved**, by both functions that load them. -/
theorem loadRuntimeRoutes_saveRoutes (hparse : ∀ net : Ipv4Net, parseNet net.toText = some net)
    (hn : (profile.routes.map (·.lanNetwork)).Nodup) (hs : profile.routes.Pairwise RouteLe) :
    ∃ t', saveRoutes t profile = some t' ∧
      loadRoutes t' parseNet profile.networkCode profile.peerId = some profile.routes ∧
      loadRuntimeRoutes t' parseNet profile.networkCode profile.peerId = some profile.routes := by
  have hrows := pairwise_mapIdx_routeRow hn
  have hof : ∀ r ∈ profile.routes.mapIdx (routeRow profile),
      r.isOf profile.networkCode profile.peerId = true := by
    intro r hr
    obtain ⟨i, hi, rfl⟩ := List.mem_mapIdx.mp hr
    simp [PeerRouteRow.isOf, routeRow]
  -- The rows of the peer before are gone, so no new row has the key of an old one.
  obtain ⟨t', ht'⟩ : ∃ t', saveRoutes t profile = some t' := by
    refine Option.isSome_iff_exists.mp (Table.insertAll_isSome.mpr ⟨fun _ _ => rfl, ?_⟩)
    refine List.pairwise_append.mpr ⟨(Table.valid _).2, hrows.imp And.right, fun a ha b hb => ?_⟩
    have hna := (Table.mem_delete.mp ha).2
    show a.clash b = false
    rw [← Bool.not_eq_true, PeerRouteRow.clash_iff]
    rintro ⟨hnetwork, hpeer, -⟩
    have hb := hof b hb
    simp only [PeerRouteRow.isOf, ← hnetwork, ← hpeer] at hb hna
    rw [hb] at hna
    cases hna
  have hload : loadRoutes t' parseNet profile.networkCode profile.peerId = some profile.routes := by
    have hfilter : t'.rows.filter (PeerRouteRow.isOf profile.networkCode profile.peerId) =
        profile.routes.mapIdx (routeRow profile) := by
      rw [Table.insertAll_eq_some.mp ht', List.filter_append, List.filter_eq_self.mpr hof,
        List.filter_eq_nil_iff.mpr, List.nil_append]
      intro r hr
      rw [(Table.mem_delete.mp hr).2]
      decide
    rw [loadRoutes, hfilter, List.Pairwise.insertionSort_eq (hrows.imp And.left), mapM_eq_some]
    refine List.forall₂_iff_get.mpr ⟨List.length_mapIdx, fun i hi hi' => ?_⟩
    rw [List.get_eq_getElem, List.getElem_mapIdx]
    exact readRoute_routeRow hparse i _
  refine ⟨t', ht', hload, ?_⟩
  rw [loadRuntimeRoutes, hload, Option.map_some, List.Pairwise.insertionSort_eq]
  exact hs.imp fun h => h.elim (·.le) (·.1.le)

end

/-! ## Lookups -/

/-- The lookup has one answer, which does not depend on the order of the routes and is the same
after they were stored; and no route leads into the virtual network. -/
structure Unambiguous (network : Ipv4Net) (parseNet : String → Option Ipv4Net)
    (profile : WireGuardPeerProfileRecord) : Prop where
  unique : ∀ destination a b, LongestMatch profile.routes destination a →
    LongestMatch profile.routes destination b → a = b
  lookup : ∀ destination r, longestPrefixRoute profile.routes destination = some r ↔
    LongestMatch profile.routes destination r
  order : ∀ routes, routes.Perm profile.routes → ∀ destination,
    longestPrefixRoute routes destination = longestPrefixRoute profile.routes destination
  stored : ∀ t, ∃ t' routes, saveRoutes t profile = some t' ∧
    loadRuntimeRoutes t' parseNet profile.networkCode profile.peerId = some routes ∧
    ∀ destination,
      longestPrefixRoute routes destination = longestPrefixRoute profile.routes destination
  apart : ∀ r ∈ profile.routes, ∀ ip,
    ¬ (network.contains ip = true ∧ r.lanNetwork.contains ip = true)

/-- Two routes for the same addresses, written with different host bits. -/
structure Twins (a b : WireGuardPeerRouteRecord) : Prop where
  prefixLen : a.lanNetwork.prefixLen = b.lanNetwork.prefixLen
  network : a.lanNetwork.network = b.lanNetwork.network
  addr : a.lanNetwork.addr ≠ b.lanNetwork.addr

/-- Two routes are twins, and to one of their addresses no route has a longer prefix. -/
def HasTwins (routes : List WireGuardPeerRouteRecord) : Prop :=
  ∃ destination a b, LongestMatch routes destination a ∧ b ∈ routes ∧ Twins a b

section
variable {network : Ipv4Net} {gateway : Ipv4Addr} {routes : List WireGuardPeerRouteRecord}

variable {destination : Ipv4Addr} {r : WireGuardPeerRouteRecord}

theorem LongestMatch.perm {routes' : List WireGuardPeerRouteRecord}
    (h : LongestMatch routes destination r)
    (hp : routes.Perm routes') : LongestMatch routes' destination r :=
  ⟨hp.mem_iff.mp h.mem, h.contains, fun r' hr' => h.longest r' (hp.mem_iff.mpr hr')⟩

theorem exists_longestPrefixRoute (h : LongestMatch routes destination r) :
    ∃ r', longestPrefixRoute routes destination = some r' :=
  Option.ne_none_iff_exists'.mp fun hn => longestPrefixRoute_eq_none.mp hn r h.mem h.contains

/-- The longest matches of an address are the same network. -/
theorem LongestMatch.range_eq {a b : WireGuardPeerRouteRecord}
    (ha : LongestMatch routes destination a) (hb : LongestMatch routes destination b) :
    a.lanNetwork.prefixLen = b.lanNetwork.prefixLen ∧ a.lanNetwork.range = b.lanNetwork.range := by
  have hp : a.lanNetwork.prefixLen = b.lanNetwork.prefixLen :=
    Nat.le_antisymm (hb.longest a ha.mem ha.contains) (ha.longest b hb.mem hb.contains)
  exact ⟨hp, Ipv4Net.range_eq_of_contains hp ha.contains hb.contains⟩

theorem AcceptedRoutes.unique_iff (h : AcceptedRoutes network gateway routes) :
    (∀ destination a b, LongestMatch routes destination a → LongestMatch routes destination b →
      a = b) ↔ ¬ HasTwins routes := by
  constructor
  · rintro hu ⟨destination, a, b, ha, hb, ht⟩
    have hrange := (Ipv4Net.range_eq_iff b.lanNetwork ht.prefixLen).mpr ht.network
    have hb' : LongestMatch routes destination b :=
      ⟨hb, Ipv4Net.contains_eq_of_range hrange destination ▸ ha.contains,
        fun r hr hc => ht.prefixLen ▸ ha.longest r hr hc⟩
    exact ht.addr (hu destination a b ha hb' ▸ rfl)
  · intro hno destination a b ha hb
    obtain ⟨hp, hrange⟩ := ha.range_eq hb
    by_contra hne
    refine hno ⟨destination, a, b, ha, hb.mem, hp, congrArg Prod.fst hrange, fun haddr => hne ?_⟩
    refine List.inj_on_of_nodup_map h.nodup ha.mem hb.mem ?_
    obtain ⟨⟨_, _, _⟩, _⟩ := a
    obtain ⟨⟨_, _, _⟩, _⟩ := b
    cases hp
    cases haddr
    rfl

/-- If the longest match is unique, it is found in every order. -/
theorem longestPrefixRoute_eq_some_of_unique {routes' : List WireGuardPeerRouteRecord}
    (hu : ∀ destination a b, LongestMatch routes destination a →
      LongestMatch routes destination b → a = b) (hp : routes'.Perm routes) :
    longestPrefixRoute routes' destination = some r ↔ LongestMatch routes destination r := by
  constructor
  · exact fun h => (longestMatch_of_some h).perm hp
  · intro h
    obtain ⟨r', hr'⟩ := exists_longestPrefixRoute (h.perm hp.symm)
    rw [hr', hu destination r' r ((longestMatch_of_some hr').perm hp) h]

variable {sort : List WireGuardPeerRouteRecord → List WireGuardPeerRouteRecord}
  {parseNet : String → Option Ipv4Net} {now : Int} {networkCode peerId : String}
  {dnsServers : Option (List IpAddr)} {persistentKeepalive : Nat} {createdAt : Int}
  {profile : WireGuardPeerProfileRecord}

/-- **The routes of an accepted profile have one answer for each address**, unless some are
twins. -/
theorem unambiguous_iff (hsort : SortsRoutes sort)
    (hparse : ∀ net : Ipv4Net, parseNet net.toText = some net)
    (h : normalizedProfile network gateway sort now networkCode peerId dnsServers
      persistentKeepalive routes createdAt = .ok profile) :
    Unambiguous network parseNet profile ↔ ¬ HasTwins routes := by
  obtain ⟨haccepted, hroutes⟩ := normalizedProfile_ok h
  have hp : profile.routes.Perm routes := hroutes ▸ hsort.perm routes
  have hs : profile.routes.Pairwise RouteLe := hroutes ▸ hsort.sorted routes
  have hprofile := haccepted.perm hp
  rw [← haccepted.unique_iff]
  constructor
  · intro hu destination a b ha hb
    exact hu.unique destination a b (ha.perm hp.symm) (hb.perm hp.symm)
  · intro hu
    have hu' : ∀ destination a b, LongestMatch profile.routes destination a →
        LongestMatch profile.routes destination b → a = b := fun destination a b ha hb =>
      hu destination a b (ha.perm hp) (hb.perm hp)
    refine ⟨hu', ?_, ?_, ?_, hprofile.apart⟩
    · exact fun _ _ => longestPrefixRoute_eq_some_of_unique hu' (.refl _)
    · intro routes' hp' destination
      refine Option.ext fun r => ?_
      rw [longestPrefixRoute_eq_some_of_unique hu' hp',
        longestPrefixRoute_eq_some_of_unique hu' (.refl _)]
    · intro t
      obtain ⟨t', hsave, -, hload⟩ := loadRuntimeRoutes_saveRoutes (t := t) hparse
        hprofile.nodup hs
      exact ⟨t', profile.routes, hsave, hload, fun _ => rfl⟩

end

theorem sortsRoutes_insertionSort : SortsRoutes (List.insertionSort RouteLe) := by
  have : Std.Total RouteLe := ⟨fun a b => by unfold RouteLe; omega⟩
  have : IsTrans WireGuardPeerRouteRecord RouteLe := ⟨fun a b c => by unfold RouteLe; omega⟩
  exact ⟨List.perm_insertionSort RouteLe, List.pairwise_insertionSort RouteLe⟩

def nestedRoutes : List WireGuardPeerRouteRecord :=
  [⟨⟨Ipv4Addr.new 192 168 0 0, 16, by decide⟩, homeIp 10⟩,
    ⟨{ defaultNet with addr := Ipv4Addr.new 192 168 10 0 },
      homeIp 11⟩]

def twinRoutes : List WireGuardPeerRouteRecord :=
  [⟨{ defaultNet with addr := Ipv4Addr.new 192 168 10 0 },
      homeIp 10⟩,
    ⟨{ defaultNet with addr := Ipv4Addr.new 192 168 10 1 },
      homeIp 11⟩]

/-- A profile of a peer in `10.26.0.0/24`. -/
def exampleProfile (routes : List WireGuardPeerRouteRecord) :
    Except String WireGuardPeerProfileRecord :=
  normalizedProfile defaultNet (homeIp 1)
    (List.insertionSort RouteLe) 0 "office" "phone" none 25 routes 0

theorem unambiguous_iff_nested : ∃ profile, exampleProfile nestedRoutes = .ok profile ∧
    profile.routes = nestedRoutes.reverse ∧
    Unambiguous defaultNet (Function.partialInv Ipv4Net.toText) profile := by
  refine ⟨⟨"office", "phone", none, 25, nestedRoutes.reverse, false, 0, 0⟩, by decide +kernel, rfl,
    (unambiguous_iff sortsRoutes_insertionSort
      (Function.partialInv_left Ipv4Net.toText_injective)
      (show exampleProfile nestedRoutes = .ok _ by decide +kernel)).mpr ?_⟩
  rintro ⟨_, a, b, ha, hb, ht⟩
  have hno : ∀ a ∈ nestedRoutes, ∀ b ∈ nestedRoutes,
      a.lanNetwork.prefixLen = b.lanNetwork.prefixLen → a.lanNetwork.addr = b.lanNetwork.addr := by
    decide
  exact ht.addr (hno a ha.mem b hb ht.prefixLen)

/-- The two routes are accepted, and the one that comes last counts. -/
theorem twinRoutes_ambiguous :
    exampleProfile twinRoutes = .ok ⟨"office", "phone", none, 25, twinRoutes, false, 0, 0⟩ ∧
      longestPrefixRoute twinRoutes (Ipv4Addr.new 192 168 10 7) = twinRoutes[1]? ∧
      longestPrefixRoute twinRoutes.reverse (Ipv4Addr.new 192 168 10 7) = twinRoutes[0]? ∧
      ∀ parseNet, ¬ Unambiguous defaultNet parseNet
        ⟨"office", "phone", none, 25, twinRoutes, false, 0, 0⟩ := by
  have hlast : longestPrefixRoute twinRoutes (Ipv4Addr.new 192 168 10 7) = twinRoutes[1]? := by
    decide +kernel
  have hfirst : longestPrefixRoute twinRoutes.reverse (Ipv4Addr.new 192 168 10 7) =
      twinRoutes[0]? := by
    decide +kernel
  refine ⟨by decide +kernel, hlast, hfirst, fun parseNet h => ?_⟩
  have horder := h.order twinRoutes.reverse twinRoutes.reverse_perm (Ipv4Addr.new 192 168 10 7)
  revert horder
  decide

end Vntc
