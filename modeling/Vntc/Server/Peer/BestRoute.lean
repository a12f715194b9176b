import Mathlib.Data.List.MinMax
import Vntc.Server.Peer.Routes

/-!
# The fastest route

`handle_ping_response`, `find_best_route` and `forward_with_best_route` of `server/peer_server.rs`.
The latency of a link is half of a round trip, cut to 32 bits, and the total latency of a route is a
sum of 32 bits. So a slow route can count as the fastest one.
-/

namespace Vntc

open Lib

def defaultClientLatencyMs : BitVec 32 := 10

/-- What the server knows about the target itself: the latency in its device entry, and whether
there is a sender for it. -/
structure LocalClient where
  latencyMs : Option (BitVec 32)
  hasClient : Bool

/-- Half of the round trip of a ping, which takes no negative time. -/
def oneWay (now requestTimestamp : BitVec 64) : Nat := (now.toNat - requestTimestamp.toNat) / 2

namespace RouteState

variable (s : RouteState) (connected : Nat → Bool)

def handlePingResponse (peer : Nat) (now requestTimestamp : BitVec 64) : RouteState :=
  s.updateLatency peer (BitVec.ofNat 32 (oneWay now requestTimestamp))

/-- The loop body of `find_best_route`. -/
def better (best : Option (Nat × BitVec 32)) (route : IpRouteInfo) : Option (Nat × BitVec 32) :=
  if connected route.peer = false then best
  else
    match best with
    | none => some (route.peer, route.totalLatency s.links)
    | some (_, current) =>
      if route.totalLatency s.links < current then some (route.peer, route.totalLatency s.links)
      else best

/-- The best link, the total latency over it and the latency of the client here. -/
def findBestRoute (client : LocalClient) (networkCode : String) (targetIp : Ipv4Addr) :
    Option (Nat × BitVec 32 × Option (BitVec 32)) :=
  ((s.routesAt networkCode targetIp).foldl (s.better connected) none).map fun best =>
    (best.1, best.2, client.latencyMs)

/-- The link that a packet is sent over, if it is. -/
def forwardWithBestRoute (client : LocalClient) (networkCode : String) (targetIp : Ipv4Addr) :
    Option Nat :=
  match s.findBestRoute connected client networkCode targetIp with
  | none => none
  | some (peer, remoteLatency, localLatency) =>
    let shouldForward := match localLatency with
      | some localLat => decide (remoteLatency < localLat)
      | none => !client.hasClient || decide (remoteLatency < defaultClientLatencyMs)
    if shouldForward then some peer else none

/-- The links take the times `oneWayMs`, of which they have 32 bits. -/
def Measured (oneWayMs : Nat → Nat) : Prop :=
  ∀ peer, (s.links peer).latencyMs = BitVec.ofNat 32 (oneWayMs peer)

/-- The routes of a target over the connected links. -/
def connectedRoutes (networkCode : String) (targetIp : Ipv4Addr) : List IpRouteInfo :=
  (s.routesAt networkCode targetIp).filter fun r => connected r.peer

/-- The first of these routes with the smallest sum of 32 bits. -/
def leastRoute (networkCode : String) (targetIp : Ipv4Addr) : Option IpRouteInfo :=
  (s.connectedRoutes connected networkCode targetIp).argmin fun r =>
    (r.totalLatency s.links).toNat

/-- The time of a route, if the links take the times `oneWayMs`. -/
def trueLatency (oneWayMs : Nat → Nat) (r : IpRouteInfo) : Nat :=
  oneWayMs r.peer + r.clientLatencyMs.toNat + 2

/-- The route that is found is the fastest one, and is taken only if it is faster than the client
here. -/
structure BestRoute (oneWayMs : Nat → Nat) (client : LocalClient) (networkCode : String)
    (targetIp : Ipv4Addr) : Prop where
  none_iff : s.findBestRoute connected client networkCode targetIp = none ↔
    s.connectedRoutes connected networkCode targetIp = []
  best : ∀ peer total localLatency,
    s.findBestRoute connected client networkCode targetIp = some (peer, total, localLatency) →
      ∃ r ∈ s.connectedRoutes connected networkCode targetIp, r.peer = peer ∧
        total.toNat = trueLatency oneWayMs r ∧
        ∀ r' ∈ s.connectedRoutes connected networkCode targetIp,
          trueLatency oneWayMs r ≤ trueLatency oneWayMs r'
  forward : ∀ peer, s.forwardWithBestRoute connected client networkCode targetIp = some peer →
    ∃ r ∈ s.connectedRoutes connected networkCode targetIp, r.peer = peer ∧
      (∀ l, client.latencyMs = some l → trueLatency oneWayMs r < l.toNat) ∧
      (client.latencyMs = none → client.hasClient = true →
        trueLatency oneWayMs r < defaultClientLatencyMs.toNat)

variable {s connected} {client : LocalClient} {networkCode : String} {targetIp : Ipv4Addr}

theorem Measured.ping {oneWayMs : Nat → Nat} (h : s.Measured oneWayMs) (peer : Nat)
    (now requestTimestamp : BitVec 64) :
    (s.handlePingResponse peer now requestTimestamp).Measured
      (Function.update oneWayMs peer (oneWay now requestTimestamp)) := by
  intro p
  by_cases hp : p = peer
  · subst hp
    simp [handlePingResponse, updateLatency]
  · simp [handlePingResponse, updateLatency, hp, h p]

/-- The loop is the search for a route with the smallest total latency among the connected ones. -/
theorem foldl_better (l : List IpRouteInfo) (best : Option IpRouteInfo) :
    l.foldl (s.better connected) (best.map fun r => (r.peer, r.totalLatency s.links)) =
      ((l.filter fun r => connected r.peer).foldl (List.argAux fun b c =>
        (b.totalLatency s.links).toNat < (c.totalLatency s.links).toNat) best).map fun r =>
          (r.peer, r.totalLatency s.links) := by
  induction l generalizing best with
  | nil => rfl
  | cons r l ih =>
    cases hc : connected r.peer with
    | false => simp [better, hc, ih]
    | true =>
      simp only [List.filter_cons, hc, if_true, List.foldl_cons, ← ih]
      congr 1
      cases best <;> grind [better, List.argAux, BitVec.lt_def]

/-- The loop finds the first connected route with the smallest sum. -/
theorem findBestRoute_eq : s.findBestRoute connected client networkCode targetIp =
    (s.leastRoute connected networkCode targetIp).map fun r =>
      (r.peer, r.totalLatency s.links, client.latencyMs) := by
  unfold findBestRoute leastRoute List.argmin connectedRoutes
  rw [show (none : Option (Nat × BitVec 32)) =
    (none : Option IpRouteInfo).map fun r => (r.peer, r.totalLatency s.links) from rfl,
    foldl_better, Option.map_map]
  rfl

/-- The total latency is the time of the route, cut to 32 bits. -/
theorem Measured.toNat_totalLatency {oneWayMs : Nat → Nat} (h : s.Measured oneWayMs)
    (r : IpRouteInfo) :
    (r.totalLatency s.links).toNat = trueLatency oneWayMs r % 4294967296 := by
  simp only [IpRouteInfo.totalLatency, trueLatency, h r.peer, BitVec.toNat_add, BitVec.toNat_ofNat]
  show (_ + 2) % _ = _
  omega

theorem findBestRoute_eq_some {peer : Nat} {total : BitVec 32} {localLatency : Option (BitVec 32)} :
    s.findBestRoute connected client networkCode targetIp = some (peer, total, localLatency) ↔
      ∃ r ∈ s.leastRoute connected networkCode targetIp,
        r.peer = peer ∧ r.totalLatency s.links = total ∧ client.latencyMs = localLatency := by
  rw [findBestRoute_eq, Option.map_eq_some_iff]
  simp only [Prod.mk.injEq, Option.mem_def]

/-- A packet is sent over the best route, and only if this is faster than the client here. -/
theorem forwardWithBestRoute_eq_some {peer : Nat}
    (h : s.forwardWithBestRoute connected client networkCode targetIp = some peer) :
    ∃ r ∈ s.leastRoute connected networkCode targetIp, r.peer = peer ∧
      (∀ l, client.latencyMs = some l → (r.totalLatency s.links).toNat < l.toNat) ∧
      (client.latencyMs = none → client.hasClient = true →
        (r.totalLatency s.links).toNat < defaultClientLatencyMs.toNat) := by
  rw [forwardWithBestRoute, findBestRoute_eq] at h
  cases hr : s.leastRoute connected networkCode targetIp with
  | none => simp [hr] at h
  | some r =>
    refine ⟨r, rfl, ?_⟩
    cases hl : client.latencyMs <;> cases hc : client.hasClient <;> simp_all [BitVec.lt_def]

/-- **The best route.** With at most one route for each link, the fastest one is found, and is taken
only if it is faster than the client here, iff the route with the least sum of 32 bits takes less than
`2 ^ 32` milliseconds. -/
theorem bestRoute_iff {oneWayMs : Nat → Nat} (hlinks : s.Measured oneWayMs)
    (hone : ((s.connectedRoutes connected networkCode targetIp).map (·.peer)).Nodup) :
    s.BestRoute connected oneWayMs client networkCode targetIp ↔
      ∀ r ∈ s.leastRoute connected networkCode targetIp, trueLatency oneWayMs r < 4294967296 := by
  have hcut := hlinks.toNat_totalLatency
  constructor
  · intro h r hr
    obtain ⟨r', hm', hpeer, htotal, -⟩ := h.best r.peer (r.totalLatency s.links) client.latencyMs
      (findBestRoute_eq_some.mpr ⟨r, hr, rfl, rfl, rfl⟩)
    obtain rfl := List.inj_on_of_nodup_map hone hm' (List.argmin_mem hr) hpeer
    exact htotal ▸ BitVec.isLt _
  · intro hfits
    -- Cutting makes no sum larger, so a sum that is not cut is the smallest of all.
    have hbest : ∀ r ∈ s.leastRoute connected networkCode targetIp,
        (r.totalLatency s.links).toNat = trueLatency oneWayMs r ∧
          ∀ r' ∈ s.connectedRoutes connected networkCode targetIp,
            trueLatency oneWayMs r ≤ trueLatency oneWayMs r' := by
      intro r hr
      have htotal : (r.totalLatency s.links).toNat = trueLatency oneWayMs r := by
        rw [hcut, Nat.mod_eq_of_lt (hfits r hr)]
      refine ⟨htotal, fun r' hr' => ?_⟩
      have hle := List.le_of_mem_argmin hr' hr
      rw [htotal, hcut r'] at hle
      exact hle.trans (Nat.mod_le _ _)
    refine ⟨by simp [findBestRoute_eq, leastRoute], fun peer total localLatency hf => ?_, fun peer hf => ?_⟩
    · obtain ⟨r, hr, rfl, rfl, -⟩ := findBestRoute_eq_some.mp hf
      exact ⟨r, List.argmin_mem hr, rfl, hbest r hr⟩
    · obtain ⟨r, hr, rfl, hlocal, hdefault⟩ := forwardWithBestRoute_eq_some hf
      rw [(hbest r hr).1] at hlocal hdefault
      exact ⟨r, List.argmin_mem hr, rfl, hlocal, hdefault⟩

/-- A server with two links, over which two other servers have listed `10.26.0.9`. -/
def twoRoutes (first second : BitVec 32) : RouteState :=
  ([.response 0 [⟨"home", [⟨homeIp 9, first, false⟩]⟩],
    .response 1 [⟨"home", [⟨homeIp 9, second, false⟩]⟩]].foldl apply
    ⟨fun _ => ⟨"", 0, 3⟩, fun _ => ∅, ∅, ∅⟩)

theorem twoRoutes_measured (first second : BitVec 32) :
    (twoRoutes first second).Measured fun _ => 3 := fun _ => rfl

/-- The first route is cut to 1001 milliseconds, and is not taken. -/
theorem bestRoute_iff_slow_first :
    (((twoRoutes 4294967295 20).handlePingResponse 0 2000 0).findBestRoute (fun _ => true)
        ⟨some 30, true⟩ "home" (homeIp 9) = some (1, 25, some 30)) ∧
      ((twoRoutes 4294967295 20).handlePingResponse 0 2000 0).BestRoute (fun _ => true)
        (Function.update (fun _ => 3) 0 (oneWay 2000 0)) ⟨some 30, true⟩ "home"
        (homeIp 9) :=
  ⟨by decide, (bestRoute_iff (Measured.ping (twoRoutes_measured _ _) _ _ _) (by decide)).mpr
    (by decide)⟩

/-- A latency of `2 ^ 32 - 1` milliseconds that another server reports counts as 4, and so does one
of `2 ^ 32` that a ping measures: the slower route is found, and preferred to the client here. -/
theorem slow_route_preferred :
    ((twoRoutes 4294967295 20).forwardWithBestRoute (fun _ => true) ⟨some 30, true⟩ "home"
        (homeIp 9) = some 0 ∧
      ¬ (twoRoutes 4294967295 20).BestRoute (fun _ => true) (fun _ => 3) ⟨some 30, true⟩ "home"
        (homeIp 9)) ∧
      ((twoRoutes 2 20).handlePingResponse 0 8589934592 0).forwardWithBestRoute (fun _ => true)
        ⟨some 30, true⟩ "home" (homeIp 9) = some 0 ∧
      ¬ ((twoRoutes 2 20).handlePingResponse 0 8589934592 0).BestRoute (fun _ => true)
        (Function.update (fun _ => 3) 0 (oneWay 8589934592 0)) ⟨some 30, true⟩ "home"
        (homeIp 9) := by
  refine ⟨⟨by decide, fun h => ?_⟩, by decide, fun h => ?_⟩
  · obtain ⟨r, -, -, ht, -⟩ := h.best 0 4 (some 30) (by decide)
    have htrue : 4 = 3 + r.clientLatencyMs.toNat + 2 := ht
    omega
  · obtain ⟨r, -, hp, ht, -⟩ := h.best 0 4 (some 30) (by decide)
    simp only [trueLatency, hp, Function.update_self] at ht
    have htrue : 4 = 4294967296 + r.clientLatencyMs.toNat + 2 := ht
    omega

end RouteState

end Vntc
