import Vntc.Server.Lease.Reserve

/-!
# Which addresses are handed out

The search hands out hosts of the network only: it starts after the network address, ends before
the broadcast address and skips the gateway. The other two ways to an address check less:

* a device keeps the address of its row, also one of another network (`build_initial_inner_state`
  leaves such an address out of the index, but in the device's entry);
* a requested address is checked with `Ipv4Net::contains`, which the network address and the
  broadcast address pass; so is the address of a WireGuard reservation.

`RegisterHost` and `ReserveHost` are what a request and the state must satisfy for the address to
be a host, and `handed_out_hosts` says that this is exact. `hosts_of_reachWith` is the result for
runs: from rows with hosts, requests for hosts lead to hosts only.
-/

namespace Vntc

open Lib

/-- A host of the network other than the gateway. -/
def HostIp (net : Ipv4Net) (gateway ip : Ipv4Addr) : Prop := net.IsHost ip ∧ ip ≠ gateway

instance (net : Ipv4Net) (gateway ip : Ipv4Addr) : Decidable (HostIp net gateway ip) :=
  inferInstanceAs (Decidable (_ ∧ _))

namespace NetworkStateInner

variable (net : Ipv4Net) (gateway : Ipv4Addr) (s : NetworkStateInner)

/-- The first or the last address of the network. -/
def EdgeIp (ip : Ipv4Addr) : Prop := ip = net.network ∨ ip = net.broadcast

instance (ip : Ipv4Addr) : Decidable (EdgeIp net ip) := inferInstanceAs (Decidable (_ ∨ _))

/-- The registration keeps no address but a host, and does not ask for a free edge address. -/
def RegisterHost (req : RegRequestMsg) : Prop :=
  (∀ ip, s.Keeps req ip → HostIp net gateway ip) ∧
  ∀ ip, req.ip = some ip → s.leaseOf req.deviceId ≠ some ip → EdgeIp net ip →
    ip = gateway ∨ ¬ s.Free ip

/-- The reservation does not ask for an edge address that is free for the peer. -/
def ReserveHost (peerId : String) (ip : Ipv4Addr) : Prop :=
  EdgeIp net ip → isBlank peerId = true ∨ ip = gateway ∨ s.deviceIpMap.lookup ip ≠ none ∨
    ∃ q, q ≠ peerId ∧ s.wireguardPeerIpMap.lookup ip = some q

variable {net gateway s}

variable {ip : Ipv4Addr}

theorem hostIp_iff :
    HostIp net gateway ip ↔ net.contains ip = true ∧ ip ≠ gateway ∧ ¬ EdgeIp net ip := by
  unfold HostIp Ipv4Net.IsHost EdgeIp
  tauto

theorem contains_of_edge (h : EdgeIp net ip) : net.contains ip = true := by
  rcases h with rfl | rfl
  · exact net.contains_network
  · exact net.contains_broadcast

theorem hostIp_findAvailableIp (hp : net.prefixLen ≤ 30)
    (h : s.findAvailableIp net gateway = some ip) : HostIp net gateway ip := by
  obtain ⟨hm, hg, -⟩ := findAvailableIp_some h
  exact ⟨(net.mem_hosts_iff (net.network_ne_of_prefix_le hp)).mp hm, hg⟩

/-- A granted address is a host unless it is an edge address. -/
theorem Grants.hostIp_iff {req : RegRequestMsg} (h : s.Grants net gateway req ip) :
    HostIp net gateway ip ↔ ¬ EdgeIp net ip := by
  have hu := h.usable.1
  rw [NetworkStateInner.hostIp_iff]
  exact ⟨fun hh => hh.2.2, fun he => ⟨hu.1, hu.2.symm, he⟩⟩

/-- When a registration hands out a host, if it hands out an address. -/
theorem registerHost_iff (hp : net.prefixLen ≤ 30) (req : RegRequestMsg) :
    (∀ randomId now s' ip old, s.allocateIp net gateway req randomId now = .ok (s', ip, old) →
      HostIp net gateway ip) ↔ s.RegisterHost net gateway req := by
  constructor
  · intro h
    refine ⟨fun ip hk => ?_, fun ip hr hl he => ?_⟩
    · obtain ⟨s', hok⟩ := allocateIp_of_keeps hk net gateway 0 0
      exact h 0 0 s' ip none hok
    · by_contra hn
      rw [not_or, Decidable.not_not] at hn
      have hg : s.Grants net gateway req ip := by
        refine ⟨hr, hl, ?_⟩
        rintro (e | e | e)
        · exact hn.1 e
        · rw [contains_of_edge he] at e; cases e
        · exact e hn.2
      obtain ⟨s', old, hok⟩ := allocateIp_of_grants hg 0 0
      exact (hg.hostIp_iff).mp (h 0 0 s' ip old hok) he
  · rintro ⟨hkeep, hask⟩ randomId now s' ip old hok
    obtain ⟨hk, -⟩ | ⟨hg, -⟩ | ⟨-, hf, -⟩ := (allocateIp_ok hok).table_cases
    · exact hkeep ip hk
    · refine (hg.hostIp_iff).mpr fun he => ?_
      rcases hask ip hg.1 hg.2.1 he with e | e
      · exact hg.usable.1.2 e.symm
      · exact e hg.usable.2
    · exact hostIp_findAvailableIp hp hf

/-- When a reservation gets as far as the database. -/
theorem startReserve_isOk_iff {peerId : String} :
    (∃ r, s.startReserve net gateway peerId ip = .ok r) ↔
      isBlank peerId = false ∧ net.contains ip = true ∧ ip ≠ gateway ∧
      s.deviceIpMap.lookup ip = none ∧
      ∀ q, s.wireguardPeerIpMap.lookup ip = some q → q = peerId := by
  unfold startReserve prepareFor prepareWireguardPeerIpReservation
  cases hb : isBlank peerId with
  | true => simp
  | false =>
    cases hc : net.contains ip with
    | false => simp
    | true =>
      by_cases hg : ip = gateway
      · simp [hg]
      cases hd : s.deviceIpMap.lookup ip with
      | some d => simp [hg]
      | none =>
        cases hw : s.wireguardPeerIpMap.lookup ip with
        | none => simp [hg]
        | some q => by_cases hq : q = peerId <;> simp [hg, hq]

/-- When a reservation hands out a host, if it succeeds. -/
theorem reserveHost_iff (peerId : String) (ip : Ipv4Addr) :
    (∀ persist changed, (s.reserveWireguardPeerIpWith net gateway peerId ip persist).2 = .ok changed →
      HostIp net gateway ip) ↔ s.ReserveHost net gateway peerId ip := by
  have hsucc : (∃ persist changed,
      (s.reserveWireguardPeerIpWith net gateway peerId ip persist).2 = .ok changed) ↔
      ∃ r, s.startReserve net gateway peerId ip = .ok r := by
    unfold reserveWireguardPeerIpWith
    cases hs : s.startReserve net gateway peerId ip with
    | error e => simp
    | ok r => exact iff_of_true ⟨true, _, rfl⟩ ⟨r, rfl⟩
  have hall : (∀ persist changed,
      (s.reserveWireguardPeerIpWith net gateway peerId ip persist).2 = .ok changed →
        HostIp net gateway ip) ↔
      ((∃ r, s.startReserve net gateway peerId ip = .ok r) → HostIp net gateway ip) := by
    rw [← hsucc]
    exact ⟨fun h ⟨p, c, hc⟩ => h p c hc, fun h p c hc => h ⟨p, c, hc⟩⟩
  rw [hall, startReserve_isOk_iff, hostIp_iff, ReserveHost]
  constructor
  · intro h he
    by_contra hn
    simp only [not_or, not_exists, not_and, Bool.not_eq_true, ne_eq, Decidable.not_not] at hn
    refine (h ⟨hn.1, contains_of_edge he, hn.2.1, hn.2.2.1, fun q hq => ?_⟩).2.2 he
    by_contra hne
    exact hn.2.2.2 q hne hq
  · rintro h ⟨hb, hc, hg, hd, hw⟩
    refine ⟨hc, hg, fun he => ?_⟩
    rcases h he with e | e | e | ⟨q, hq, e⟩
    · rw [hb] at e; cases e
    · exact hg e
    · exact e hd
    · exact hq (hw q e)

theorem hostIp_createAutomatic (hp : net.prefixLen ≤ 30) {peerId : String} {persist : Bool}
    (h : (s.createWireguardPeerWithAutomaticIp net gateway peerId persist).2 = .ok ip) :
    HostIp net gateway ip := by
  unfold createWireguardPeerWithAutomaticIp at h
  cases hs : s.startCreateAutomatic net gateway peerId with
  | error e => rw [hs] at h; cases h
  | ok r =>
    obtain ⟨s1, a, previous⟩ := r
    rw [hs] at h
    cases persist with
    | false => cases h
    | true =>
      cases h
      exact hostIp_findAvailableIp hp (ReserveState.startCreateAutomatic_ok hs).1

/-- **Which requests hand out hosts.** In every state: a registration hands out only hosts exactly
if it is `RegisterHost`, a reservation exactly if it is `ReserveHost`, and the automatic creation of
a peer always. -/
theorem handed_out_hosts (net : Ipv4Net) (gateway : Ipv4Addr) (hp : net.prefixLen ≤ 30)
    (s : NetworkStateInner) :
    (∀ req, (∀ randomId now s' ip old,
        s.allocateIp net gateway req randomId now = .ok (s', ip, old) → HostIp net gateway ip) ↔
      s.RegisterHost net gateway req) ∧
    (∀ peerId ip, (∀ persist changed,
        (s.reserveWireguardPeerIpWith net gateway peerId ip persist).2 = .ok changed →
          HostIp net gateway ip) ↔
      s.ReserveHost net gateway peerId ip) ∧
    ∀ peerId persist ip,
      (s.createWireguardPeerWithAutomaticIp net gateway peerId persist).2 = .ok ip →
        HostIp net gateway ip :=
  ⟨registerHost_iff hp, reserveHost_iff, fun _ _ _ => hostIp_createAutomatic hp⟩

/-- The laptop keeps its address, and the tablet, which asks for the broadcast address that the phone
has got, is given another one. -/
theorem handed_out_hosts_refused :
    ∃ s, (leaseSys defaultNet (homeIp 1)).Reach s ∧
      s.leaseOf "phone" = some defaultNet.broadcast ∧
      (∃ s' old, s.allocateIp defaultNet (homeIp 1) (anyIpReq "laptop" none) 9 2 =
          .ok (s', homeIp 2, old) ∧
        HostIp defaultNet (homeIp 1) (homeIp 2)) ∧
      ∃ s' old, s.allocateIp defaultNet (homeIp 1)
          (anyIpReq "tablet" (some defaultNet.broadcast)) 9 2 =
          .ok (s', homeIp 3, old) ∧
        HostIp defaultNet (homeIp 1) (homeIp 3) := by
  have hr : (leaseSys defaultNet (homeIp 1)).Reach
      ([LeaseOp.allocateIp (anyIpReq "laptop" none) 7 0,
        .allocateIp (anyIpReq "phone" (some defaultNet.broadcast)) 8 1].foldl
          (applyOp defaultNet (homeIp 1)) empty) :=
    (Sys.Reach.init empty_loaded).foldl _
  refine ⟨_, hr, by decide, ?_⟩
  generalize hs : List.foldl _ _ _ = s
  have hlaptop : s.leaseOf "laptop" = some (homeIp 2) := by rw [← hs]; decide
  have htablet : s.leaseOf "tablet" = none := by rw [← hs]; decide
  have hphone : ¬ s.Free defaultNet.broadcast := by rw [← hs]; decide
  have hfind : s.findAvailableIp defaultNet (homeIp 1) =
      some (homeIp 3) := by rw [← hs]; decide
  have hkeep : s.Keeps (anyIpReq "laptop" none) (homeIp 2) := ⟨hlaptop, .inl rfl⟩
  have hsearch : s.Searches defaultNet (homeIp 1)
      (anyIpReq "tablet" (some defaultNet.broadcast)) :=
    ⟨by simp [anyIpReq, htablet], .inr (.inr hphone), rfl⟩
  have hhosts := (handed_out_hosts defaultNet (homeIp 1) (by decide) s).1
  obtain ⟨s1, h1⟩ := allocateIp_of_keeps hkeep defaultNet (homeIp 1) 9 2
  obtain ⟨s2, old, h2⟩ := allocateIp_of_searches hsearch hfind 9 2
  refine ⟨⟨s1, none, h1, ?_⟩, ⟨s2, old, h2, ?_⟩⟩
  · refine (hhosts _).mpr ⟨fun ip hk => ?_, fun ip hr => ?_⟩ _ _ _ _ _ h1
    · cases hlaptop.symm.trans hk.1
      decide
    · cases hr
  · refine (hhosts _).mpr ⟨fun ip hk => ?_, fun ip hr _ _ => ?_⟩ _ _ _ _ _ h2
    · cases htablet.symm.trans hk.1
    · cases hr
      exact .inr hphone

/-- The row of a device that was stored under another network. -/
def foreignRow : DeviceRecord where
  deviceId := "nas"
  networkCode := "home"
  ip := some "192.168.1.9"
  deviceName := "nas"
  deviceVersion := "2.0.0"
  lastConnectTime := 0

/-- Three addresses that are no hosts of `10.26.0.0/24`: a row of another network, and the broadcast
and the network address on request. -/
theorem handed_out_others :
    (∃ s s' old, (leaseSys defaultNet (homeIp 1)).Reach s ∧
      s.allocateIp defaultNet (homeIp 1) (anyIpReq "nas" none) 7 0 =
        .ok (s', Ipv4Addr.new 192 168 1 9, old) ∧
      ¬ HostIp defaultNet (homeIp 1) (Ipv4Addr.new 192 168 1 9)) ∧
    (∃ s s' old, (leaseSys defaultNet (homeIp 1)).Reach s ∧
      s.allocateIp defaultNet (homeIp 1)
        (anyIpReq "laptop" (some defaultNet.broadcast)) 7 0 = .ok (s', defaultNet.broadcast, old) ∧
      ¬ HostIp defaultNet (homeIp 1) defaultNet.broadcast) ∧
    ∃ s, (leaseSys defaultNet (homeIp 1)).Reach s ∧
      (s.reserveWireguardPeerIpWith defaultNet (homeIp 1) "phone" defaultNet.network
        true).2 = .ok false ∧
      ¬ HostIp defaultNet (homeIp 1) defaultNet.network := by
  have hrow : Loaded defaultNet (homeIp 1)
      (buildInitialInnerState defaultNet (homeIp 1) (some [foreignRow]) none 0) :=
    ⟨some [foreignRow], none, 0, List.pairwise_singleton _ _, rfl⟩
  have hkeep : (buildInitialInnerState defaultNet (homeIp 1) (some [foreignRow]) none
      0).Keeps (anyIpReq "nas" none) (Ipv4Addr.new 192 168 1 9) := ⟨by decide, .inl rfl⟩
  have hgrant : empty.Grants defaultNet (homeIp 1)
      (anyIpReq "laptop" (some defaultNet.broadcast)) defaultNet.broadcast :=
    ⟨rfl, by decide, by decide⟩
  obtain ⟨s1, h1⟩ := allocateIp_of_keeps hkeep defaultNet (homeIp 1) 7 0
  obtain ⟨s2, old, h2⟩ := allocateIp_of_grants hgrant 7 0
  exact ⟨⟨_, s1, none, .init hrow, h1, by decide⟩, ⟨_, s2, old, .init empty_loaded, h2, by decide⟩,
    _, .init empty_loaded, by decide, by decide⟩

/-! ## Runs -/

/-- Every device has a host. -/
def AllHosts (net : Ipv4Net) (gateway : Ipv4Addr) (s : NetworkStateInner) : Prop :=
  ∀ d ip, s.leaseOf d = some ip → HostIp net gateway ip

/-- A registration asks for no edge address. -/
def AsksHost (net : Ipv4Net) : LeaseOp → Prop
  | .allocateIp req _ _ => ∀ ip, req.ip = some ip → ¬ EdgeIp net ip
  | _ => True

theorem allHosts_step (hp : net.prefixLen ≤ 30) (h : AllHosts net gateway s) {op : LeaseOp}
    (hop : AsksHost net op) : AllHosts net gateway (s.applyOp net gateway op) := by
  intro d ip hd
  generalize ht : (s.applyOp net gateway op).table = t
  have hh : t.held d = some ip := by rw [← ht]; exact hd
  have hst : TableStep net gateway s op _ := applyOp_table op
  rw [ht] at hst
  cases hst with
  | same => exact h d ip hh
  | revoke ids => exact h d ip (Ownership.held_of_revokeAll_held hh)
  | @move req _ _ a hg =>
    by_cases he : d = req.deviceId
    · rw [he, Ownership.move, Ownership.assign_held_self] at hh
      cases hh
      exact hg.hostIp_iff.mpr (hop _ hg.1)
    · rw [Ownership.move_held_ne he] at hh
      exact h d ip hh
  | @assign req _ _ a hs hf =>
    by_cases he : d = req.deviceId
    · rw [he, Ownership.assign_held_self] at hh
      cases hh
      exact hostIp_findAvailableIp hp hf
    · rw [Ownership.assign_held_ne he] at hh
      exact h d ip hh

/-- From rows with hosts, runs that ask for no edge address hand out hosts only. -/
theorem hosts_of_reachWith (hp : net.prefixLen ≤ 30)
    (h : (Sys.ofFun (AllHosts net gateway) (applyOp net gateway)).ReachWith
      (fun _ op => AsksHost net op) s) {req : RegRequestMsg} {randomId : BitVec 64}
    {now : SystemTime} (hop : AsksHost net (.allocateIp req randomId now)) {s' : NetworkStateInner}
    {old : Option Ipv4Addr} (hok : s.allocateIp net gateway req randomId now = .ok (s', ip, old)) :
    HostIp net gateway ip := by
  have hall : AllHosts net gateway s :=
    h.invariant_of (fun _ h0 => h0) fun _ _ hi hc => allHosts_step hp hi hc
  exact (registerHost_iff hp req).mpr
    ⟨fun a hk => hall _ a hk.1, fun a hr _ he => (hop a hr he).elim⟩ _ _ _ _ _ hok

theorem hosts_of_reachWith_threeDevices :
    ∃ s' old, (threeDevices.foldl (applyOp defaultNet (homeIp 1)) empty).allocateIp
        defaultNet (homeIp 1) (anyIpReq "tablet" (some (homeIp 7))) 10 4 =
        .ok (s', homeIp 7, old) ∧
      HostIp defaultNet (homeIp 1) (homeIp 7) := by
  have hnone : ∀ ip, none = some ip → ¬ EdgeIp defaultNet ip := fun _ h => by cases h
  have hsome : ∀ a, ¬ EdgeIp defaultNet a → ∀ ip, some a = some ip → ¬ EdgeIp defaultNet ip :=
    fun _ ha _ h => by cases h; exact ha
  have hm : Sys.Meets (fun _ op => AsksHost defaultNet op) (applyOp defaultNet (homeIp 1))
      empty threeDevices := ⟨hnone, hsome _ (by decide), hnone, trivial, trivial, trivial⟩
  have hr : (Sys.ofFun (AllHosts defaultNet (homeIp 1))
      (applyOp defaultNet (homeIp 1))).ReachWith (fun _ op => AsksHost defaultNet op) _ :=
    Sys.ReachWith.foldl (.init fun _ _ h => by cases h) hm
  have hgrant : (threeDevices.foldl (applyOp defaultNet (homeIp 1)) empty).Grants
      defaultNet (homeIp 1) (anyIpReq "tablet" (some (homeIp 7)))
      (homeIp 7) := ⟨rfl, by decide, by decide⟩
  have hlast : AsksHost defaultNet
      (.allocateIp (anyIpReq "tablet" (some (homeIp 7))) 10 4) := hsome _ (by decide)
  obtain ⟨s', old, hok⟩ := allocateIp_of_grants hgrant 10 4
  exact ⟨s', old, hok, hosts_of_reachWith (by decide) hr hlast hok⟩

end NetworkStateInner

end Vntc
