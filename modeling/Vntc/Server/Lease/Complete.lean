import Mathlib.Data.Fintype.EquivFin
import Mathlib.Order.Minimal
import Vntc.Server.Lease.Hosts

/-!
# Completeness of the search for an address

`find_available_ip` of `server/network_state_provider.rs` looks at the index of the devices'
addresses, not at the devices. An address that a device has left without its index entry is free,
and the search does not find it.
-/

namespace Vntc

open Lib

namespace NetworkStateInner

variable {net : Ipv4Net} {gateway ip : Ipv4Addr} {s : NetworkStateInner}

/-- A host that no device and no WireGuard peer holds. -/
def FreeHost (net : Ipv4Net) (gateway : Ipv4Addr) (s : NetworkStateInner) (ip : Ipv4Addr) : Prop :=
  HostIp net gateway ip ∧ (∀ d, s.leaseOf d ≠ some ip) ∧ s.wireguardPeerIpMap.lookup ip = none

/-- The first host that nobody holds. -/
def FirstFree (net : Ipv4Net) (gateway : Ipv4Addr) (s : NetworkStateInner) (ip : Ipv4Addr) : Prop :=
  FreeHost net gateway s ip ∧ ∀ a, FreeHost net gateway s a → ip.toNat ≤ a.toNat

/-- What a registration without an address is answered, and one that accepts any address. -/
structure Complete (net : Ipv4Net) (gateway : Ipv4Addr) (s : NetworkStateInner) : Prop where
  first : ∀ req randomId now ip, req.ip = none → s.leaseOf req.deviceId = none →
    ((∃ s' old, s.allocateIp net gateway req randomId now = .ok (s', ip, old)) ↔
      FirstFree net gateway s ip)
  fails : ∀ req randomId now, req.ip = none → s.leaseOf req.deviceId = none →
    ((∃ e, s.allocateIp net gateway req randomId now = .error e) ↔
      ∀ ip, ¬ FreeHost net gateway s ip)
  variableIp : ∀ req randomId now e, req.ipVariable = true →
    s.allocateIp net gateway req randomId now = .error e → ∀ ip, ¬ FreeHost net gateway s ip

/-- The first free host is not in the index. -/
def Unshadowed (net : Ipv4Net) (gateway : Ipv4Addr) (s : NetworkStateInner) : Prop :=
  ∀ ip, FirstFree net gateway s ip → s.deviceIpMap.lookup ip = none

theorem exists_firstFree (h : FreeHost net gateway s ip) : ∃ a, FirstFree net gateway s a := by
  obtain ⟨a, ha, hmin⟩ := exists_minimalFor_of_wellFoundedLT (FreeHost net gateway s)
    (fun a => a.toNat) ⟨ip, h⟩
  exact ⟨a, ha, fun b hb => (le_total _ _).elim id fun hle => hmin hb hle⟩

theorem FirstFree.unique {a : Ipv4Addr} (h : FirstFree net gateway s ip)
    (ha : FirstFree net gateway s a) : ip = a :=
  BitVec.eq_of_toNat_eq (le_antisymm (h.2 a ha.1) (ha.2 ip h.1))

section

variable (hp : net.prefixLen ≤ 30) (h : (leaseSys net gateway).Reach s)
include hp h

/-- The search finds a free host: the index has every address that is held. -/
theorem freeHost_findAvailableIp (hf : s.findAvailableIp net gateway = some ip) :
    FreeHost net gateway s ip := by
  have hhost := hostIp_findAvailableIp hp hf
  obtain ⟨-, -, hfree⟩ := findAvailableIp_some hf
  refine ⟨hhost, fun d hd => ?_, hfree.2⟩
  have hindex := covers_of_reach h ip d hd ⟨hhost.1.1, hhost.2.symm⟩
  rw [hfree.owner_none] at hindex
  cases hindex

theorem findAvailableIp_eq_some_iff (hu : Unshadowed net gateway s) :
    s.findAvailableIp net gateway = some ip ↔ FirstFree net gateway s ip := by
  have hne := net.network_ne_of_prefix_le hp
  have hfirst : ∀ {a}, s.findAvailableIp net gateway = some a → FirstFree net gateway s a := by
    intro a hf
    refine ⟨freeHost_findAvailableIp hp h hf, fun b hb => ?_⟩
    obtain ⟨c, hc⟩ := exists_firstFree hb
    have hle : a.toNat ≤ c.toNat := net.find_hosts_le hf ((net.mem_hosts_iff hne).mpr hc.1.1.1)
      (decide_eq_true ⟨hc.1.1.2, hu c hc, hc.1.2.2⟩)
    exact hle.trans (hc.2 b hb)
  refine ⟨hfirst, fun hip => ?_⟩
  cases hf : s.findAvailableIp net gateway with
  | none =>
    exact absurd ⟨hu ip hip, hip.1.2.2⟩
      (findAvailableIp_none hf ((net.mem_hosts_iff hne).mpr hip.1.1.1) hip.1.1.2)
  | some a => rw [(hfirst hf).unique hip]

theorem findAvailableIp_eq_none_iff (hu : Unshadowed net gateway s) :
    s.findAvailableIp net gateway = none ↔ ∀ ip, ¬ FreeHost net gateway s ip := by
  constructor
  · intro hf ip hip
    obtain ⟨a, ha⟩ := exists_firstFree hip
    rw [(findAvailableIp_eq_some_iff hp h hu).mpr ha] at hf
    cases hf
  · intro hno
    by_contra hf
    obtain ⟨a, ha⟩ := Option.ne_none_iff_exists'.mp hf
    exact hno a (freeHost_findAvailableIp hp h ha)

end

variable {req : RegRequestMsg} {randomId : BitVec 64} {now : SystemTime}

/-- A registration without an address is answered by the search. -/
theorem allocateIp_automatic (hr : req.ip = none) (hl : s.leaseOf req.deviceId = none) :
    (∃ s' old, s.allocateIp net gateway req randomId now = .ok (s', ip, old)) ↔
      s.findAvailableIp net gateway = some ip := by
  have hs : s.Searches net gateway req := by
    unfold Searches
    rw [hr]
    exact hl
  refine ⟨?_, fun hf => allocateIp_of_searches hs hf randomId now⟩
  rintro ⟨s', old, hok⟩
  have hpath := (allocateIp_ok hok).path
  generalize s'.deviceIpMap = index at hpath
  cases hpath with
  | kept hk => cases hl.symm.trans hk.1
  | requested hg => cases hr.symm.trans hg.1
  | searched _ hf => exact hf

/-- A client that accepts any address is refused only if the search finds none. -/
theorem allocateIp_variable {e : AllocError} (hv : req.ipVariable = true)
    (he : s.allocateIp net gateway req randomId now = .error e) :
    s.findAvailableIp net gateway = none := by
  by_contra hf
  obtain ⟨a, ha⟩ := Option.ne_none_iff_exists'.mp hf
  have hno : ∀ s' b old, s.allocateIp net gateway req randomId now ≠ .ok (s', b, old) := by
    intro s' b old hok
    rw [he] at hok
    cases hok
  cases hr : req.ip with
  | none =>
    cases hl : s.leaseOf req.deviceId with
    | none =>
      obtain ⟨s', old, hok⟩ := (allocateIp_automatic hr hl).mpr ha
      exact hno _ _ _ hok
    | some b =>
      obtain ⟨s', hok⟩ := allocateIp_of_keeps ⟨hl, .inl hr⟩ net gateway randomId now
      exact hno _ _ _ hok
  | some want =>
    by_cases hl : s.leaseOf req.deviceId = some want
    · obtain ⟨s', hok⟩ := allocateIp_of_keeps ⟨hl, .inr hr⟩ net gateway randomId now
      exact hno _ _ _ hok
    by_cases hc : s.Refused net gateway want
    · have hs : s.Searches net gateway req := by
        unfold Searches
        rw [hr]
        exact ⟨hl, hc, hv⟩
      obtain ⟨s', old, hok⟩ := allocateIp_of_searches hs ha randomId now
      exact hno _ _ _ hok
    · obtain ⟨s', old, hok⟩ := allocateIp_of_grants ⟨hr, hl, hc⟩ randomId now
      exact hno _ _ _ hok

/-- In the runs whose steps are `IndexSafe`, the index has no address that is free. -/
theorem unshadowed_of_reachWith
    (h : (leaseSys net gateway).ReachWith (IndexSafe net gateway) s) : Unshadowed net gateway s := by
  intro ip hip
  by_contra hi
  obtain ⟨d, hd⟩ := Option.ne_none_iff_exists'.mp hi
  exact hip.1.2.1 d ((exact_of_reachWith h ip d).mp hd).1

/-- There are more ids than devices. -/
theorem exists_leaseOf_none (s : NetworkStateInner) : ∃ d, s.leaseOf d = none := by
  obtain ⟨d, hd⟩ := Infinite.exists_notMem_finset s.deviceMap.map.keys.toFinset
  refine ⟨d, leaseOf_of_lookup_none (AList.lookup_eq_none.mpr fun hm => hd ?_)⟩
  exact List.mem_toFinset.mpr (AList.mem_keys.mp hm)

/-- **Automatic allocation.** In every reachable state the search is complete exactly if the first
free host is not in the index under a device that has left it. -/
theorem allocation_complete_iff (hp : net.prefixLen ≤ 30) (h : (leaseSys net gateway).Reach s) :
    Complete net gateway s ↔ Unshadowed net gateway s := by
  constructor
  · intro hc ip hip
    obtain ⟨d, hd⟩ := exists_leaseOf_none s
    have hok := (hc.first (anyIpReq d none) 0 0 ip rfl hd).mpr hip
    exact (findAvailableIp_some ((allocateIp_automatic rfl hd).mp hok)).2.2.1
  · intro hu
    refine ⟨fun req randomId now ip hr hl => ?_, fun req randomId now hr hl => ?_,
      fun req randomId now e hv he => ?_⟩
    · rw [allocateIp_automatic hr hl]
      exact findAvailableIp_eq_some_iff hp h hu
    · rw [← findAvailableIp_eq_none_iff hp h hu]
      constructor
      · rintro ⟨e, he⟩
        by_contra hf
        obtain ⟨a, ha⟩ := Option.ne_none_iff_exists'.mp hf
        have hok : ∃ s' old, s.allocateIp net gateway req randomId now = .ok (s', a, old) :=
          (allocateIp_automatic hr hl).mpr ha
        obtain ⟨s', old, hok⟩ := hok
        rw [he] at hok
        cases hok
      · intro hf
        cases hres : s.allocateIp net gateway req randomId now with
        | error e => exact ⟨e, rfl⟩
        | ok r =>
          obtain ⟨s', a, old⟩ := r
          rw [(allocateIp_automatic hr hl).mp ⟨s', old, hres⟩] at hf
          cases hf
    · exact (findAvailableIp_eq_none_iff hp h hu).mp (allocateIp_variable hv he)

theorem allocation_complete_one_device :
    ∃ s, s.leaseOf "laptop" = some (homeIp 2) ∧
      Complete defaultNet (homeIp 1) s := by
  have hr : (leaseSys defaultNet (homeIp 1)).ReachWith
      (IndexSafe defaultNet (homeIp 1)) _ :=
    .step (.allocateIp (anyIpReq "laptop" none) 7 0) (.init empty_loaded)
      (fun _ _ => ⟨by decide, fun _ h => by cases h⟩) rfl
  exact ⟨_, by decide,
    (allocation_complete_iff (by decide) (hr.mono fun _ _ _ => trivial)).mpr (unshadowed_of_reachWith hr)⟩

/-- A device at `10.26.0.2` asks for the gateway's address and gets `10.26.0.3`. The next device gets
`10.26.0.4`, although nobody holds `10.26.0.2`. -/
theorem allocation_skips_free_host :
    ∃ s, (leaseSys defaultNet (homeIp 1)).Reach s ∧
      FreeHost defaultNet (homeIp 1) s (homeIp 2) ∧
      (∃ s' old, s.allocateIp defaultNet (homeIp 1) (anyIpReq "phone" none) 9 2 =
        .ok (s', homeIp 4, old)) ∧
      ¬ Complete defaultNet (homeIp 1) s := by
  have hr : (leaseSys defaultNet (homeIp 1)).Reach
      ((empty.applyOp defaultNet (homeIp 1)
        (.allocateIp (anyIpReq "laptop" none) 7 0)).applyOp defaultNet (homeIp 1)
        (.allocateIp (anyIpReq "laptop" (some (homeIp 1))) 8 1)) :=
    ((Sys.Reach.init empty_loaded).next _ rfl).next _ rfl
  refine ⟨_, hr, ?_⟩
  generalize hs : NetworkStateInner.applyOp _ _ _ _ = s at hr
  have hfree : FreeHost defaultNet (homeIp 1) s (homeIp 2) := by
    refine ⟨by decide, fun d hd => ?_, by rw [← hs]; decide⟩
    -- The index has the address under the laptop, which is elsewhere.
    have hi := covers_of_reach hr _ d hd ⟨by decide, by decide⟩
    have hlaptop : s.deviceIpMap.lookup (homeIp 2) = some "laptop" := by
      rw [← hs]
      decide
    cases hlaptop.symm.trans hi
    rw [← hs] at hd
    exact absurd hd (by decide)
  have hphone : ∃ s' old, s.allocateIp defaultNet (homeIp 1) (anyIpReq "phone" none) 9 2 =
      .ok (s', homeIp 4, old) := by
    rw [← hs]
    exact ⟨_, _, rfl⟩
  refine ⟨hfree, hphone, fun hc => ?_⟩
  have hfirst := (hc.first _ _ _ _ rfl (by rw [← hs]; decide)).mp hphone
  exact absurd (hfirst.2 _ hfree) (by decide)

end NetworkStateInner

end Vntc
