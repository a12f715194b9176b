import Vntc.Server.Db.Cluster

/-!
# What the authority lends

`acquire_cluster_lease` grants a request or refuses it. `ClusterDb.Lends` says in terms of the rows
when it grants, and which address; `lends_of_acquire` and `Lends.acquire` connect it with the
transaction.
-/

namespace Vntc

open Lib

/-- The owner has the allocation. -/
def Allocation (t : Table ipAllocations) (n : String) (o : OwnerType) (d text : String) : Prop :=
  ∃ r ∈ t.rows, r.isOwner n o d = true ∧ r.ip = text

variable {d n : String} {o : OwnerType}

theorem ipAllocations_isOwner_clash (x y : IpAllocation)
    (hx : x.isOwner n o d = true) (hy : y.isOwner n o d = true) : ipAllocations.clash x y = true := by
  obtain ⟨rfl, rfl, rfl⟩ := IpAllocation.isOwner_iff.mp hy
  exact Bool.or_eq_true_iff.mpr (.inl hx)

/-- An owner has at most one allocation. -/
theorem Allocation.unique {t : Table ipAllocations} {text text' : String}
    (h : Allocation t n o d text) (h' : Allocation t n o d text') : text = text' := by
  obtain ⟨r, hr, ho, rfl⟩ := h
  obtain ⟨r', hr', ho', rfl⟩ := h'
  rw [t.eq_of_clash hr hr' (ipAllocations_isOwner_clash r r' ho ho')]

namespace ClusterDb

variable {db db' : ClusterDb} {request : ClusterLeaseRequest} {now : Nat} {grant : ClusterLeaseGrant}
  {o : OwnerType}

/-- The owner has a lease that has not run out. -/
def Lease (db : ClusterDb) (now : Nat) (n : String) (o : OwnerType) (d text : String) : Prop :=
  ∃ r ∈ db.leases.rows, r.expired now = false ∧ r.isOwner n o d = true ∧ r.ip = text

/-- The address that the authority has for the owner: its lease, or else its allocation there. -/
def Own (db : ClusterDb) (now : Nat) (n : String) (o : OwnerType) (d : String) :
    Option Ipv4Addr → Prop
  | some ip => db.Lease now n o d ip.toText ∨
      (∀ text, ¬ db.Lease now n o d text) ∧ Allocation db.allocations n o d ip.toText
  | none => (∀ text, ¬ db.Lease now n o d text) ∧ ∀ text, ¬ Allocation db.allocations n o d text

/-- No other owner has the address. -/
def Unclaimed (db : ClusterDb) (now : Nat) (n : String) (o : OwnerType) (d : String)
    (ip : Ipv4Addr) : Prop :=
  (∀ r ∈ db.leases.rows, r.expired now = false → r.isAt n ip.toText = true →
    r.ownerType = o ∧ r.ownerId = d) ∧
  ∀ r ∈ db.allocations.rows, r.isAt n ip.toText = true → r.ownerType = o ∧ r.ownerId = d

/-- The owner may have the address. -/
def Open (db : ClusterDb) (request : ClusterLeaseRequest) (now : Nat) (o : OwnerType)
    (ip : Ipv4Addr) : Prop :=
  request.network.IsHost ip ∧ ip ≠ request.gateway ∧
    db.Unclaimed now request.networkCode o request.ownerId ip

/-- The address for a request: the one it asks for, or else the owner's own, or else the least. -/
def Picks (db : ClusterDb) (request : ClusterLeaseRequest) (now : Nat) (o : OwnerType)
    (ip : Ipv4Addr) : Option Ipv4Addr → Prop
  | some a => ip = a ∧ db.Open request now o a
  | none => db.Open request now o ip ∧
      ∀ ip' : Ipv4Addr, db.Open request now o ip' → ip.toNat ≤ ip'.toNat

/-- The authority grants the request with the address `ip`. -/
structure Lends (db : ClusterDb) (request : ClusterLeaseRequest) (now : Nat) (o : OwnerType)
    (ip : Ipv4Addr) : Prop where
  ownerType : request.ownerType = o.text
  owner : isBlank request.ownerId = false ∧ 0 < sqlLength request.ownerId
  gateway : request.network.IsHost request.gateway
  revision : db.state.revision < i64Max
  picks : ∃ own, db.Own now request.networkCode o request.ownerId own ∧
    db.Picks request now o ip (request.requestedIp.or own)

theorem mem_expire_rows {r : ClusterLease} :
    r ∈ (db.expire now).leases.rows ↔ r ∈ db.leases.rows ∧ r.expired now = false :=
  Table.mem_delete

variable {d n text : String} {ip : Ipv4Addr} {t : Table ipAllocations} {own : Option Ipv4Addr}

theorem occupied_eq_false_iff :
    (db.expire now).occupied n o d ip = false ↔ db.Unclaimed now n o d ip := by
  rw [occupied_eq_false]
  simp only [mem_expire_rows, and_imp, Unclaimed]
  exact Iff.rfl

theorem leaseText_eq_some :
    ((db.expire now).leases.find (ClusterLease.isOwner n o d)).map (·.ip) = some text ↔
      db.Lease now n o d text := by
  rw [Option.map_eq_some_iff]
  simp only [Table.find_eq_some isOwner_clash, mem_expire_rows, Lease]
  exact ⟨fun ⟨r, ⟨⟨hr, he⟩, ho⟩, ht⟩ => ⟨r, hr, he, ho, ht⟩,
    fun ⟨r, hr, he, ho, ht⟩ => ⟨r, ⟨⟨hr, he⟩, ho⟩, ht⟩⟩

theorem leaseText_eq_none :
    ((db.expire now).leases.find (ClusterLease.isOwner n o d)).map (·.ip) = none ↔
      ∀ text, ¬ db.Lease now n o d text := by
  rw [Option.eq_none_iff_forall_ne_some]
  exact forall_congr' fun text => not_congr leaseText_eq_some

theorem allocationText_eq_some :
    (t.find (IpAllocation.isOwner n o d)).map (·.ip) = some text ↔ Allocation t n o d text := by
  rw [Option.map_eq_some_iff]
  simp only [Table.find_eq_some ipAllocations_isOwner_clash, Allocation, and_assoc]

theorem allocationText_eq_none :
    (t.find (IpAllocation.isOwner n o d)).map (·.ip) = none ↔
      ∀ text, ¬ Allocation t n o d text := by
  rw [Option.eq_none_iff_forall_ne_some]
  exact forall_congr' fun text => not_congr allocationText_eq_some

theorem readIp_eq_ok {e : ClusterError} {x : Option String} :
    readIp e x = .ok own ↔ x = own.map Ipv4Addr.toText := by
  cases x with
  | none => cases own <;> simp [readIp]
  | some text =>
    simp only [readIp, bind_eq_ok, orStop_ok, Ipv4Addr.parse_eq_some_iff]
    constructor
    · rintro ⟨ip, rfl, h⟩
      cases h
      rfl
    · intro h
      cases own with
      | none => cases h
      | some ip => exact ⟨ip, Option.some.inj h, rfl⟩

theorem ownerIp_eq_ok :
    (db.expire now).ownerIp request o = .ok own ↔
      db.Own now request.networkCode o request.ownerId own := by
  unfold ownerIp
  rw [bind_eq_ok]
  constructor
  · rintro ⟨lease, hl, h⟩
    cases lease with
    | some ip =>
      cases h
      exact .inl (leaseText_eq_some.mp (readIp_eq_ok.mp hl))
    | none =>
      have hno := leaseText_eq_none.mp (readIp_eq_ok.mp hl)
      have ha := readIp_eq_ok.mp h
      cases own with
      | some ip => exact .inr ⟨hno, allocationText_eq_some.mp ha⟩
      | none => exact ⟨hno, allocationText_eq_none.mp ha⟩
  · intro h
    cases own with
    | some ip =>
      rcases h with hl | ⟨hno, ha⟩
      · exact ⟨some ip, readIp_eq_ok.mpr (leaseText_eq_some.mpr hl), rfl⟩
      · exact ⟨none, readIp_eq_ok.mpr (leaseText_eq_none.mpr hno),
          readIp_eq_ok.mpr (allocationText_eq_some.mpr ha)⟩
    | none =>
      exact ⟨none, readIp_eq_ok.mpr (leaseText_eq_none.mpr h.1),
        readIp_eq_ok.mpr (allocationText_eq_none.mpr h.2)⟩

theorem searchCandidate_eq_some (hg : request.network.IsHost request.gateway) :
    (db.expire now).searchCandidate request o = some ip ↔
      db.Open request now o ip ∧ ∀ ip' : Ipv4Addr, db.Open request now o ip' → ip.toNat ≤ ip'.toNat := by
  have hopen : ∀ a, (db.expire now).searchCandidate request o = some a → db.Open request now o a := by
    intro a ha
    obtain ⟨hh, hne, hf⟩ := searchCandidate_some hg ha
    exact ⟨hh, hne, occupied_eq_false_iff.mp hf⟩
  have hle : ∀ a, (db.expire now).searchCandidate request o = some a → ∀ ip' : Ipv4Addr,
      db.Open request now o ip' → a.toNat ≤ ip'.toNat := fun a ha ip' h' =>
    searchCandidate_le ha h'.1 h'.2.1 (occupied_eq_false_iff.mpr h'.2.2)
  refine ⟨fun h => ⟨hopen ip h, hle ip h⟩, fun ⟨ho, hleast⟩ => ?_⟩
  cases hs : (db.expire now).searchCandidate request o with
  | none =>
    have := searchCandidate_none hs ho.1 ho.2.1
    rw [occupied_eq_false_iff.mpr ho.2.2] at this
    cases this
  | some a =>
    have := Nat.le_antisymm (hle a hs ip ho) (hleast a (hopen a hs))
    rw [BitVec.eq_of_toNat_eq this]

theorem candidate_eq_ok (hg : request.network.IsHost request.gateway)
    {preferred : Option Ipv4Addr} :
    (db.expire now).candidate request o preferred = .ok ip ↔ db.Picks request now o ip preferred := by
  cases preferred with
  | none => exact orStop_ok.trans (searchCandidate_eq_some hg)
  | some a =>
    simp only [candidate, bind_eq_ok, validateClusterCandidate_ok, ensureClusterIpAvailable,
      ensure_ok, occupied_eq_false_iff, exists_const, Picks, Open]
    constructor
    · rintro ⟨⟨hh, hne⟩, hf, hr⟩
      cases hr
      exact ⟨rfl, hh, hne, hf⟩
    · rintro ⟨rfl, hh, hne, hf⟩
      exact ⟨⟨hh, hne⟩, hf, rfl⟩

/-- A transaction that grants is one that lends. -/
theorem lends_of_acquire (h : db.acquire request now = .ok (grant, db')) :
    ∃ o, db.Lends request now o grant.ip := by
  simp only [acquire, bind_eq_ok, orStop_ok, ensure_ok, OwnerType.ofText_eq_some] at h
  obtain ⟨o, hot, -, hb, -, hg, own, hown, ip, hip, state, hstate, leases, hput, hr⟩ := h
  cases hr
  simp only [advance, bind_eq_ok, ensure_ok] at hstate
  obtain ⟨-, hrev, -⟩ := hstate
  have hrow : (leaseRow request o ip state.revision now).isOwner request.networkCode o
      request.ownerId = true := ClusterLease.isOwner_iff.mpr ⟨rfl, rfl, rfl⟩
  have hcheck := ((Table.put_isSome_iff isOwner_clash hrow).mp (by rw [hput]; rfl)).1
  exact ⟨o, hot, ⟨hb, by simpa [clusterLeases, leaseRow] using hcheck⟩, hg, hrev, own,
    ownerIp_eq_ok.mp hown, (candidate_eq_ok hg).mp hip⟩

/-- What the transaction lends, it grants. -/
theorem Lends.acquire (h : db.Lends request now o ip) :
    ∃ grant db', db.acquire request now = .ok (grant, db') ∧ grant.ip = ip := by
  obtain ⟨own, hown, hpick⟩ := h.picks
  have hc := (candidate_eq_ok h.gateway).mpr hpick
  have hput := put_leaseRow_isSome h.gateway h.owner.2 hc (db.state.revision + 1) now
  obtain ⟨leases, hleases⟩ := Option.isSome_iff_exists.mp hput
  refine ⟨⟨ip, db.state.revision + 1, expiresAt request now⟩,
    { db.expire now with leases, state := ⟨request.authorityId, db.state.revision + 1, now⟩ }, ?_, rfl⟩
  simp only [ClusterDb.acquire, bind_eq_ok, orStop_ok, ensure_ok, OwnerType.ofText_eq_some]
  refine ⟨o, h.ownerType, (), h.owner.1, (), h.gateway, own, ownerIp_eq_ok.mpr hown, ip, hc,
    ⟨request.authorityId, db.state.revision + 1, now⟩, ?_, leases, hleases, rfl⟩
  simp only [advance, bind_eq_ok, ensure_ok]
  exact ⟨(), h.revision, rfl⟩

end ClusterDb

end Vntc
