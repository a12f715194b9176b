import Vntc.Server.Db.Lends
import Vntc.Server.Db.Occupancy
import Vntc.Server.Lease.Reserve

/-!
# Reservations as whole calls

`reserve_wireguard_peer_ip_with`, `create_wireguard_peer_with_ip`,
`create_wireguard_peer_with_automatic_ip`, `release_wireguard_peer_ip_with` and
`delete_wireguard_peer_with` of `server/network_state_provider.rs` from the moment they hold
`wireguard_ip_update_lock` to their return. Methods for devices run during the database write.
-/

namespace Vntc

open Lib NetworkStateInner ReserveState

/-- A call that gives a peer an address or takes it. -/
inductive WireGuardCall
  | reserve (peerId : String) (ip : Ipv4Addr)
  | createWithIp (record : WireGuardPeerRecord) (ip : Ipv4Addr)
  | createAutomatic (record : WireGuardPeerRecord)
  | release (kind : ReleaseKind) (peerId : String)

namespace WireGuardCall

def peerId : WireGuardCall → String
  | .reserve p _ => p
  | .createWithIp record _ => record.peerId
  | .createAutomatic record => record.peerId
  | .release _ p => p

/-- The statement of the call, for the address it has blocked. -/
def statement (networkCode : String) (db : Database) : WireGuardCall → Ipv4Addr → Option Database
  | .reserve p _, ip => db.reserveWireguardPeerIp networkCode p ip
  | .createWithIp record _, ip => db.insertWireguardPeerWithIp record ip
  | .createAutomatic record, ip => db.insertWireguardPeerWithIp record ip
  | .release .release p, _ => some (db.releaseWireguardPeerIp networkCode p)
  | .release .deletePeer p, _ => some (db.deleteWireguardPeer networkCode p)

/-- A new peer is created in the network of the state. -/
def IsOf (networkCode : String) : WireGuardCall → Prop
  | .createWithIp record _ => record.networkCode = networkCode
  | .createAutomatic record => record.networkCode = networkCode
  | _ => True

/-- What a call leaves, and the address it returns. -/
structure Result where
  lease : NetworkStateInner
  db : Database
  outcome : Except WireGuardError (Option Ipv4Addr)

variable (net : Ipv4Net) (gateway : Ipv4Addr)

/-- A reservation after the address is blocked: `vnt` runs, then the database answers. -/
def finish (kind : ReserveKind) (peerId : String) (vnt : List LeaseOp)
    (answer : Ipv4Addr → Option Database) (s : NetworkStateInner) (db : Database)
    (r : Except WireGuardError (NetworkStateInner × Ipv4Addr × Option Ipv4Addr)) : Result :=
  match r with
  | .error e => ⟨s, db, .error e⟩
  | .ok (s1, ip, previous) =>
    let s2 := vnt.foldl (fun s op => s.applyOp net gateway op) s1
    match answer ip with
    | none => ⟨s2.finishReservation peerId ip (kind.previousArg previous) false, db, .error .persist⟩
    | some db' => ⟨s2.finishReservation peerId ip (kind.previousArg previous) true, db', .ok (some ip)⟩

/-- A call, with any methods for devices in between and any answer of the database. -/
def run (call : WireGuardCall) (vnt : List LeaseOp) (answer : Ipv4Addr → Option Database)
    (s : NetworkStateInner) (db : Database) : Result :=
  match call with
  | .reserve p ip => finish net gateway .reserve p vnt answer s db
      ((s.startReserve net gateway p ip).map fun r => (r.1, ip, r.2))
  | .createWithIp record ip => finish net gateway .createWithIp record.peerId vnt answer s db
      ((s.prepareFor record.peerId ip).map fun r => (r.1, ip, r.2))
  | .createAutomatic record => finish net gateway .createAutomatic record.peerId vnt answer s db
      (s.startCreateAutomatic net gateway record.peerId)
  | .release _ p =>
    if isBlank p then ⟨s, db, .error .blankPeer⟩
    else
      let s1 := vnt.foldl (fun s op => s.applyOp net gateway op) s
      -- A release has no address of its own: the answer does not depend on it.
      match answer gateway with
      | none => ⟨s1, db, .error .persist⟩
      | some db' => ⟨(s1.releaseWireguardPeerIp p).1, db', .ok none⟩

end WireGuardCall

namespace NetworkStateInner

/-- The peer has at most one address. -/
def Single (s : NetworkStateInner) (p : String) : Prop :=
  ∀ a b, s.wireguardPeerIpMap.lookup a = some p → s.wireguardPeerIpMap.lookup b = some p → a = b

/-- What a call for the peer leaves: nothing has changed if it fails; otherwise the peer has exactly
the address that is returned, and the other peers have what they had. -/
def Leaves (s s' : NetworkStateInner) (p : String) : Except WireGuardError (Option Ipv4Addr) → Prop
  | .error _ => ∀ a, s'.wireguardPeerIpMap.lookup a = s.wireguardPeerIpMap.lookup a
  | .ok own => (∀ a, s'.wireguardPeerIpMap.lookup a = some p ↔ own = some a) ∧
      ∀ a q, q ≠ p →
        (s'.wireguardPeerIpMap.lookup a = some q ↔ s.wireguardPeerIpMap.lookup a = some q)

/-- The map and the rows of the network have the same addresses of WireGuard peers. -/
def AgreesWith (s : NetworkStateInner) (networkCode : String) (db : Database) : Prop :=
  ∀ p ip, s.wireguardPeerIpMap.lookup ip = some p ↔
    Allocation db.allocations networkCode .wireguardPeer p ip.toText

variable {net : Ipv4Net} {gateway : Ipv4Addr} {s s1 s2 : NetworkStateInner} {p : String}
  {ip : Ipv4Addr} {previous : Option Ipv4Addr}

theorem peers_foldl_vnt (net : Ipv4Net) (gateway : Ipv4Addr) {vnt : List LeaseOp}
    (hv : ∀ op ∈ vnt, op.isVnt = true) (s : NetworkStateInner) :
    (vnt.foldl (fun s op => s.applyOp net gateway op) s).wireguardPeerIpMap =
      s.wireguardPeerIpMap := by
  induction vnt generalizing s with
  | nil => rfl
  | cons op vnt ih =>
    rw [List.foldl_cons, ih fun x hx => hv x (List.mem_cons_of_mem _ hx)]
    exact (applyOp_step op).1.peers (hv op List.mem_cons_self)

/-- The map after an address is blocked. -/
theorem lookup_prepared (h : s.prepareFor p ip = .ok (s1, previous))
    (hm : s2.wireguardPeerIpMap = s1.wireguardPeerIpMap) (a : Ipv4Addr) :
    s2.wireguardPeerIpMap.lookup a = if a = ip then some p else s.wireguardPeerIpMap.lookup a := by
  obtain ⟨-, -, -, rfl⟩ := prepare_ok (prepareFor_ok h)
  rw [hm, HashMap.lookup_insert_if]

/-- A blocked address was the peer's own or nobody's. -/
theorem own_or_free (h : s.prepareFor p ip = .ok (s1, previous)) :
    s.wireguardPeerIpMap.lookup ip = some p ∨ s.wireguardPeerIpMap.lookup ip = none := by
  obtain ⟨-, hq, -, -⟩ := prepare_ok (prepareFor_ok h)
  cases hl : s.wireguardPeerIpMap.lookup ip with
  | none => exact .inr rfl
  | some q => exact .inl (by rw [hq q hl])

variable {arg : Option Ipv4Addr}

/-- The rollback takes the blocked address back, unless the peer had it. -/
theorem leaves_rollback {e : WireGuardError} (h : s.prepareFor p ip = .ok (s1, previous))
    (hm : s2.wireguardPeerIpMap = s1.wireguardPeerIpMap)
    (harg : arg = some ip ↔ s.wireguardPeerIpMap.lookup ip = some p) :
    s.Leaves (s2.finishReservation p ip arg false) p (.error e) := by
  intro a
  have hl := lookup_prepared h hm
  rw [finishReservation, if_neg Bool.false_ne_true, rollback_lookup, hl, hl, if_pos rfl]
  by_cases ha : a = ip
  · subst ha
    rcases own_or_free h with hown | hfree
    · rw [if_neg fun hc => hc.2.1 (harg.mpr hown), if_pos rfl, hown]
    · have hne : arg ≠ some a := fun he => by
        rw [harg.mp he] at hfree
        cases hfree
      rw [if_pos ⟨rfl, hne, rfl⟩, hfree]
  · rw [if_neg fun hc => ha hc.1, if_neg ha]

/-- The commit leaves the peer the new address only. -/
theorem leaves_commit (h : s.prepareFor p ip = .ok (s1, previous))
    (hm : s2.wireguardPeerIpMap = s1.wireguardPeerIpMap)
    (harg : ∀ a, a ≠ ip → (arg = some a ↔ s.wireguardPeerIpMap.lookup a = some p)) :
    s.Leaves (s2.finishReservation p ip arg true) p (.ok (some ip)) := by
  have hl := lookup_prepared h hm
  have hfinal : ∀ a, (s2.finishReservation p ip arg true).wireguardPeerIpMap.lookup a =
      if a = ip then some p
      else if s.wireguardPeerIpMap.lookup a = some p then none
      else s.wireguardPeerIpMap.lookup a := by
    intro a
    rw [finishReservation, if_pos rfl, commit_lookup, hl]
    by_cases ha : a = ip
    · rw [if_neg fun hc => hc.2.1 ha, if_pos ha, if_pos ha]
    · rw [if_neg ha, if_neg ha]
      by_cases hown : s.wireguardPeerIpMap.lookup a = some p
      · rw [if_pos ⟨(harg a ha).mpr hown, ha, hown⟩, if_pos hown]
      · rw [if_neg fun hc => hown hc.2.2, if_neg hown]
  refine ⟨fun a => ?_, fun a q hq => ?_⟩
  · rw [hfinal, Option.some_inj]
    by_cases ha : a = ip
    · simp [ha]
    · rw [if_neg ha]
      refine ⟨fun h => ?_, fun h => absurd h.symm ha⟩
      split at h
      · cases h
      · rename_i hne
        exact absurd h hne
  · rw [hfinal]
    by_cases ha : a = ip
    · subst ha
      rw [if_pos rfl]
      refine ⟨fun h => absurd (Option.some.inj h).symm hq, fun hl => ?_⟩
      rcases own_or_free h with hown | hfree
      · rw [hown] at hl
        exact absurd (Option.some.inj hl).symm hq
      · rw [hfree] at hl
        cases hl
    · rw [if_neg ha]
      split
      · rename_i hown
        rw [hown, Option.some_inj]
        exact ⟨fun h => (by cases h), fun h => absurd h.symm hq⟩
      · rfl

theorem leaves_release (hm : s2.wireguardPeerIpMap = s.wireguardPeerIpMap) :
    s.Leaves (s2.releaseWireguardPeerIp p).1 p (.ok none) := by
  refine ⟨fun a => ?_, fun a q hq => ?_⟩
  · rw [release_lookup]
    exact ⟨fun h => absurd rfl h.2, fun h => (by cases h)⟩
  · rw [release_lookup, hm]
    exact and_iff_left hq

end NetworkStateInner

namespace WireGuardCall

variable {net : Ipv4Net} {gateway : Ipv4Addr} {networkCode : String} {call : WireGuardCall}
  {vnt : List LeaseOp} {answer : Ipv4Addr → Option Database} {s : NetworkStateInner}
  {db db' : Database}

/-- An automatic creation is stored only for a peer without an address. -/
def StoredOnce (answer : Ipv4Addr → Option Database) (s : NetworkStateInner) : WireGuardCall → Prop
  | .createAutomatic record =>
    ∀ ip, (answer ip).isSome → ∀ a, s.wireguardPeerIpMap.lookup a ≠ some record.peerId
  | _ => True

variable {ip : Ipv4Addr} {p : String} {previous : Option Ipv4Addr} {s1 : NetworkStateInner}

/-- A reservation that passes its previous address on. -/
theorem leaves_finish {kind : ReserveKind}
    (hv : ∀ op ∈ vnt, op.isVnt = true) (hs : s.Single p)
    (h : s.prepareFor p ip = .ok (s1, previous)) (hk : kind.previousArg previous = previous) :
    let r := finish net gateway kind p vnt answer s db (.ok (s1, ip, previous))
    s.Leaves r.lease p r.outcome := by
  obtain ⟨-, -, hprev, -⟩ := prepare_ok (prepareFor_ok h)
  have harg : ∀ a, previous = some a ↔ s.wireguardPeerIpMap.lookup a = some p := fun a => by
    rw [hprev]
    exact wireguardPeerIp_iff hs a
  have hm := peers_foldl_vnt net gateway hv s1
  dsimp only [finish]
  rw [hk]
  split
  · exact leaves_rollback h hm (harg ip)
  · exact leaves_commit h hm fun a _ => harg a

/-- An automatic creation passes none: the address is free, and the peer had none if it is stored. -/
theorem leaves_finish_automatic (hv : ∀ op ∈ vnt, op.isVnt = true)
    (hfree : s.wireguardPeerIpMap.lookup ip = none)
    (honce : (answer ip).isSome → ∀ a, s.wireguardPeerIpMap.lookup a ≠ some p)
    (h : s.prepareFor p ip = .ok (s1, previous)) :
    let r := finish net gateway .createAutomatic p vnt answer s db (.ok (s1, ip, previous))
    s.Leaves r.lease p r.outcome := by
  have hm := peers_foldl_vnt net gateway hv s1
  dsimp only [finish, ReserveKind.previousArg]
  split
  · refine leaves_rollback h hm ⟨fun h => (by cases h), fun h => ?_⟩
    rw [hfree] at h
    cases h
  · rename_i db' ha
    refine leaves_commit h hm fun a _ => ⟨fun h => (by cases h), fun h => ?_⟩
    exact absurd h (honce (by rw [ha]; rfl) a)

/-- Every exit of every call. -/
theorem leaves_run (net : Ipv4Net) (gateway : Ipv4Addr) (db : Database)
    (hv : ∀ op ∈ vnt, op.isVnt = true) (hs : s.Single call.peerId)
    (honce : call.StoredOnce answer s) :
    s.Leaves (call.run net gateway vnt answer s db).lease call.peerId
      (call.run net gateway vnt answer s db).outcome := by
  cases call with
  | reserve p ip =>
    dsimp only [run]
    cases h : s.startReserve net gateway p ip with
    | error e => exact fun _ => rfl
    | ok r => exact leaves_finish hv hs (startReserve_ok h).2 rfl
  | createWithIp record ip =>
    dsimp only [run]
    cases h : s.prepareFor record.peerId ip with
    | error e => exact fun _ => rfl
    | ok r => exact leaves_finish hv hs h rfl
  | createAutomatic record =>
    dsimp only [run]
    cases h : s.startCreateAutomatic net gateway record.peerId with
    | error e => exact fun _ => rfl
    | ok r =>
      obtain ⟨s1, ip, previous⟩ := r
      obtain ⟨hf, hp⟩ := startCreateAutomatic_ok h
      exact leaves_finish_automatic hv (findAvailableIp_some hf).2.2.2
        (honce ip) hp
  | release kind p =>
    have hm := peers_foldl_vnt net gateway hv s
    dsimp only [run]
    split
    · exact fun _ => rfl
    · split
      · exact fun a => congrArg (AList.lookup a) hm
      · exact leaves_release hm

/-! ## The database -/

/-- The address that a successful call returns. -/
def own : WireGuardCall → Ipv4Addr → Option Ipv4Addr
  | .release _ _, _ => none
  | _, ip => some ip

/-- The database fails, or answers with what the statement of the call makes of it. -/
def Answers (networkCode : String) (db : Database) (answer : Ipv4Addr → Option Database)
    (call : WireGuardCall) : Prop :=
  ∀ ip db', answer ip = some db' → call.statement networkCode db ip = some db'

/-- A call fails and leaves the database, or leaves the answer of the database. -/
theorem run_cases (net : Ipv4Net) (gateway : Ipv4Addr) (call : WireGuardCall) (vnt : List LeaseOp)
    (answer : Ipv4Addr → Option Database) (s : NetworkStateInner) (db : Database) :
    (∃ e, (call.run net gateway vnt answer s db).outcome = .error e ∧
        (call.run net gateway vnt answer s db).db = db) ∨
      ∃ ip db', answer ip = some db' ∧ (call.run net gateway vnt answer s db).db = db' ∧
        (call.run net gateway vnt answer s db).outcome = .ok (call.own ip) := by
  have hfinish : ∀ kind p r, (∃ e, (finish net gateway kind p vnt answer s db r).outcome = .error e ∧
        (finish net gateway kind p vnt answer s db r).db = db) ∨
      ∃ ip db', answer ip = some db' ∧ (finish net gateway kind p vnt answer s db r).db = db' ∧
        (finish net gateway kind p vnt answer s db r).outcome = .ok (some ip) := by
    intro kind p r
    unfold finish
    split
    · exact .inl ⟨_, rfl, rfl⟩
    · split
      · exact .inl ⟨_, rfl, rfl⟩
      · rename_i db' ha
        exact .inr ⟨_, db', ha, rfl, rfl⟩
  cases call with
  | reserve p ip | createWithIp record ip | createAutomatic record => exact hfinish _ _ _
  | release kind p =>
    dsimp only [run]
    split
    · exact .inl ⟨_, rfl, rfl⟩
    · split
      · exact .inl ⟨_, rfl, rfl⟩
      · rename_i db' ha
        exact .inr ⟨_, db', ha, rfl, rfl⟩

/-- The rows of other owners stay, and the peer has the row `own` at most. -/
theorem allocation_of_rows {t t' : Table ipAllocations} {n : String} {own : Option Ipv4Addr}
    (h : ∀ x, x ∈ t'.rows ↔ (x ∈ t.rows ∧ x.isOwner n .wireguardPeer p = false) ∨
      ∃ ip, own = some ip ∧ x = ⟨n, ip.toText, .wireguardPeer, p⟩) (q : String) (ip : Ipv4Addr) :
    Allocation t' n .wireguardPeer q ip.toText ↔
      (q = p ∧ own = some ip) ∨ (q ≠ p ∧ Allocation t n .wireguardPeer q ip.toText) := by
  constructor
  · rintro ⟨x, hx, ho, hip⟩
    rcases (h x).mp hx with ⟨hx, hp⟩ | ⟨ip', hown, rfl⟩
    · refine .inr ⟨fun he => ?_, x, hx, ho, hip⟩
      rw [he, hp] at ho
      cases ho
    · have hq : p = q := (IpAllocation.isOwner_iff.mp ho).2.2
      exact .inl ⟨hq.symm, by rw [hown, Ipv4Addr.toText_injective hip]⟩
  · rintro (⟨rfl, hown⟩ | ⟨hq, x, hx, ho, hip⟩)
    · exact ⟨_, (h _).mpr (.inr ⟨ip, hown, rfl⟩), IpAllocation.isOwner_iff.mpr ⟨rfl, rfl, rfl⟩, rfl⟩
    · refine ⟨x, (h x).mpr (.inl ⟨hx, ?_⟩), ho, hip⟩
      rw [Bool.eq_false_iff]
      intro hp
      exact hq ((IpAllocation.isOwner_iff.mp ho).2.2.symm.trans (IpAllocation.isOwner_iff.mp hp).2.2)

/-- A peer is created only if it has no allocation. -/
theorem rows_insert {record : WireGuardPeerRecord}
    (h : db.insertWireguardPeerWithIp record ip = some db') :
    (∀ x ∈ db.allocations.rows, x.isOwner record.networkCode .wireguardPeer record.peerId = false) ∧
      db'.allocations.rows = db.allocations.rows ++
        [⟨record.networkCode, ip.toText, .wireguardPeer, record.peerId⟩] := by
  obtain ⟨-, -, peers, -, allocations, ha, rfl⟩ := Database.insertWireguardPeerWithIp_eq_some.mp h
  refine ⟨fun x hx => ?_, Table.insert_eq_some.mp ha⟩
  have hclash := (Table.insert_isSome.mp (Option.isSome_of_eq_some ha)).2 x hx
  simp only [ipAllocations, Bool.or_eq_false_iff] at hclash
  exact hclash.1

theorem allocation_statement (hof : call.IsOf networkCode)
    (h : call.statement networkCode db ip = some db') (q : String) (a : Ipv4Addr) :
    Allocation db'.allocations networkCode .wireguardPeer q a.toText ↔
      (q = call.peerId ∧ call.own ip = some a) ∨
        (q ≠ call.peerId ∧ Allocation db.allocations networkCode .wireguardPeer q a.toText) := by
  have hinsert : ∀ record : WireGuardPeerRecord, record.networkCode = networkCode →
      db.insertWireguardPeerWithIp record ip = some db' →
      (Allocation db'.allocations networkCode .wireguardPeer q a.toText ↔
        (q = record.peerId ∧ some ip = some a) ∨
          (q ≠ record.peerId ∧ Allocation db.allocations networkCode .wireguardPeer q a.toText)) := by
    rintro record rfl h
    obtain ⟨hnone, hrows⟩ := rows_insert h
    refine allocation_of_rows (fun x => ?_) q a
    rw [hrows, List.mem_append, List.mem_singleton]
    refine or_congr ⟨fun hx => ⟨hx, hnone x hx⟩, And.left⟩ ?_
    simp
  cases call with
  | reserve p ip' =>
    obtain ⟨t, ht, hdb⟩ := Option.bind_eq_some_iff.mp h
    cases hdb
    refine allocation_of_rows (fun x => ?_) q a
    rw [Table.mem_put ht x]
    simp [own, peerId]
  | createWithIp record ip' | createAutomatic record => exact hinsert record hof h
  | release kind p =>
    have hdelete : db'.allocations =
        db.allocations.delete (IpAllocation.isOwner networkCode .wireguardPeer p) := by
      cases kind <;> cases h <;> rfl
    refine allocation_of_rows (fun x => ?_) q a
    rw [hdelete, Table.mem_delete]
    simp [own, peerId]

/-- The database gives a peer at most one address. -/
theorem single_of_agrees (h : s.AgreesWith networkCode db) (p : String) : s.Single p := by
  intro a b ha hb
  exact Ipv4Addr.toText_injective (((h p a).mp ha).unique ((h p b).mp hb))

theorem storedOnce_of_agrees (h : s.AgreesWith networkCode db) (hof : call.IsOf networkCode)
    (ha : call.Answers networkCode db answer) : call.StoredOnce answer s := by
  cases call with
  | createAutomatic record =>
    intro ip hsome a hl
    obtain ⟨db', hdb⟩ := Option.isSome_iff_exists.mp hsome
    obtain ⟨x, hx, ho, -⟩ := (h record.peerId a).mp hl
    have hnone := (rows_insert (ha ip db' hdb)).1 x hx
    cases hof
    rw [ho] at hnone
    cases hnone
  | reserve p ip => trivial
  | createWithIp record ip => trivial
  | release kind p => trivial

theorem agrees_run (hv : ∀ op ∈ vnt, op.isVnt = true) (hof : call.IsOf networkCode)
    (ha : call.Answers networkCode db answer) (h : s.AgreesWith networkCode db) :
    (call.run net gateway vnt answer s db).lease.AgreesWith networkCode
      (call.run net gateway vnt answer s db).db := by
  have hleaves := leaves_run net gateway db hv (single_of_agrees h call.peerId)
    (storedOnce_of_agrees h hof ha)
  rcases run_cases net gateway call vnt answer s db with ⟨e, he, hdb⟩ | ⟨ip, db', hans, hdb, hok⟩
  · rw [he] at hleaves
    intro p a
    rw [hdb, hleaves a]
    exact h p a
  · rw [hok] at hleaves
    intro p a
    rw [hdb, allocation_statement hof (ha ip db' hans)]
    by_cases hp : p = call.peerId
    · rw [hp, hleaves.1 a]
      simp
    · rw [hleaves.2 a p hp, h p a]
      simp [hp]

/-- **Atomic reservations.** A call for a peer with at most one address, whose creation is stored only if
it has none, leaves the map as it was if it fails; if it succeeds, the peer has exactly the address that
is returned and the other peers have theirs. With the statements of the database this holds of every
call before which database and map agree, and they agree after it. -/
theorem reservations_atomic (net : Ipv4Net) (gateway : Ipv4Addr) (networkCode : String)
    (call : WireGuardCall) (vnt : List LeaseOp) (answer : Ipv4Addr → Option Database)
    (s : NetworkStateInner) (db : Database) (hv : ∀ op ∈ vnt, op.isVnt = true) :
    let r := call.run net gateway vnt answer s db
    (s.Single call.peerId → call.StoredOnce answer s → s.Leaves r.lease call.peerId r.outcome) ∧
      (call.IsOf networkCode → call.Answers networkCode db answer → s.AgreesWith networkCode db →
        s.Leaves r.lease call.peerId r.outcome ∧ r.lease.AgreesWith networkCode r.db) :=
  ⟨fun hs honce => leaves_run net gateway db hv hs honce, fun hof ha h =>
    ⟨leaves_run net gateway db hv (single_of_agrees h call.peerId) (storedOnce_of_agrees h hof ha),
      agrees_run hv hof ha h⟩⟩

def emptyDb : Database where
  networks := ["home"]
  devices := .empty
  peers := .empty
  allocations := .empty

theorem agreesWith_empty : empty.AgreesWith "home" emptyDb := by
  intro p ip
  constructor
  · intro h
    cases h
  · rintro ⟨r, hr, -⟩
    cases hr

def phoneRecord : WireGuardPeerRecord where
  networkCode := "home"
  peerId := "phone"
  publicKey := List.replicate 32 1
  enabled := true
  createdAt := 0
  updatedAt := 0

/-- A peer is created with an automatic address, and a device registers during the write. -/
theorem reservations_atomic_automatic :
    let r := (WireGuardCall.createAutomatic phoneRecord).run
      defaultNet (homeIp 1)
      [.allocateIp (anyIpReq "laptop" none) 7 0]
      (emptyDb.insertWireguardPeerWithIp phoneRecord) NetworkStateInner.empty emptyDb
    r.outcome = .ok (some (homeIp 2)) ∧
      NetworkStateInner.empty.Leaves r.lease "phone" r.outcome ∧ r.lease.AgreesWith "home" r.db :=
  ⟨rfl, (reservations_atomic defaultNet (homeIp 1)
    "home" (.createAutomatic phoneRecord)
    [.allocateIp (anyIpReq "laptop" none) 7 0]
    (emptyDb.insertWireguardPeerWithIp phoneRecord) NetworkStateInner.empty emptyDb
    (by decide)).2 rfl (fun _ _ h => h) agreesWith_empty⟩

/-- A lease state in which a peer has the addresses. -/
def withAddresses (ips : List Ipv4Addr) : NetworkStateInner :=
  { NetworkStateInner.empty with wireguardPeerIpMap := .ofPairs (ips.map (·, "phone")) }

/-- A peer with two addresses asks for the one that it has, the database fails, and the rollback takes
the address: the search for the previous address has found the other one. And a peer with an address
is created with an automatic one, which a database that accepts it leaves as the second. -/
theorem rollback_takes_own_address :
    (let s := withAddresses [homeIp 9, homeIp 8]
      let r := (WireGuardCall.reserve "phone" (homeIp 9)).run
        defaultNet (homeIp 1) [] (fun _ => none)
        s emptyDb
      r.outcome = .error .persist ∧
        s.wireguardPeerIpMap.lookup (homeIp 9) = some "phone" ∧
        r.lease.wireguardPeerIpMap.lookup (homeIp 9) = none ∧
        ¬ s.Leaves r.lease "phone" r.outcome) ∧
    let s := withAddresses [homeIp 9]
    let r := (WireGuardCall.createAutomatic phoneRecord).run
      defaultNet (homeIp 1) [] (fun _ => some emptyDb)
      s emptyDb
    s.Single "phone" ∧ r.outcome = .ok (some (homeIp 2)) ∧
      r.lease.wireguardPeerIpMap.lookup (homeIp 9) = some "phone" ∧
      ¬ s.Leaves r.lease "phone" r.outcome := by
  refine ⟨⟨rfl, by decide, by decide, fun h => ?_⟩, fun a b ha hb => ?_, rfl, by decide, fun h => ?_⟩
  · exact absurd (h (homeIp 9)) (by decide)
  · have ha := HashMap.mem_of_lookup_ofPairs ha
    have hb := HashMap.mem_of_lookup_ofPairs hb
    simp only [List.map_cons, List.map_nil, List.mem_singleton, Prod.mk.injEq, and_true] at ha hb
    rw [ha, hb]
  · exact absurd ((h.1 (homeIp 9)).mp (by decide)) (by decide)

end WireGuardCall

end Vntc
