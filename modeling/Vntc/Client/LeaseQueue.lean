import Vntc.Client.P2p

/-!
# Leases of one session at a client

What a client has of the session of one WireGuard peer: the offers on their way in its queue and the
entries of its runtime, told from those of other sessions by their lease ids.

The server keeps one lease id for each address, the newest. The client keeps one entry for each
address, whose lease id is that of the newest offer **if it took that offer**. So the revocation
finds the entry as long as the client refuses no offer while it has an entry of an earlier one.
-/

namespace Vntc

open Lib

namespace Client

/-! ## Messages of a session -/

/-- The lease of a message, if it is an offer with one of the ids. -/
def leaseIn (ids : List (BitVec 64)) : WireGuardP2pControl → Option (BitVec 64)
  | .offer offer => if ids.contains offer.leaseId then some offer.leaseId else none
  | _ => none

/-- The leases on their way to a client, in order. -/
def leasesIn (ids : List (BitVec 64)) (pending : List WireGuardP2pControl) : List (BitVec 64) :=
  pending.filterMap (leaseIn ids)

section
variable {ids taken revoked : List (BitVec 64)} {control : WireGuardP2pControl}
  {pending : List WireGuardP2pControl} {id : BitVec 64}

theorem leaseIn_eq_some :
    leaseIn ids control = some id ↔
      ∃ offer, control = .offer offer ∧ offer.leaseId ∈ ids ∧ offer.leaseId = id := by
  cases control with
  | offer offer =>
    simp only [leaseIn, List.contains_iff_mem, Option.ite_none_right_eq_some, Option.some_inj,
      WireGuardP2pControl.offer.injEq, exists_eq_left']
  | revoke | missing => simp [leaseIn]

theorem leaseIn_eq_none :
    leaseIn ids control = none ↔ ∀ offer, control = .offer offer → offer.leaseId ∉ ids := by
  rw [Option.eq_none_iff_forall_ne_some]
  constructor
  · intro h offer hc hm
    exact h _ (leaseIn_eq_some.mpr ⟨offer, hc, hm, rfl⟩)
  · intro h id he
    obtain ⟨offer, hc, hm, -⟩ := leaseIn_eq_some.mp he
    exact h offer hc hm

theorem leasesIn_cons_none (h : leaseIn ids control = none) :
    leasesIn ids (control :: pending) = leasesIn ids pending :=
  List.filterMap_cons_none h

theorem leasesIn_append (later : List WireGuardP2pControl) :
    leasesIn ids (pending ++ later) = leasesIn ids pending ++ leasesIn ids later :=
  List.filterMap_append

/-- Messages without an offer of the session. -/
theorem leasesIn_eq_nil :
    leasesIn ids pending = [] ↔ ∀ control ∈ pending, leaseIn ids control = none :=
  List.filterMap_eq_nil_iff

/-- An id that no offer has makes no difference. -/
theorem leaseIn_cons (h : leaseIn [id] control = none) :
    leaseIn (id :: ids) control = leaseIn ids control := by
  cases control with
  | offer offer =>
    have hne : offer.leaseId ≠ id := fun he => leaseIn_eq_none.mp h offer rfl (by rw [he]; simp)
    simp [leaseIn, hne]
  | revoke | missing => rfl

theorem leasesIn_cons_id (h : ∀ control ∈ pending, leaseIn [id] control = none) :
    leasesIn (id :: ids) pending = leasesIn ids pending :=
  List.filterMap_congr fun control hm => leaseIn_cons (h control hm)

/-- The runtime has an entry with one of the ids. -/
def Holds (ids : List (BitVec 64)) (peers : HashMap Ipv4Addr ActivePeer) : Prop :=
  ∃ peer ∈ peers.values, peer.leaseId ∈ ids

instance (ids : List (BitVec 64)) (peers : HashMap Ipv4Addr ActivePeer) :
    Decidable (Holds ids peers) :=
  inferInstanceAs (Decidable (∃ _ ∈ _, _))

theorem holds_iff {peers : HashMap Ipv4Addr ActivePeer} :
    Holds ids peers ↔ ∃ ip peer, peers.lookup ip = some peer ∧ peer.leaseId ∈ ids := by
  constructor
  · rintro ⟨peer, hp, hm⟩
    obtain ⟨ip, hip⟩ := HashMap.mem_values.mp hp
    exact ⟨ip, peer, hip, hm⟩
  · rintro ⟨ip, peer, hip, hm⟩
    exact ⟨peer, HashMap.mem_values.mpr ⟨ip, hip⟩, hm⟩

/-- The lease id is on no offer for the client and in no entry. -/
def P2pClient.Unused (c : P2pClient) (leaseId : BitVec 64) : Prop :=
  (∀ control ∈ c.pending, leaseIn [leaseId] control = none) ∧ ¬ Holds [leaseId] c.peers

instance (c : P2pClient) (leaseId : BitVec 64) : Decidable (c.Unused leaseId) :=
  inferInstanceAs (Decidable (_ ∧ _))

/-! ## What a client has of a session -/

/-- What a client has of a session: `ids` are the lease ids of the offers to it, and `taken` those
of the offers that it takes from its queue, the newest first. -/
structure Tracked (peerIp : Ipv4Addr) (publicKey : Bytes) (addr : NetworkAddr)
    (ids taken : List (BitVec 64)) (pending : List WireGuardP2pControl)
    (peers : HashMap Ipv4Addr ActivePeer) : Prop where
  last : ∀ id, (leasesIn ids pending).getLast? = some id → taken.head? = some id
  offer : ∀ offer, .offer offer ∈ pending → offer.leaseId ∈ ids →
    offer.peerIp = peerIp ∧ offer.peerPublicKey = publicKey ∧ offer.leaseId ≠ 0
  entry : ∀ ip peer, peers.lookup ip = some peer → peer.leaseId ∈ ids →
    ip = peerIp ∧ Admits addr peerIp publicKey ∧
      (leasesIn ids pending = [] → taken.head? = some peer.leaseId)

/-- The session is over: its last offer is being revoked, or nothing of it is left. -/
inductive Closing (ids taken revoked : List (BitVec 64)) (pending : List WireGuardP2pControl)
    (peers : HashMap Ipv4Addr ActivePeer) : Prop
  | clean (hl : leasesIn ids pending = []) (hp : ¬ Holds ids peers)
  | revoking {before after : List WireGuardP2pControl} {id : BitVec 64}
      (hp : pending = before ++ .revoke id :: after) (hr : id ∈ revoked)
      (ht : taken.head? = some id) (hl : leasesIn ids after = [])

variable {peerIp : Ipv4Addr} {publicKey : Bytes} {addr : NetworkAddr}
  {peers peers' : HashMap Ipv4Addr ActivePeer} {nowMs : Nat}

/-! ## Messages to the runtime -/

/-- Entries with other ids, and lost entries, make no difference. -/
theorem Tracked.entries (h : Tracked peerIp publicKey addr ids taken pending peers)
    (hp : ∀ ip peer, peers'.lookup ip = some peer →
      peers.lookup ip = some peer ∨ peer.leaseId ∉ ids) :
    Tracked peerIp publicKey addr ids taken pending peers' where
  last := h.last
  offer := h.offer
  entry ip peer hip hm := by
    rcases hp ip peer hip with he | hn
    · exact h.entry ip peer he hm
    · exact absurd hm hn

/-- The runtime of a client gets a message that is not an offer of the session. -/
theorem entries_applyControl (hc : leaseIn ids control = none) {ip : Ipv4Addr} {peer : ActivePeer}
    (h : (applyControl addr peers control nowMs).lookup ip = some peer) :
    peers.lookup ip = some peer ∨ peer.leaseId ∉ ids := by
  rcases mem_applyControl h with he | ⟨offer, ho, hid⟩
  · exact .inl he
  · exact .inr (hid ▸ leaseIn_eq_none.mp hc offer ho)

theorem not_holds_applyControl (hc : leaseIn ids control = none) (hp : ¬ Holds ids peers) :
    ¬ Holds ids (applyControl addr peers control nowMs) := by
  rw [holds_iff] at hp ⊢
  rintro ⟨ip, peer, hip, hm⟩
  rcases entries_applyControl hc hip with he | hn
  · exact hp ⟨ip, peer, he, hm⟩
  · exact hn hm

/-- A message of the queue gets to the runtime. An offer of the session is refused only if there is
no entry that it could renew. -/
theorem Tracked.apply (h : Tracked peerIp publicKey addr ids taken (control :: pending) peers)
    (ht : ∀ offer, control = .offer offer → offer.leaseId ∈ ids → Holds ids peers →
      Timely offer nowMs) :
    Tracked peerIp publicKey addr ids taken pending (applyControl addr peers control nowMs) := by
  cases hc : leaseIn ids control with
  | none =>
    have hl : leasesIn ids (control :: pending) = leasesIn ids pending := leasesIn_cons_none hc
    refine Tracked.entries ⟨?_, fun offer ho => h.offer offer (List.mem_cons_of_mem _ ho), ?_⟩
      fun ip peer hip => entries_applyControl hc hip
    · rw [← hl]; exact h.last
    · rw [← hl]; exact h.entry
  | some id =>
    have hl : leasesIn ids (control :: pending) = id :: leasesIn ids pending :=
      List.filterMap_cons_some hc
    obtain ⟨offer, rfl, hm, rfl⟩ := leaseIn_eq_some.mp hc
    obtain ⟨hip, hkey, h0⟩ := h.offer offer List.mem_cons_self hm
    -- The offer is the newest one, unless there is another one behind it.
    have hlast : leasesIn ids pending = [] → taken.head? = some offer.leaseId := by
      intro hn
      exact h.last _ (by rw [hl, hn]; rfl)
    refine ⟨?_, fun o ho => h.offer o (List.mem_cons_of_mem _ ho), ?_⟩
    · intro id hid
      refine h.last id ?_
      rw [hl, List.getLast?_cons, hid]
      rfl
    intro ip peer hl' hm'
    simp only [applyControl] at hl'
    rcases applyOffer_cases addr peers offer nowMs with ⟨he, hr⟩ | ⟨ha, he⟩
    · -- A refused offer: with an entry of the session it would have been taken.
      rw [he] at hl'
      obtain ⟨rfl, ha, -⟩ := h.entry ip peer hl' hm'
      refine absurd ⟨?_, h0, ht offer rfl hm (holds_iff.mpr ⟨ip, peer, hl', hm'⟩), ?_⟩ hr
      · rw [hip, hkey]; exact ha
      · rw [hip, hl']; rfl
    · rw [hip, hkey] at ha
      rw [he] at hl'
      split at hl'
      · rename_i hipe
        cases hl'
        exact ⟨hipe.trans hip, ha, hlast⟩
      · rename_i hipe
        -- Every other entry of the session would be at the same address.
        exact absurd ((h.entry ip peer hl' hm').1.trans hip.symm) hipe

/-- A message of the queue gets to the runtime after the session. -/
theorem Closing.apply (h : Closing ids taken revoked (control :: pending) peers)
    (ht : Tracked peerIp publicKey addr ids taken (control :: pending) peers) :
    Closing ids taken revoked pending (applyControl addr peers control nowMs) := by
  cases h with
  | clean hl hp =>
    have hc := leasesIn_eq_nil.mp hl control List.mem_cons_self
    exact .clean ((leasesIn_cons_none hc).symm.trans hl) (not_holds_applyControl hc hp)
  | @revoking before after id hp hr hid hl =>
    cases before with
    | cons c before =>
      cases hp
      exact .revoking rfl hr hid hl
    | nil =>
      -- This is the revocation, and there is no offer of the session behind it.
      cases hp
      have hc : leaseIn ids (.revoke id) = none := rfl
      have hn : leasesIn ids (.revoke id :: pending) = [] := (leasesIn_cons_none hc).trans hl
      refine .clean hl fun hh => ?_
      obtain ⟨ip, peer, hip, hm⟩ := holds_iff.mp hh
      simp only [applyControl, HashMap.lookup_eraseOpt] at hip
      split at hip
      · cases hip
      rename_i hne
      obtain ⟨rfl, -, hhead⟩ := ht.entry ip peer hip hm
      have hpid : peer.leaseId = id := Option.some.inj ((hhead hn).symm.trans hid)
      -- The entry that the revocation removes has an id of the session, so it is this one.
      cases hf : peers.findMap fun ip peer => if peer.leaseId = id then some ip else none with
      | none =>
        have := HashMap.findMap_none.mp hf ip peer hip
        rw [if_pos hpid] at this
        cases this
      | some ip' =>
        obtain ⟨k, peer', hk, hpk⟩ := HashMap.findMap_some hf
        split at hpk
        · rename_i hpid'
          cases hpk
          obtain ⟨rfl, -, -⟩ := ht.entry ip' peer' hk (hpid' ▸ hpid ▸ hm)
          exact hne hf
        · cases hpk

/-! ## Messages to the queue -/

/-- A message that is not an offer of the session joins the queue. -/
theorem Tracked.append (h : Tracked peerIp publicKey addr ids taken pending peers)
    {later : List WireGuardP2pControl} (hl : leasesIn ids later = []) :
    Tracked peerIp publicKey addr ids taken (pending ++ later) peers := by
  have he : leasesIn ids (pending ++ later) = leasesIn ids pending := by
    rw [leasesIn_append, hl, List.append_nil]
  refine ⟨?_, fun offer ho hm => ?_, ?_⟩
  · rw [he]; exact h.last
  · rcases List.mem_append.mp ho with ho | ho
    · exact h.offer offer ho hm
    · exact absurd hm (leaseIn_eq_none.mp (leasesIn_eq_nil.mp hl _ ho) offer rfl)
  · rw [he]; exact h.entry

theorem Closing.append (h : Closing ids taken revoked pending peers)
    {later : List WireGuardP2pControl} (hl : leasesIn ids later = []) :
    Closing ids taken revoked (pending ++ later) peers := by
  cases h with
  | clean hl' hp => exact .clean (by rw [leasesIn_append, hl', hl]; rfl) hp
  | @revoking before after id hp hr hid hl' =>
    subst hp
    have ha : leasesIn ids (after ++ later) = [] := by rw [leasesIn_append, hl', hl]; rfl
    exact .revoking (List.append_assoc before _ later) hr hid ha

section

variable (h : Tracked peerIp publicKey addr ids taken pending peers)

include h

/-- A new offer joins the queue. -/
theorem Tracked.offered (offer : WireGuardP2pOffer) (hip : offer.peerIp = peerIp)
    (hkey : offer.peerPublicKey = publicKey) (h0 : offer.leaseId ≠ 0)
    (hu : ∀ control ∈ pending, leaseIn [offer.leaseId] control = none)
    (hh : ¬ Holds [offer.leaseId] peers) :
    Tracked peerIp publicKey addr (offer.leaseId :: ids) (offer.leaseId :: taken)
      (pending ++ [.offer offer]) peers := by
  have he : leasesIn (offer.leaseId :: ids) (pending ++ [.offer offer]) =
      leasesIn ids pending ++ [offer.leaseId] := by
    rw [leasesIn_append, leasesIn_cons_id hu]
    simp [leasesIn, leaseIn]
  refine ⟨fun id hid => ?_, fun o ho hm => ?_, fun ip peer hlk hm => ?_⟩
  · rw [he, List.getLast?_concat] at hid
    exact hid
  · rcases List.mem_append.mp ho with ho | ho
    · rcases List.mem_cons.mp hm with hm | hm
      · exact absurd (by rw [hm]; simp) (leaseIn_eq_none.mp (hu _ ho) o rfl)
      · exact h.offer o ho hm
    · cases List.mem_singleton.mp ho
      exact ⟨hip, hkey, h0⟩
  · rcases List.mem_cons.mp hm with hm | hm
    · exact absurd (holds_iff.mpr ⟨ip, peer, hlk, by rw [hm]; simp⟩) hh
    · obtain ⟨hpip, ha, -⟩ := h.entry ip peer hlk hm
      exact ⟨hpip, ha, fun hn => by rw [he] at hn; simp at hn⟩

/-- A new offer is sent, but the client does not take it. -/
theorem Tracked.lost
    (hu : ∀ control ∈ pending, leaseIn [id] control = none) (hh : ¬ Holds [id] peers) :
    Tracked peerIp publicKey addr (id :: ids) taken pending peers := by
  have he : leasesIn (id :: ids) pending = leasesIn ids pending := leasesIn_cons_id hu
  refine ⟨?_, fun o ho hm => ?_, fun ip peer hlk hm => ?_⟩
  · rw [he]; exact h.last
  · rcases List.mem_cons.mp hm with hm | hm
    · exact absurd (by rw [hm]; simp) (leaseIn_eq_none.mp (hu _ ho) o rfl)
    · exact h.offer o ho hm
  · rcases List.mem_cons.mp hm with hm | hm
    · exact absurd (holds_iff.mpr ⟨ip, peer, hlk, by rw [hm]; simp⟩) hh
    · rw [he]; exact h.entry ip peer hlk hm

/-- Without an offer that the client takes nothing is left. -/
theorem Tracked.not_holds
    (ht : taken.head? = none) : leasesIn ids pending = [] ∧ ¬ Holds ids peers := by
  have hl : leasesIn ids pending = [] := by
    cases hg : (leasesIn ids pending).getLast? with
    | none => exact List.getLast?_eq_none_iff.mp hg
    | some id =>
      have := h.last id hg
      rw [ht] at this
      cases this
  refine ⟨hl, fun hh => ?_⟩
  obtain ⟨ip, peer, hip, hm⟩ := holds_iff.mp hh
  have := (h.entry ip peer hip hm).2.2 hl
  rw [ht] at this
  cases this

end

end

end Client

end Vntc
