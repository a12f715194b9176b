import Vntc.Server.WireGuard.Runtime

/-!
# Generations of the records of peers

What the runtime has of a peer is of the current generation of the peer's record, or some operation
still owes the peer a revocation.
-/

namespace Vntc

open Lib AdminCall HashMap

/-! ## Operations and their revocations -/

/-- The operation has changed the record and will have the session ended. -/
def AdminCall.revokes (call : AdminCall) : Bool :=
  match call.op, call.stage with
  | .move _, .stored ip previous _ => changed previous ip
  | _, .cleared removed _ => removed
  | .setEnabled false, .updated _ => true
  | _, .revoking _ => true
  | _, _ => false

/-- The generation that every session has from now on, for an operation that needs no revocation or
whose revocation is done. -/
def AdminCall.fence (call : AdminCall) : Option Nat :=
  match call.op, call.stage with
  | .move _, .stored ip previous g => if changed previous ip then none else some g
  | _, .cleared false g => some g
  | _, .acknowledged g => some g
  | _, _ => none

/-- A move that will revoke nothing, before its write: the address that the peer has. -/
def AdminCall.unmoved (call : AdminCall) : Option (Option Ipv4Addr) :=
  match call.op, call.stage with
  | .move _, .prepared ip previous => if changed previous ip then none else some previous
  | _, _ => none

/-- The row is disabled, and not yet read back. -/
def AdminCall.disabled (call : AdminCall) : Bool :=
  match call.op, call.stage with
  | .setEnabled false, .updated _ => true
  | _, _ => false

/-- The generation of an operation's write. -/
def AdminCall.stamp (call : AdminCall) : Option Nat :=
  match call.stage with
  | .stored _ _ g | .cleared _ g | .updated g | .revoking g | .acknowledged g => some g
  | _ => none

theorem AdminCall.stamp_of_fence {call : AdminCall} {g : Nat} (h : call.fence = some g) :
    call.stamp = some g := by
  unfold fence at h
  unfold stamp
  split at h
  · rename_i hs; rw [hs]; split at h
    · cases h
    · exact h
  · rename_i hs; rw [hs]; exact h
  · rename_i hs; rw [hs]; exact h
  · cases h

namespace RevokeState

variable (st : RevokeState)

/-! ## Operations that revoke nothing -/

/-- No operation on `p` owes a revocation. -/
def Unowed (p : String) : Prop := ∀ call ∈ st.calls.values, call.peerId = p → call.revokes = false

/-- An operation that revokes nothing writes only when no other operation owes the peer a
revocation, and a move finds the lease state and the row with the same address. A row that was
disabled can be read back. -/
def Careful : RevokeOp → Prop
  | .enter c _ => ∀ call ∈ st.calls.lookup c, call.op = .release → st.lock = none →
      st.allocations.lookup call.peerId = none → st.Unowed call.peerId
  | .persist _ => ∀ r ∈ st.holder, r.2.unmoved ≠ none →
      r.2.unmoved = some (st.allocations.lookup r.2.peerId) ∧ st.Unowed r.2.peerId
  | .finish ok => ∀ r ∈ st.holder, r.2.disabled = true → ok = true
  | _ => True

instance (p : String) : Decidable (st.Unowed p) :=
  inferInstanceAs (Decidable (∀ call ∈ st.calls.values, _))

instance : ∀ op, Decidable (st.Careful op)
  | .enter .. => inferInstanceAs (Decidable (∀ call ∈ st.calls.lookup _, _))
  | .persist _ => inferInstanceAs (Decidable (∀ r ∈ st.holder, _))
  | .finish _ => inferInstanceAs (Decidable (∀ r ∈ st.holder, _))
  | .method _ | .invoke .. | .handle _ | .reply _ | .handshake .. | .loadRoutes _ | .activate ..
  | .expire _ => inferInstanceAs (Decidable True)

/-! ## The invariant -/

/-- The runtime has a session of `p`, or a record for one. -/
def Built (p : String) (peer : Activated) : Prop :=
  st.active.lookup p = some peer ∨ ∃ complete, st.loading = some ⟨p, peer, complete⟩

/-- The database has the record that the peer was built from. -/
def Recorded (p : String) (peer : Activated) : Prop :=
  ∃ row, st.peers.lookup p = some row ∧ row.enabled = true ∧ row.publicKey = peer.publicKey ∧
    st.allocations.lookup p = some peer.reservedIp

def Owed (p : String) : Prop :=
  ∃ c call, st.calls.lookup c = some call ∧ call.peerId = p ∧ call.revokes = true

/-- An operation on `p` needs no more revocation. -/
def Fenced (p : String) (g : Nat) : Prop :=
  (p, g) ∈ st.returned ∨
    ∃ c call, st.calls.lookup c = some call ∧ call.peerId = p ∧ call.fence = some g

/-- The row of `p` is deleted, and its revocation still to come. -/
def Deleting (p : String) : Prop :=
  ∃ c call, st.lock = some c ∧ st.calls.lookup c = some call ∧ call.peerId = p ∧
    call.op = .delete ∧ call.revokes = true ∧ st.peers.lookup p = none

/-- The peer's row has its key; a row with another key is a new one, after a deletion. -/
def Keyed (p : String) (peer : Activated) : Prop :=
  (∃ row, st.peers.lookup p = some row ∧ row.publicKey = peer.publicKey) ∨ st.Deleting p

/-- What the runtime has, against the database and the operations. -/
structure Dated (st : RevokeState) : Prop where
  bounded : ∀ p peer, st.Built p peer → peer.generation ≤ st.generation p
  recorded : ∀ p peer, st.Built p peer → peer.generation = st.generation p → st.Recorded p peer
  owed : ∀ p peer, st.Built p peer → peer.generation < st.generation p → st.Owed p
  keyed : ∀ p peer, st.Built p peer → st.Keyed p peer
  stamped : ∀ c call g, st.calls.lookup c = some call → call.stamp = some g →
    g ≤ st.generation call.peerId
  fenced : ∀ p g, st.Fenced p g →
    g ≤ st.generation p ∧ ∀ peer, st.Built p peer → g ≤ peer.generation

structure SameRuntime (st st' : RevokeState) : Prop where
  active : st'.active = st.active
  peersByPublicKey : st'.peersByPublicKey = st.peersByPublicKey
  loading : st'.loading = st.loading
  online : st'.state.onlineEndpoints = st.state.onlineEndpoints

variable {st st' : RevokeState}

variable {p q : String} {peer : Activated} {c g : Nat} {call : AdminCall}
  {peers : HashMap String PeerRow}

theorem SameRuntime.built (h : SameRuntime st st') : st'.Built p peer ↔ st.Built p peer := by
  simp only [Built, h.active, h.loading]

/-! ### Keys -/

/-- The row of `p` has the key; or it is deleted, and its revocation still to come. -/
def HasKey (st : RevokeState) (p : String) (publicKey : Bytes) : Prop :=
  (∃ row, st.peers.lookup p = some row ∧ row.publicKey = publicKey) ∨ st.Deleting p

variable {publicKey : Bytes} {stage : AdminStage} {allocations : HashMap String Ipv4Addr}
  {row : PeerRow} {ip : Ipv4Addr} {r : Nat × AdminCall}

theorem HasKey.same (h : st.HasKey p publicKey) (hp : st'.peers = st.peers)
    (hd : st.Deleting p → st'.Deleting p) : st'.HasKey p publicKey := by
  rcases h with hr | hr
  · exact .inl (by rw [hp]; exact hr)
  · exact .inr (hd hr)

/-- A write while no deletion is pending: the row keeps its key, or is deleted. -/
theorem HasKey.write (h : st.HasKey p publicKey) (hnd : ¬ st.Deleting p)
    (hw : ∀ row, st.peers.lookup p = some row →
      (∃ row', st'.peers.lookup p = some row' ∧ row'.publicKey = row.publicKey) ∨ st'.Deleting p) :
    st'.HasKey p publicKey := by
  obtain ⟨row, hr, rfl⟩ := h.resolve_right hnd
  exact hw row hr

/-- The operation ends; it is no deletion that still has to revoke. -/
theorem Deleting.drop (hc : st.calls.lookup c = some call)
    (hcr : call.op = .delete → call.revokes = false) (h : st.Deleting p) :
    (st.drop c).Deleting p := by
  obtain ⟨d, call', hl, hd, hid, hop, hrev, hp⟩ := h
  have hdc : d ≠ c := by
    rintro rfl; rw [hc] at hd; cases hd; rw [hcr hop] at hrev; cases hrev
  refine ⟨d, call', ?_, ?_, hid, hop, hrev, hp⟩
  · simp only [RevokeState.drop, unlock, hl, Option.some.injEq, hdc, if_false]
  · simp only [RevokeState.drop, lookup_erase_if, hdc, if_false]
    exact hd

theorem Deleting.setStage (hc : st.calls.lookup c = some call)
    (hrev : call.revokes = true → { call with stage := stage : AdminCall }.revokes = true)
    (h : st.Deleting p) : (st.setStage c call stage).Deleting p := by
  obtain ⟨d, call', hl, hd, hid, hop, hr, hp⟩ := h
  by_cases hdc : d = c
  · subst hdc
    rw [hc] at hd
    cases hd
    exact ⟨d, { call with stage := stage }, hl, by simp [RevokeState.setStage], hid, hop, hrev hr, hp⟩
  · exact ⟨d, call', hl, by simp [RevokeState.setStage, hdc, hd], hid, hop, hr, hp⟩

theorem Deleting.unlock (hc : st.calls.lookup c = some call)
    (hop : call.op ≠ .delete) (h : st.Deleting p) : (st.unlock c).Deleting p := by
  obtain ⟨d, call', hl, hd, hid, hop', hr, hp⟩ := h
  have hdc : d ≠ c := by
    rintro rfl; rw [hc] at hd; cases hd; exact hop hop'
  refine ⟨d, call', ?_, hd, hid, hop', hr, hp⟩
  simp only [RevokeState.unlock, hl, Option.some.injEq, hdc, if_false]

section

variable (h : st.HasKey p publicKey)

include h

theorem HasKey.drop
    (hc : st.calls.lookup c = some call) (hcr : call.op = .delete → call.revokes = false) :
    (st.drop c).HasKey p publicKey :=
  h.same rfl (Deleting.drop hc hcr)

theorem HasKey.setStage {stage : AdminStage} (hc : st.calls.lookup c = some call)
    (hrev : call.revokes = true → { call with stage := stage : AdminCall }.revokes = true) :
    (st.setStage c call stage).HasKey p publicKey :=
  h.same rfl (Deleting.setStage hc hrev)

theorem HasKey.revokeUnlocked {g : Nat}
    (hc : st.calls.lookup c = some call) (hop : call.op ≠ .delete) :
    (st.revokeUnlocked c call g).HasKey p publicKey := by
  have hu : (st.unlock c).HasKey p publicKey := h.same rfl (Deleting.unlock hc hop)
  exact hu.setStage hc fun _ => by simp [AdminCall.revokes]

theorem HasKey.withLease (lease : NetworkStateInner) : (st.withLease lease).HasKey p publicKey := h

end

theorem not_deleting_of_unlocked (hl : st.lock = none) : ¬ st.Deleting p := by
  rintro ⟨c, call, hc, -⟩
  rw [hl] at hc
  cases hc

/-- A row that is inserted leaves the others, and replaces none. -/
theorem row_insert {row row' : PeerRow} {q : String} (hq : st.peers.lookup q = none)
    (hr : st.peers.lookup p = some row) : (st.peers.insert q row').lookup p = some row := by
  rw [lookup_insert_if, if_neg, hr]
  rintro rfl
  rw [hq] at hr
  cases hr

theorem canInsert_none (h : st.canInsert p row = true) : st.peers.lookup p = none := by
  simp only [canInsert, Bool.and_eq_true, Option.isNone_iff_eq_none] at h
  exact h.1.2

theorem holder_eq (h : st.holder = some r) :
    st.lock = some r.1 ∧ st.calls.lookup r.1 = some r.2 := by
  obtain ⟨c, hl, hc⟩ := Option.bind_eq_some_iff.mp h
  obtain ⟨call, hcall, rfl⟩ := Option.map_eq_some_iff.mp hc
  exact ⟨hl, hcall⟩

/-- The operation with the lock is no deletion that still has to revoke. -/
theorem not_deleting (h : st.holder = some r) (hcr : r.2.revokes = false)
    (q : String) : ¬ st.Deleting q := by
  rintro ⟨d, call, hd, hc, -, -, hr, -⟩
  obtain ⟨hl, hcall⟩ := holder_eq h
  rw [hl] at hd
  cases hd
  rw [hcall] at hc
  cases hc
  rw [hcr] at hr
  cases hr

/-- A stored address: of a new row, or of a peer that moves. -/
theorem storedPeers_cases (h : st.storedPeers call = some peers) :
    (∃ row, peers = st.peers.insert call.peerId row ∧ st.peers.lookup call.peerId = none ∧
      ∀ ip, call.op ≠ .move ip) ∨ (∃ ip, call.op = .move ip) ∧ peers = st.peers := by
  unfold storedPeers at h
  split at h
  · rename_i row hop
    split at h
    · rename_i hok
      cases h
      exact .inl ⟨row, rfl, canInsert_none (Bool.and_eq_true _ _ ▸ hok).1, by simp [hop]⟩
    · cases h
  · rename_i row ip hop
    split at h
    · rename_i hok
      cases h
      exact .inl ⟨row, rfl, canInsert_none (Bool.and_eq_true _ _ ▸ hok).1, by simp [hop]⟩
    · cases h
  · rename_i ip hop; cases h; exact .inr ⟨⟨ip, hop⟩, rfl⟩
  · cases h

section

variable (h : st.HasKey p publicKey)

include h

theorem HasKey.startWith
    (hc : st.calls.lookup c = some call) (hw : call.revokes = false) (hl : st.lock = none)
    (r : Except WireGuardError (NetworkStateInner × Ipv4Addr × Option Ipv4Addr)) :
    (st.startWith c call r).HasKey p publicKey := by
  unfold RevokeState.startWith
  split
  · exact h.same rfl fun hd => absurd hd (not_deleting_of_unlocked hl)
  · exact h.drop hc fun _ => hw

theorem HasKey.enterLocked {ok : Bool}
    (hc : st.calls.lookup c = some call) (hw : call.revokes = false) (hl : st.lock = none) :
    (st.enterLocked c call ok).HasKey p publicKey := by
  have hnd : ¬ st.Deleting p := not_deleting_of_unlocked hl
  obtain ⟨q, op, stage⟩ := call
  unfold RevokeState.enterLocked
  cases op with
  | setEnabled enabled =>
    simp only
    split
    · rename_i row hrow
      refine h.write hnd fun row' hr => .inl ?_
      simp only [wrote, RevokeState.setStage, RevokeState.write, lookup_insert_if]
      by_cases hq : p = q
      · subst hq
        rw [hrow] at hr
        cases hr
        exact ⟨_, if_pos rfl, rfl⟩
      · exact ⟨row', by rw [if_neg hq, hr], rfl⟩
    · exact h.drop hc fun _ => hw
  | delete =>
    simp only
    split
    · exact h.drop hc fun _ => hw
    · refine h.write hnd fun row' hr => ?_
      by_cases hq : p = q
      · -- The deletion has the lock now, and owes the revocation.
        right
        refine ⟨c, _, rfl, AList.lookup_insert _, hq.symm, rfl, rfl, ?_⟩
        simp only [wrote, RevokeState.setStage, RevokeState.write, lookup_erase_if, if_pos hq]
      · left
        refine ⟨row', ?_, rfl⟩
        simp only [wrote, RevokeState.setStage, RevokeState.write, lookup_erase_if,
          if_neg hq, hr]
  | release =>
    simp only
    split
    · exact h.drop hc fun _ => hw
    · exact h.write hnd fun row' hr => .inl ⟨row', hr, rfl⟩
  | move ip | createAutomatic row | createWithIp row ip => exact h.startWith hc hw hl _
  | create row =>
    simp only
    split
    · rename_i hok
      have hq := canInsert_none (Bool.and_eq_true _ _ ▸ hok).2
      have hins : (st.write q (st.peers.insert q row) st.allocations).HasKey p publicKey :=
        h.write hnd fun row' hr => .inl ⟨row', row_insert hq hr, rfl⟩
      exact hins.drop hc fun _ => hw
    · exact h.drop hc fun _ => hw
  | reload routes => exact h

theorem HasKey.saveProfile {q : String} {routes : List WireGuardPeerRouteRecord}
    (hc : st.calls.lookup c = some ⟨q, .reload routes, .waiting⟩) :
    (st.saveProfile c ⟨q, .reload routes, .waiting⟩ routes).HasKey p publicKey := by
  refine h.same rfl ?_
  rintro ⟨d, call, hl, hd, hid, hop, hr, hp⟩
  refine ⟨d, call, hl, ?_, hid, hop, hr, hp⟩
  simp only [RevokeState.saveProfile, lookup_insert_if]
  rw [if_neg, hd]
  rintro rfl
  rw [hc] at hd
  cases hd
  cases hop

theorem HasKey.enter (c : Nat) (ok : Bool) : (st.enter c ok).HasKey p publicKey := by
  unfold RevokeState.enter
  split
  · rename_i q routes hc
    split
    · exact h.saveProfile hc
    · exact h.drop hc fun _ => rfl
  · rename_i q op hno hc
    split
    · exact h
    · rename_i hl
      refine h.enterLocked hc ?_ (by simpa using hl)
      cases op <;> rfl
  · exact h

theorem HasKey.persist (ok : Bool) : (st.persist ok).HasKey p publicKey := by
  unfold RevokeState.persist
  split
  · rename_i c q op ip previous hh
    obtain ⟨-, hc⟩ := holder_eq hh
    have hcr : AdminCall.revokes ⟨q, op, .prepared ip previous⟩ = false := by cases op <;> rfl
    split
    · rename_i peers hst
      refine h.write (not_deleting hh hcr p) fun row hr => .inl ⟨row, ?_, rfl⟩
      rcases storedPeers_cases hst with ⟨row', rfl, hq, -⟩ | ⟨-, rfl⟩
      · exact row_insert hq hr
      · exact hr
    · exact (h.withLease _).drop hc fun _ => hcr
  · exact h

theorem HasKey.finish (ok : Bool) : (st.finish ok).HasKey p publicKey := by
  unfold RevokeState.finish
  split
  · rename_i c q op g hh
    obtain ⟨-, hc⟩ := holder_eq hh
    split
    · exact h.setStage hc fun _ => by simp [AdminCall.revokes]
    · refine h.drop hc ?_
      rintro rfl
      rfl
  · rename_i c q op ip previous g hh
    obtain ⟨-, hc⟩ := holder_eq hh
    split
    · split
      · exact (h.withLease _).revokeUnlocked hc (by simp)
      · exact (h.withLease _).drop hc (by simp)
    · refine (h.withLease _).drop hc ?_
      rintro rfl
      rfl
  · rename_i c q op removed g hh
    obtain ⟨-, hc⟩ := holder_eq hh
    simp only
    split
    · exact (h.withLease _).setStage hc fun _ => by simp [AdminCall.revokes]
    · rename_i hop
      have hop : op ≠ .delete := by simpa using hop
      split
      · exact (h.withLease _).revokeUnlocked hc hop
      · exact (h.withLease _).drop hc fun he => absurd he hop
  · exact h

theorem HasKey.reply (c : Nat) : (st.reply c).HasKey p publicKey := by
  unfold RevokeState.reply
  split
  · rename_i q op g hc
    exact h.drop hc fun _ => by simp [AdminCall.revokes]
  · exact h

theorem HasKey.invoke (hn : st.calls.lookup c = none) (q : String) (op : AdminOp) :
    ({ st with calls := st.calls.insert c ⟨q, op, .waiting⟩ } : RevokeState).HasKey p publicKey := by
  refine h.same rfl ?_
  rintro ⟨d, call, hl, hd, hid, hop, hr, hp⟩
  refine ⟨d, call, hl, ?_, hid, hop, hr, hp⟩
  rw [lookup_insert_if, if_neg, hd]
  rintro rfl
  rw [hn] at hd
  cases hd

end

/-! ### Operations -/

/-- A step of the operation `c` that changes no record: it keeps the revocation that it owes, and it
counts as done only if it was. -/
theorem Dated.advance (h : st.Dated) (hr : SameRuntime st st')
    (hp : st'.peers = st.peers) (ha : st'.allocations = st.allocations)
    (hg : st'.generation = st.generation)
    (hcalls : ∀ d, d ≠ c → st'.calls.lookup d = st.calls.lookup d)
    (hrev : ∀ call, st.calls.lookup c = some call → call.revokes = true →
      ∃ call', st'.calls.lookup c = some call' ∧ call'.peerId = call.peerId ∧ call'.revokes = true)
    (hstamp : ∀ call' g, st'.calls.lookup c = some call' → call'.stamp = some g →
      g ≤ st.generation call'.peerId)
    (hfence : ∀ call' g, st'.calls.lookup c = some call' → call'.fence = some g →
      st.Fenced call'.peerId g) (hret : ∀ p g, (p, g) ∈ st'.returned → st.Fenced p g)
    (hkey : ∀ p publicKey, st.HasKey p publicKey → st'.HasKey p publicKey) : st'.Dated where
  bounded p peer hb := by rw [hg]; exact h.bounded p peer (hr.built.mp hb)
  recorded p peer hb he := by
    rw [hg] at he
    simp only [Recorded, hp, ha]
    exact h.recorded p peer (hr.built.mp hb) he
  owed p peer hb hlt := by
    rw [hg] at hlt
    obtain ⟨d, call, hd, hid, hcr⟩ := h.owed p peer (hr.built.mp hb) hlt
    by_cases hdc : d = c
    · subst hdc
      obtain ⟨call', hc', hid', hcr'⟩ := hrev call hd hcr
      exact ⟨d, call', hc', hid'.trans hid, hcr'⟩
    · exact ⟨d, call, (hcalls d hdc).trans hd, hid, hcr⟩
  keyed p peer hb := hkey p peer.publicKey (h.keyed p peer (hr.built.mp hb))
  stamped d call g hd hs := by
    rw [hg]
    by_cases hdc : d = c
    · subst hdc; exact hstamp call g hd hs
    · exact h.stamped d call g ((hcalls d hdc).symm.trans hd) hs
  fenced p g hf := by
    have hold : st.Fenced p g := by
      rcases hf with hf | ⟨d, call, hd, hid, hcf⟩
      · exact hret p g hf
      · by_cases hdc : d = c
        · subst hdc; exact hid ▸ hfence call g hd hcf
        · exact .inr ⟨d, call, (hcalls d hdc).symm.trans hd, hid, hcf⟩
    rw [hg]
    exact ⟨(h.fenced p g hold).1, fun peer hb => (h.fenced p g hold).2 peer (hr.built.mp hb)⟩

theorem Unowed.not_owed (h : st.Unowed p) : ¬ st.Owed p := by
  rintro ⟨c, call, hc, hid, hr⟩
  rw [h call (mem_values.mpr ⟨c, hc⟩) hid] at hr
  cases hr

/-- Without a revocation to come, what the runtime has is of the current generation. -/
theorem Dated.eq_of_unowed (h : st.Dated) (hu : st.Unowed p)
    (hb : st.Built p peer) : peer.generation = st.generation p := by
  rcases (h.bounded p peer hb).lt_or_eq with hlt | he
  · exact absurd (h.owed p peer hb hlt) hu.not_owed
  · exact he

/-- The operation `c` writes for its peer `p`. It owes a revocation then, or nothing was built from
the record before the write. -/
theorem Dated.written (h : st.Dated)
    (hc : st.calls.lookup c = some call) (hcr : call.revokes = false) (hr : SameRuntime st st')
    (hrows : ∀ q, q ≠ p → st'.peers.lookup q = st.peers.lookup q ∧
      st'.allocations.lookup q = st.allocations.lookup q ∧ st'.generation q = st.generation q)
    (hg : (st'.generation p = st.generation p ∧ st'.peers.lookup p = st.peers.lookup p ∧
      st'.allocations.lookup p = st.allocations.lookup p) ∨ st'.generation p = st.generation p + 1)
    (hcalls : ∀ d, d ≠ c → st'.calls.lookup d = st.calls.lookup d)
    (hret : st'.returned = st.returned) (hnew : ∀ call', st'.calls.lookup c = some call' →
      call'.peerId = p ∧ call'.stamp = some (st'.generation p))
    (howe : (∃ call', st'.calls.lookup c = some call' ∧ call'.revokes = true) ∨
      st'.generation p = st.generation p ∨ ∀ peer, ¬ st.Recorded p peer)
    (hfence : ∀ call' g, st'.calls.lookup c = some call' → call'.fence = some g →
      st.Unowed p ∧ (st'.generation p = st.generation p ∨ ∀ peer, ¬ st.Recorded p peer))
    (hkey : ∀ q publicKey, st.HasKey q publicKey → st'.HasKey q publicKey) : st'.Dated := by
  have hle : ∀ q, st.generation q ≤ st'.generation q := by
    intro q
    by_cases hq : q = p
    · subst hq; omega
    · exact (hrows q hq).2.2.ge
  -- The call owed something else before, so it is none of those that owe `q` a revocation.
  have howed : ∀ q, st.Owed q → st'.Owed q := by
    rintro q ⟨d, call', hd, hid, hrev⟩
    have hdc : d ≠ c := by
      rintro rfl; rw [hc] at hd; cases hd; rw [hcr] at hrev; cases hrev
    exact ⟨d, call', (hcalls d hdc).trans hd, hid, hrev⟩
  constructor
  · intro q peer hb
    exact (h.bounded q peer (hr.built.mp hb)).trans (hle q)
  · intro q peer hb he
    have hb := hr.built.mp hb
    have hsame : st'.generation q = st.generation q :=
      le_antisymm (he ▸ h.bounded q peer hb) (hle q)
    have hrow : st'.peers.lookup q = st.peers.lookup q ∧
        st'.allocations.lookup q = st.allocations.lookup q := by
      by_cases hq : q = p
      · subst hq; exact (hg.resolve_right (by omega)).2
      · exact ⟨(hrows q hq).1, (hrows q hq).2.1⟩
    simp only [Recorded, hrow.1, hrow.2]
    exact h.recorded q peer hb (he.trans hsame)
  · intro q peer hb hlt
    have hb := hr.built.mp hb
    by_cases hq : q = p
    · subst hq
      rcases howe with ⟨call', hc', hrev⟩ | hsame | hnone
      · exact ⟨c, call', hc', (hnew call' hc').1, hrev⟩
      · exact howed q (h.owed q peer hb (hsame ▸ hlt))
      · refine howed q (h.owed q peer hb ((h.bounded q peer hb).lt_of_ne fun he => ?_))
        exact hnone peer (h.recorded q peer hb he)
    · exact howed q (h.owed q peer hb ((hrows q hq).2.2 ▸ hlt))
  · intro q peer hb
    exact hkey q peer.publicKey (h.keyed q peer (hr.built.mp hb))
  · intro d call' g hd hs
    by_cases hdc : d = c
    · subst hdc
      obtain ⟨hid, hst⟩ := hnew call' hd
      rw [hst] at hs
      cases hs
      rw [hid]
    · exact (h.stamped d call' g ((hcalls d hdc).symm.trans hd) hs).trans (hle _)
  · intro q g hf
    have hold : st.Fenced q g ∨ q = p ∧ ∃ call', st'.calls.lookup c = some call' ∧
        call'.fence = some g := by
      rcases hf with hf | ⟨d, call', hd, hid, hcf⟩
      · exact .inl (.inl (hret ▸ hf))
      · by_cases hdc : d = c
        · subst hdc; exact .inr ⟨hid ▸ (hnew call' hd).1, call', hd, hcf⟩
        · exact .inl (.inr ⟨d, call', (hcalls d hdc).symm.trans hd, hid, hcf⟩)
    rcases hold with hold | ⟨rfl, call', hc', hcf⟩
    · obtain ⟨hgle, hall⟩ := h.fenced q g hold
      exact ⟨hgle.trans (hle q), fun peer hb => hall peer (hr.built.mp hb)⟩
    · have hst := (stamp_of_fence hcf).symm.trans (hnew call' hc').2
      cases hst
      obtain ⟨hu, hq⟩ := hfence call' _ hc' hcf
      refine ⟨le_rfl, fun peer hb => ?_⟩
      have hb := hr.built.mp hb
      have he := h.eq_of_unowed hu hb
      rcases hq with hsame | hnone
      · rw [hsame, he]
      · exact absurd (h.recorded q peer hb he) (hnone peer)

theorem Dated.withLease (h : st.Dated) (lease : NetworkStateInner) : (st.withLease lease).Dated :=
  ⟨h.bounded, h.recorded, h.owed, h.keyed, h.stamped, h.fenced⟩

/-- The operation ends without a revocation to come. -/
theorem Dated.drop (h : st.Dated)
    (hc : st.calls.lookup c = some call) (hcr : call.revokes = false) : (st.drop c).Dated := by
  have hnone : (st.drop c).calls.lookup c = none := by
    simp [RevokeState.drop]
  refine h.advance (c := c) ⟨rfl, rfl, rfl, rfl⟩ rfl rfl rfl (fun d hd => ?_)
    (fun call' hc' hr => ?_) (by simp [hnone]) (by simp [hnone]) (fun p g hm => .inl hm)
    (fun _ _ hk => hk.drop hc fun _ => hcr)
  · simp [RevokeState.drop, hd]
  · rw [hc] at hc'; cases hc'; rw [hcr] at hr; cases hr

/-- The operation returns `Ok`, and needs no revocation any more. -/
theorem Dated.ok (h : st.Dated)
    (hc : st.calls.lookup c = some call) (hcr : call.revokes = false) (hf : call.fence = some g) :
    (st.ok c call.peerId g).Dated := by
  have hd := h.drop hc hcr
  refine ⟨hd.bounded, hd.recorded, hd.owed, hd.keyed, hd.stamped, fun p g' hf' => ?_⟩
  rcases hf' with hm | hm
  · rcases List.mem_cons.mp hm with he | hm
    · cases he
      exact h.fenced _ g (.inr ⟨c, call, hc, rfl, hf⟩)
    · exact hd.fenced p g' (.inl hm)
  · exact hd.fenced p g' (.inr hm)

/-- The operation goes on without a write. -/
theorem Dated.setStage (h : st.Dated) (hc : st.calls.lookup c = some call)
    (hrev : call.revokes = true → { call with stage := stage : AdminCall }.revokes = true)
    (hstamp : ∀ g, { call with stage := stage : AdminCall }.stamp = some g → call.stamp = some g)
    (hfence : ∀ g, { call with stage := stage : AdminCall }.fence = some g → call.fence = some g) :
    (st.setStage c call stage).Dated := by
  have hself : (st.setStage c call stage).calls.lookup c = some { call with stage := stage } := by
    simp [RevokeState.setStage]
  have hother : ∀ d, d ≠ c → (st.setStage c call stage).calls.lookup d = st.calls.lookup d :=
    fun d hd => by simp [RevokeState.setStage, hd]
  refine h.advance (c := c) ⟨rfl, rfl, rfl, rfl⟩ rfl rfl rfl hother (fun call' hc' hr => ?_)
    (fun call' g hc' hs => ?_) (fun call' g hc' hf => ?_) (fun p g hm => .inl hm)
    fun _ _ hk => hk.setStage hc hrev
  · rw [hc] at hc'; cases hc'; exact ⟨_, hself, rfl, hrev hr⟩
  · rw [hself] at hc'; cases hc'; exact h.stamped c call g hc (hstamp g hs)
  · rw [hself] at hc'; cases hc'; exact .inr ⟨c, call, hc, rfl, hfence g hf⟩

/-- The lock changes hands; no deletion that still has to revoke gives it away. -/
theorem Dated.setLock (h : st.Dated) {lock : Option Nat}
    (hdel : ∀ p, st.Deleting p → ({ st with lock := lock } : RevokeState).Deleting p) :
    ({ st with lock := lock } : RevokeState).Dated :=
  ⟨h.bounded, h.recorded, h.owed, fun p peer hb => (h.keyed p peer hb).imp_right (hdel p),
    h.stamped, h.fenced⟩

theorem Dated.unlock (h : st.Dated)
    (hc : st.calls.lookup c = some call) (hop : call.op ≠ .delete) : (st.unlock c).Dated :=
  h.setLock fun _ => Deleting.unlock hc hop

/-! ### Writes -/

theorem write_generation_ne (hq : q ≠ p) (peers : HashMap String PeerRow)
    (allocations : HashMap String Ipv4Addr) :
    (st.write p peers allocations).generation q = st.generation q := by
  simp only [write]
  split
  · rfl
  · exact Function.update_of_ne hq _ _

theorem write_generation_self (p : String) (peers : HashMap String PeerRow)
    (allocations : HashMap String Ipv4Addr) :
    ((st.write p peers allocations).generation p = st.generation p ∧
      peers.lookup p = st.peers.lookup p ∧ allocations.lookup p = st.allocations.lookup p) ∨
    (st.write p peers allocations).generation p = st.generation p + 1 := by
  simp only [write]
  split
  · rename_i hs; exact .inl ⟨rfl, hs⟩
  · exact .inr (Function.update_self _ _ _)

/-- The write leaves the rows of `p` as they are, or nothing could be built from them. -/
def Quiet (st : RevokeState) (p : String) (peers : HashMap String PeerRow)
    (allocations : HashMap String Ipv4Addr) : Prop :=
  (peers.lookup p = st.peers.lookup p ∧ allocations.lookup p = st.allocations.lookup p) ∨
    ∀ peer, ¬ st.Recorded p peer

theorem Quiet.generation (h : st.Quiet p peers allocations) :
    (st.write p peers allocations).generation p = st.generation p ∨
      ∀ peer, ¬ st.Recorded p peer := by
  refine h.imp_left fun hs => ?_
  simp only [write, if_pos hs]

/-- An operation with the lock writes for its peer. -/
theorem Dated.wrote (h : st.Dated) (hc : st.calls.lookup c = some call) (hcr : call.revokes = false)
    {stage : Nat → AdminStage}
    (hp : ∀ q, q ≠ call.peerId → peers.lookup q = st.peers.lookup q)
    (ha : ∀ q, q ≠ call.peerId → allocations.lookup q = st.allocations.lookup q)
    (hstamp : ∀ g, { call with stage := stage g : AdminCall }.stamp = some g)
    (howe : (∀ g, { call with stage := stage g : AdminCall }.revokes = true) ∨
      st.Quiet call.peerId peers allocations)
    (hfence : ∀ g, { call with stage := stage g : AdminCall }.fence ≠ none →
      st.Unowed call.peerId ∧ st.Quiet call.peerId peers allocations)
    (hkey : ∀ q publicKey, st.HasKey q publicKey →
      (st.wrote c call peers allocations stage).HasKey q publicKey) :
    (st.wrote c call peers allocations stage).Dated := by
  have hself : (st.wrote c call peers allocations stage).calls.lookup c = some { call with
      stage := stage ((st.write call.peerId peers allocations).generation call.peerId) } := by
    simp [RevokeState.wrote, RevokeState.setStage]
  refine h.written (p := call.peerId) hc hcr ⟨rfl, rfl, rfl, rfl⟩
    (fun q hq => ⟨hp q hq, ha q hq, write_generation_ne hq _ _⟩) (write_generation_self _ _ _)
    (fun d hd => ?_) rfl (fun call' hc' => ?_) ?_ (fun call' g hc' hf => ?_) hkey
  · simp [RevokeState.wrote, RevokeState.setStage, write, hd]
  · rw [hself] at hc'; cases hc'; exact ⟨rfl, hstamp _⟩
  · rcases howe with hr | hq
    · exact .inl ⟨_, hself, hr _⟩
    · exact .inr hq.generation
  · rw [hself] at hc'
    cases hc'
    obtain ⟨hu, hq⟩ := hfence _ (by rw [hf]; simp)
    exact ⟨hu, hq.generation⟩

theorem not_recorded_of_row (h : st.peers.lookup p = none) (peer : Activated) :
    ¬ st.Recorded p peer := by
  rintro ⟨row, hr, -⟩; rw [h] at hr; cases hr

theorem not_recorded_of_ip (h : st.allocations.lookup p = none) (peer : Activated) :
    ¬ st.Recorded p peer := by
  rintro ⟨row, -, -, -, hr⟩; rw [h] at hr; cases hr

/-- A peer that is enabled was so before, or nothing could be built from its row. -/
theorem quiet_enable (h : st.peers.lookup p = some row) :
    st.Quiet p (st.peers.insert p { row with enabled := true }) st.allocations := by
  by_cases he : row.enabled = true
  · left
    refine ⟨?_, rfl⟩
    rw [lookup_insert_if, if_pos rfl, h, ← he]
  · right
    rintro peer ⟨row', hr, hen, -⟩
    rw [h] at hr
    cases hr
    exact he hen

/-- A move that revokes nothing: the peer has the address, or it had none. -/
theorem quiet_unmoved {previous : Option Ipv4Addr}
    (h : st.allocations.lookup p = previous) (hch : changed previous ip = false) :
    st.Quiet p st.peers (st.allocations.insert p ip) := by
  cases previous with
  | none => exact .inr (not_recorded_of_ip h)
  | some a =>
    have ha : a = ip := by simpa [changed] using hch
    refine .inl ⟨rfl, ?_⟩
    rw [lookup_insert_if, if_pos rfl, h, ha]

theorem Dated.startWith (h : st.Dated)
    (hc : st.calls.lookup c = some call) (hw : call.stage = .waiting) (hl : st.lock = none)
    (r : Except WireGuardError (NetworkStateInner × Ipv4Addr × Option Ipv4Addr)) :
    (st.startWith c call r).Dated := by
  obtain ⟨p, op, stage⟩ := call
  cases hw
  unfold RevokeState.startWith
  split
  · rename_i lease ip previous
    have hs : ((st.withLease lease).setStage c ⟨p, op, .waiting⟩ (.prepared ip previous)).Dated :=
      (h.withLease lease).setStage hc (by simp [revokes]) (by simp [stamp])
        (by simp [fence])
    refine hs.setLock ?_
    rintro q ⟨d, call', hd, -⟩
    exact absurd (hd.symm.trans hl) (by simp)
  · exact h.drop hc (by simp [revokes])

theorem Dated.setRoutes (h : st.Dated) (routes : HashMap String (List WireGuardPeerRouteRecord)) :
    ({ st with routes := routes } : RevokeState).Dated :=
  ⟨h.bounded, h.recorded, h.owed, h.keyed, h.stamped, h.fenced⟩

/-- The first section of an operation. -/
theorem Dated.enterLocked (h : st.Dated) {ok : Bool}
    (hc : st.calls.lookup c = some call) (hw : call.stage = .waiting) (hl : st.lock = none)
    (hcare : call.op = .release → st.allocations.lookup call.peerId = none →
      st.Unowed call.peerId) : (st.enterLocked c call ok).Dated := by
  obtain ⟨p, op, stage⟩ := call
  cases hw
  have hcr : revokes ⟨p, op, .waiting⟩ = false := by
    cases op <;> rfl
  have hkey : ∀ q publicKey, st.HasKey q publicKey →
      (st.enterLocked c ⟨p, op, .waiting⟩ ok).HasKey q publicKey :=
    fun _ _ hk => hk.enterLocked hc hcr hl
  generalize hst : st.enterLocked c ⟨p, op, .waiting⟩ ok = st' at hkey ⊢
  unfold RevokeState.enterLocked at hst
  cases op with
  | setEnabled enabled =>
    simp only at hst
    split at hst
    · rename_i row hrow
      subst hst
      refine h.wrote hc hcr (fun q hq => ?_) (fun _ _ => rfl) (fun _ => rfl) ?_ ?_ hkey
      · rw [lookup_insert_if, if_neg hq]
      · cases enabled with
        | false => exact .inl fun _ => rfl
        | true => exact .inr (quiet_enable hrow)
      · intro g hf
        cases enabled <;> exact absurd rfl hf
    · exact hst ▸ h.drop hc hcr
  | delete =>
    simp only at hst
    split at hst
    · exact hst ▸ h.drop hc hcr
    · subst hst
      refine (h.setRoutes (st.routes.erase p)).wrote hc hcr (fun q hq => ?_) (fun q hq => ?_)
        (fun _ => rfl) (.inl fun _ => rfl) (fun g hf => absurd rfl hf) hkey
      · rw [lookup_erase_if, if_neg hq]
      · rw [lookup_erase_if, if_neg hq]
  | release =>
    simp only at hst
    split at hst
    · exact hst ▸ h.drop hc hcr
    · subst hst
      refine h.wrote hc hcr (fun _ _ => rfl) (fun q hq => ?_) (fun _ => rfl) ?_ ?_ hkey
      · rw [lookup_erase_if, if_neg hq]
      · cases hip : st.allocations.lookup p with
        | some ip => exact .inl fun _ => rfl
        | none => exact .inr (.inr (not_recorded_of_ip hip))
      · intro g hf
        cases hip : st.allocations.lookup p with
        | some ip => rw [hip] at hf; exact absurd rfl hf
        | none => exact ⟨hcare rfl hip, .inr (not_recorded_of_ip hip)⟩
  | move ip | createAutomatic row | createWithIp row ip => exact hst ▸ h.startWith hc rfl hl _
  | reload routes => exact hst ▸ h
  | create row =>
    simp only at hst
    split at hst
    · rename_i hok
      subst hst
      have hp := canInsert_none (Bool.and_eq_true _ _ ▸ hok).2
      have hnone : ∀ q, (st.calls.erase c).lookup c = some q → False := by simp
      refine h.written (p := p) hc hcr ⟨rfl, rfl, rfl, rfl⟩
        (fun q hq => ⟨?_, rfl, write_generation_ne hq _ _⟩) (write_generation_self _ _ _)
        (fun d hd => ?_) rfl (fun call' hc' => (hnone _ hc').elim)
        (.inr (.inr (not_recorded_of_row hp))) (fun call' g hc' => (hnone _ hc').elim) hkey
      · exact (lookup_insert_if _ _ _ _).trans (if_neg hq)
      · simp [RevokeState.drop, write, hd]
    · exact hst ▸ h.drop hc hcr

theorem bump_self (p : String) : st.bump p p = st.generation p + 1 := Function.update_self _ _ _

theorem bump_ne (hq : q ≠ p) : st.bump p q = st.generation q :=
  Function.update_of_ne hq _ _

/-- The profile is saved while another operation may hold the lock. -/
theorem Dated.saveProfile (h : st.Dated) {routes : List WireGuardPeerRouteRecord}
    (hc : st.calls.lookup c = some ⟨p, .reload routes, .waiting⟩) :
    (st.saveProfile c ⟨p, .reload routes, .waiting⟩ routes).Dated := by
  have hself : (st.saveProfile c ⟨p, .reload routes, .waiting⟩ routes).calls.lookup c =
      some ⟨p, .reload routes, .revoking (st.generation p + 1)⟩ := by
    simp [RevokeState.saveProfile]
  have hother : ∀ d, d ≠ c →
      (st.saveProfile c ⟨p, .reload routes, .waiting⟩ routes).calls.lookup d = st.calls.lookup d :=
    fun d hd => by simp [RevokeState.saveProfile, hd]
  refine h.written (p := p) hc rfl ⟨rfl, rfl, rfl, rfl⟩ (fun q hq => ⟨rfl, rfl, bump_ne hq⟩)
    (.inr (bump_self p)) hother rfl (fun call' hc' => ?_) (.inl ⟨_, hself, rfl⟩)
    (fun call' g hc' hf => ?_) (fun _ _ hk => hk.saveProfile hc)
  · rw [hself] at hc'; cases hc'; exact ⟨rfl, congrArg some (bump_self p).symm⟩
  · rw [hself] at hc'; cases hc'; cases hf

theorem Dated.enter (h : st.Dated) {ok : Bool} (hcare : st.Careful (.enter c ok)) :
    (st.enter c ok).Dated := by
  unfold RevokeState.enter
  split
  · rename_i p routes hc
    split
    · exact h.saveProfile hc
    · exact h.drop hc rfl
  · rename_i p op _ hc
    split
    · exact h
    · rename_i hl
      have hl : st.lock = none := by simpa using hl
      exact h.enterLocked hc rfl hl fun hop hip => hcare _ hc hop hl hip
  · exact h

theorem Dated.persist (h : st.Dated) {ok : Bool} (hcare : st.Careful (.persist ok)) :
    (st.persist ok).Dated := by
  have hkey : ∀ q publicKey, st.HasKey q publicKey → (st.persist ok).HasKey q publicKey :=
    fun _ _ hk => hk.persist ok
  generalize hst : st.persist ok = st' at hkey ⊢
  unfold RevokeState.persist at hst
  split at hst
  · rename_i c p op ip previous hh
    obtain ⟨-, hc⟩ := holder_eq hh
    have hcr : revokes ⟨p, op, .prepared ip previous⟩ = false := by cases op <;> rfl
    have hip : ∀ q, q ≠ p → (st.allocations.insert p ip).lookup q = st.allocations.lookup q :=
      fun q hq => by rw [lookup_insert_if, if_neg hq]
    split at hst
    · rename_i peers hpeers
      subst hst
      rcases storedPeers_cases hpeers with ⟨row, rfl, hp, hop⟩ | ⟨⟨ip', hop⟩, rfl⟩
      · refine h.wrote hc hcr (fun q hq => ?_) hip (fun _ => rfl)
          (.inr (.inr (not_recorded_of_row hp))) (fun g hf => absurd ?_ hf) hkey
        · rw [lookup_insert_if, if_neg hq]
        · cases op <;> first | rfl | exact absurd rfl (hop _)
      · cases hop
        cases hch : changed previous ip with
        | true =>
          refine h.wrote hc hcr (fun _ _ => rfl) hip (fun _ => rfl) (.inl fun _ => hch)
            (fun g hf => ?_) hkey
          simp [fence, hch] at hf
        | false =>
          have hun : unmoved ⟨p, .move ip', .prepared ip previous⟩ = some previous := by
            simp [unmoved, hch]
          obtain ⟨hrow, hu⟩ := hcare _ hh (by rw [hun]; simp)
          rw [hun] at hrow
          have hq := quiet_unmoved (Option.some.inj hrow).symm hch
          exact h.wrote hc hcr (fun _ _ => rfl) hip (fun _ => rfl) (.inr hq)
            (fun _ _ => ⟨hu, hq⟩) hkey
    · exact hst ▸ (h.withLease _).drop hc hcr
  · exact hst ▸ h

/-- The command is sent after the lock is given back. -/
theorem Dated.revokeUnlocked (h : st.Dated)
    (hc : st.calls.lookup c = some call) (hop : call.op ≠ .delete) (hs : call.stamp = some g) :
    (st.revokeUnlocked c call g).Dated := by
  refine (h.unlock hc hop).setStage hc (fun _ => ?_) (fun g' hg => ?_) (fun g' hf => ?_)
  · simp [revokes]
  · cases hg; exact hs
  · simp [fence] at hf

theorem Dated.finish (h : st.Dated) {ok : Bool} (hcare : st.Careful (.finish ok)) :
    (st.finish ok).Dated := by
  unfold RevokeState.finish
  split
  · rename_i c p op g hh
    obtain ⟨-, hc⟩ := holder_eq hh
    split
    · refine h.setStage hc (fun _ => ?_) (fun g' hg => hg) (fun g' hf => ?_)
      · simp [revokes]
      · simp [fence] at hf
    · rename_i hok
      -- A disabled row is read back, so the call was to enable the peer.
      refine h.drop hc ?_
      by_contra hr
      have hop : op = .setEnabled false := by
        simp only [revokes, Bool.not_eq_false] at hr
        split at hr <;> simp_all
      subst hop
      exact hok (by simp [hcare _ hh rfl])
  · rename_i c p op ip previous g hh
    obtain ⟨-, hc⟩ := holder_eq hh
    split
    · split
      · exact (h.withLease _).revokeUnlocked hc (by simp) rfl
      · rename_i hch
        have hd := h.withLease (st.state.leaseState.finishReservation p ip previous true)
        exact hd.ok (g := g) hc (by simpa [revokes] using hch)
          (by simp [fence, hch])
    · rename_i hop
      refine (h.withLease _).drop hc ?_
      cases op <;> first | rfl | exact absurd rfl (hop _)
  · rename_i c p op removed g hh
    obtain ⟨-, hc⟩ := holder_eq hh
    simp only
    split
    · refine (h.withLease _).setStage hc (fun _ => ?_) (fun g' hg => hg) (fun g' hf => ?_)
      · simp [revokes]
      · simp [fence] at hf
    · rename_i hop
      split
      · exact (h.withLease _).revokeUnlocked hc (by simpa using hop) rfl
      · rename_i hrem
        have hrem : removed = false := by
          simp only [Bool.or_eq_true, not_or, Bool.not_eq_true] at hrem
          exact hrem.1
        subst hrem
        have hd := h.withLease (st.state.leaseState.releaseWireguardPeerIp p).1
        exact hd.ok (g := g) hc (by simp [revokes]) (by simp [fence])
  · exact h

theorem Dated.reply (h : st.Dated) (c : Nat) : (st.reply c).Dated := by
  unfold RevokeState.reply
  split
  · rename_i p op g hc
    exact h.ok hc (by simp [revokes]) (by simp [fence])
  · exact h

theorem Dated.invoke (h : st.Dated) (hc : st.calls.lookup c = none) (p : String) (op : AdminOp) :
    ({ st with calls := st.calls.insert c ⟨p, op, .waiting⟩ } : RevokeState).Dated := by
  have hother : ∀ d, d ≠ c → (st.calls.insert c ⟨p, op, .waiting⟩).lookup d = st.calls.lookup d :=
    fun d hd => by rw [lookup_insert_if, if_neg hd]
  refine h.advance (c := c) ⟨rfl, rfl, rfl, rfl⟩ rfl rfl rfl hother (fun call' hc' => ?_)
    (fun call' g hc' hs => ?_) (fun call' g hc' hf => ?_) (fun p g hm => .inl hm)
    fun _ _ hk => hk.invoke hc p op
  · rw [hc] at hc'; cases hc'
  · rw [lookup_insert_if, if_pos rfl] at hc'; cases hc'; cases hs
  · rw [lookup_insert_if, if_pos rfl] at hc'; cases hc'; simp [fence] at hf

/-! ### Runtime -/

/-- A step of the runtime that builds nothing new. -/
theorem Dated.rebuilt (h : st.Dated) (hp : st'.peers = st.peers)
    (ha : st'.allocations = st.allocations) (hg : st'.generation = st.generation)
    (hc : st'.calls = st.calls) (hl : st'.lock = st.lock) (hr : st'.returned = st.returned)
    (hb : ∀ p peer', st'.Built p peer' → ∃ peer, st.Built p peer ∧
      peer'.generation = peer.generation ∧ peer'.publicKey = peer.publicKey ∧
      peer'.reservedIp = peer.reservedIp) : st'.Dated where
  bounded p peer' hb' := by
    obtain ⟨peer, hbp, he, -⟩ := hb p peer' hb'
    rw [hg, he]
    exact h.bounded p peer hbp
  recorded p peer' hb' hgen := by
    obtain ⟨peer, hbp, he, hk, hip⟩ := hb p peer' hb'
    rw [hg, he] at hgen
    simp only [Recorded, hp, ha, hk, hip]
    exact h.recorded p peer hbp hgen
  owed p peer' hb' hlt := by
    obtain ⟨peer, hbp, he, -⟩ := hb p peer' hb'
    rw [hg, he] at hlt
    simp only [Owed, hc]
    exact h.owed p peer hbp hlt
  keyed p peer' hb' := by
    obtain ⟨peer, hbp, -, hk, -⟩ := hb p peer' hb'
    simp only [Keyed, Deleting, hp, hc, hl, hk]
    exact h.keyed p peer hbp
  stamped := by rw [hc, hg]; exact h.stamped
  fenced p g hf := by
    simp only [Fenced, hr, hc] at hf
    rw [hg]
    refine ⟨(h.fenced p g hf).1, fun peer' hb' => ?_⟩
    obtain ⟨peer, hbp, he, -⟩ := hb p peer' hb'
    rw [he]
    exact (h.fenced p g hf).2 peer hbp

/-- The revocation of an operation is done. -/
theorem Dated.acknowledge (h : st.Dated) {op : AdminOp}
    (hc : st.calls.lookup c = some ⟨p, op, .revoking g⟩) (hn : ∀ peer, ¬ st.Built p peer) :
    (st.setStage c ⟨p, op, .revoking g⟩ (.acknowledged g)).Dated := by
  have hself : (st.setStage c ⟨p, op, .revoking g⟩ (.acknowledged g)).calls.lookup c =
      some ⟨p, op, .acknowledged g⟩ := by simp [RevokeState.setStage]
  have hother : ∀ d, d ≠ c → (st.setStage c ⟨p, op, .revoking g⟩ (.acknowledged g)).calls.lookup d =
      st.calls.lookup d := fun d hd => by simp [RevokeState.setStage, hd]
  -- The call is of `p`, and nothing is built for `p`, so it is not needed for any other peer.
  have hne : ∀ q peer, st.Built q peer → ∀ d call, st.calls.lookup d = some call →
      call.peerId = q → d ≠ c := by
    rintro q peer hb d call hd rfl rfl
    rw [hc] at hd
    cases hd
    exact hn peer hb
  have hgle : g ≤ st.generation p := h.stamped c _ g hc rfl
  refine ⟨h.bounded, h.recorded, fun q peer hb hlt => ?_, fun q peer hb => ?_,
    fun d call g' hd hs => ?_, fun q g' hf => ?_⟩
  · obtain ⟨d, call, hd, hid, hrev⟩ := h.owed q peer hb hlt
    exact ⟨d, call, (hother d (hne q peer hb d call hd hid)).trans hd, hid, hrev⟩
  · refine (h.keyed q peer hb).imp_right ?_
    rintro ⟨d, call, hl, hd, hid, hop, hrev, hp⟩
    exact ⟨d, call, hl, (hother d (hne q peer hb d call hd hid)).trans hd, hid, hop, hrev, hp⟩
  · by_cases hdc : d = c
    · subst hdc
      rw [hself] at hd
      cases hd
      cases hs
      exact hgle
    · exact h.stamped d call g' ((hother d hdc).symm.trans hd) hs
  · rcases hf with hf | ⟨d, call, hd, hid, hcf⟩
    · exact h.fenced q g' (.inl hf)
    · by_cases hdc : d = c
      · subst hdc
        rw [hself] at hd
        cases hd
        cases stamp_of_fence hcf
        cases hid
        exact ⟨hgle, fun peer hb => absurd hb (hn peer)⟩
      · exact h.fenced q g' (.inr ⟨d, call, (hother d hdc).symm.trans hd, hid, hcf⟩)

theorem lookup_removePeer (p q : String) :
    (st.removePeer p).active.lookup q = if q = p then none else st.active.lookup q := by
  unfold removePeer
  split
  · exact lookup_erase_if _ _ _
  · rename_i hn
    split
    · rename_i he; rw [he, hn]
    · rfl

theorem loading_removePeer (p : String) : (st.removePeer p).loading = st.loading := by
  unfold removePeer; split <;> rfl

theorem built_of_removePeer (h : (st.removePeer p).Built q peer) :
    st.Built q peer ∧ (st.loading = none → q ≠ p) := by
  rcases h with h | ⟨b, h⟩
  · rw [lookup_removePeer] at h
    split at h
    · cases h
    · rename_i hq; exact ⟨.inl h, fun _ => hq⟩
  · rw [loading_removePeer] at h
    exact ⟨.inr ⟨b, h⟩, fun hn => by rw [hn] at h; cases h⟩

theorem Dated.removePeer (h : st.Dated) (p : String) : (st.removePeer p).Dated := by
  have hb : ∀ q peer', (st.removePeer p).Built q peer' → ∃ peer, st.Built q peer ∧
      peer'.generation = peer.generation ∧ peer'.publicKey = peer.publicKey ∧
      peer'.reservedIp = peer.reservedIp :=
    fun q peer' hb' => ⟨peer', (built_of_removePeer hb').1, rfl, rfl, rfl⟩
  cases ha : st.active.lookup p with
  | none =>
    have : st.removePeer p = st := by unfold RevokeState.removePeer; rw [ha]
    rw [this]
    exact h
  | some peer =>
    unfold RevokeState.removePeer at hb ⊢
    rw [ha] at hb ⊢
    exact h.rebuilt rfl rfl rfl rfl rfl rfl hb

theorem loadRuntimePeer_eq {publicKey : Bytes}
    (h : st.loadRuntimePeer publicKey = some (p, ip)) (peer : Activated)
    (hk : peer.publicKey = publicKey) (hip : peer.reservedIp = ip) : st.Recorded p peer := by
  obtain ⟨q, row, hrow, hf⟩ := findMap_some h
  split at hf
  · rename_i hc
    obtain ⟨a, ha, he⟩ := Option.map_eq_some_iff.mp hf
    cases he
    exact ⟨row, hrow, hc.2, hc.1.trans hk.symm, ha.trans (by rw [hip])⟩
  · cases hf

/-- The runtime has read the current record. -/
theorem Dated.load (h : st.Dated) (hr : st.Recorded p peer)
    (hg : peer.generation = st.generation p) (complete : Bool) :
    ({ st with loading := some ⟨p, peer, complete⟩ } : RevokeState).Dated := by
  have hb : ∀ {q x}, ({ st with loading := some ⟨p, peer, complete⟩ } : RevokeState).Built q x →
      st.Built q x ∨ q = p ∧ x = peer := by
    rintro q x (hx | ⟨_, hx⟩)
    · exact .inl (.inl hx)
    · cases hx; exact .inr ⟨rfl, rfl⟩
  refine ⟨fun q x hx => ?_, fun q x hx he => ?_, fun q x hx hlt => ?_, fun q x hx => ?_, h.stamped,
    fun q g hf => ⟨(h.fenced q g hf).1, fun x hx => ?_⟩⟩
  all_goals rcases hb hx with hx | ⟨rfl, rfl⟩
  · exact h.bounded q x hx
  · exact hg.le
  · exact h.recorded q x hx he
  · exact hr
  · exact h.owed q x hx hlt
  · exact absurd hg hlt.ne
  · exact h.keyed q x hx
  · obtain ⟨row, hrow, -, hk, -⟩ := hr
    exact .inl ⟨row, hrow, hk⟩
  · exact (h.fenced q g hf).2 x hx
  · rw [hg]
    exact (h.fenced q g hf).1

theorem Dated.handshake (h : st.Dated) (publicKey : Bytes) (ok : Bool) :
    (st.handshake publicKey ok).Dated := by
  unfold RevokeState.handshake
  split
  · exact h
  · split
    · rename_i p ip hload
      exact h.load (loadRuntimePeer_eq hload _ rfl rfl) rfl false
    · exact h

theorem Dated.loadRoutes (h : st.Dated) (ok : Bool) : (st.loadRoutes ok).Dated := by
  unfold RevokeState.loadRoutes
  split
  · rename_i p peer hl
    split
    · refine h.rebuilt rfl rfl rfl rfl rfl rfl ?_
      rintro q x (hx | ⟨_, hx⟩)
      · exact ⟨x, .inl hx, rfl, rfl, rfl⟩
      · cases hx; exact ⟨peer, .inr ⟨_, hl⟩, rfl, rfl, rfl⟩
    · refine h.rebuilt rfl rfl rfl rfl rfl rfl ?_
      rintro q x (hx | ⟨_, hx⟩)
      · exact ⟨x, .inl hx, rfl, rfl, rfl⟩
      · cases hx
  · exact h

theorem Dated.activate (h : st.Dated) (ready : Bool) (sender : Channel) (now : SystemTime) :
    (st.activate ready sender now).Dated := by
  unfold RevokeState.activate
  split
  · rename_i p peer hl
    simp only
    split
    · refine h.rebuilt rfl rfl rfl rfl rfl rfl ?_
      rintro q x (hx | ⟨_, hx⟩)
      · simp only [lookup_insert_if] at hx
        split at hx
        · rename_i hq
          cases hx
          exact ⟨peer, .inr ⟨_, hq ▸ hl⟩, rfl, rfl, rfl⟩
        · exact ⟨x, .inl hx, rfl, rfl, rfl⟩
      · cases hx
    · refine h.rebuilt rfl rfl rfl rfl rfl rfl ?_
      rintro q x (hx | ⟨_, hx⟩)
      · exact ⟨x, .inl hx, rfl, rfl, rfl⟩
      · cases hx
  · exact h

theorem Dated.handle (h : st.Dated) (c : Nat) : (st.handle c).Dated := by
  unfold RevokeState.handle
  split
  · rename_i p op g hl hc
    refine (h.removePeer p).acknowledge ?_ fun peer hb => (built_of_removePeer hb).2 hl rfl
    rw [← hc]
    unfold RevokeState.removePeer
    split <;> rfl
  · exact h

theorem Dated.step (h : st.Dated) {op : RevokeOp} (hcare : st.Careful op) : (st.step op).Dated := by
  cases op with
  | method op =>
    simp only [RevokeState.step]
    split
    · exact ⟨h.bounded, h.recorded, h.owed, h.keyed, h.stamped, h.fenced⟩
    · exact h
  | invoke c p op =>
    simp only [RevokeState.step]
    split
    · exact h
    · rename_i hc
      exact h.invoke (by simpa using hc) p op
  | enter c ok => exact h.enter hcare
  | persist ok => exact h.persist hcare
  | finish ok => exact h.finish hcare
  | handle c => exact h.handle c
  | reply c => exact h.reply c
  | handshake publicKey ok => exact h.handshake publicKey ok
  | loadRoutes ok => exact h.loadRoutes ok
  | activate ready sender now => exact h.activate ready sender now
  | expire p =>
    simp only [RevokeState.step, RevokeState.expire]
    split
    · exact h
    · exact h.removePeer p

end RevokeState

end Vntc
