import Vntc.Server.WireGuard.Generation

/-!
# Revocation of WireGuard peers

When an operation on a peer has returned, no session of the peer should be older than the operation.
-/

namespace Vntc

open Lib

/-- The steps of operations, and the methods for devices. -/
def RevokeOp.isSection : RevokeOp → Bool
  | .method _ | .invoke .. | .enter .. | .persist _ | .finish _ | .reply _ => true
  | .handle _ | .handshake .. | .loadRoutes _ | .activate .. | .expire _ => false

namespace RevokeState

/-- No session of `p` is built from a record older than `g`, and `p` is online only at the address
of such a session. -/
structure Revoked (st : RevokeState) (p : String) (g : Nat) : Prop where
  session : ∀ peer, st.active.lookup p = some peer → g ≤ peer.generation
  online : ∀ ip t, st.state.onlineEndpoints.lookup ip = some (.wireGuard p t) →
    ∃ peer, st.active.lookup p = some peer ∧ peer.reservedIp = ip ∧ g ≤ peer.generation

/-- The maps of the runtime and the endpoints of the network. -/
structure Linked (st : RevokeState) : Prop where
  indexed : ∀ p peer, st.active.lookup p = some peer →
    st.peersByPublicKey.lookup peer.publicKey = some p
  loading : ∀ l, st.loading = some l →
    st.active.lookup l.peerId = none ∧ st.peersByPublicKey.lookup l.peer.publicKey = none
  online : ∀ ip p t, st.state.onlineEndpoints.lookup ip = some (.wireGuard p t) →
    ∃ peer, st.active.lookup p = some peer ∧ peer.reservedIp = ip

variable {st st' : RevokeState}

theorem Linked.same (hl : st.Linked) (h : SameRuntime st st') : st'.Linked where
  indexed := by rw [h.active, h.peersByPublicKey]; exact hl.indexed
  loading := by rw [h.active, h.peersByPublicKey, h.loading]; exact hl.loading
  online := by rw [h.active, h.online]; exact hl.online

/-! ### Endpoints -/

theorem sameRuntime_enterLocked (c : Nat) (call : AdminCall) (ok : Bool) :
    SameRuntime st (st.enterLocked c call ok) := by
  unfold enterLocked
  cases call.op with
  | setEnabled | delete | release | create => simp only; split <;> exact ⟨rfl, rfl, rfl, rfl⟩
  | move | createAutomatic | createWithIp =>
    simp only [startWith]
    split <;> exact ⟨rfl, rfl, rfl, rfl⟩
  | reload => exact ⟨rfl, rfl, rfl, rfl⟩

theorem sameRuntime_enter (c : Nat) (ok : Bool) : SameRuntime st (st.enter c ok) := by
  unfold enter
  split
  · split <;> exact ⟨rfl, rfl, rfl, rfl⟩
  · split
    · exact ⟨rfl, rfl, rfl, rfl⟩
    · exact sameRuntime_enterLocked c _ ok
  · exact ⟨rfl, rfl, rfl, rfl⟩

theorem sameRuntime_persist (ok : Bool) : SameRuntime st (st.persist ok) := by
  unfold persist
  split
  · split <;> exact ⟨rfl, rfl, rfl, rfl⟩
  · exact ⟨rfl, rfl, rfl, rfl⟩

theorem sameRuntime_finish (ok : Bool) : SameRuntime st (st.finish ok) := by
  unfold finish
  simp only
  repeat' split
  all_goals exact ⟨rfl, rfl, rfl, rfl⟩

/-- Only a method for devices changes the endpoints. -/
theorem sameRuntime_section {op : RevokeOp} (hop : op.isSection = true)
    (hm : ∀ m, op ≠ .method m) : SameRuntime st (st.step op) := by
  cases op with
  | method m => exact absurd rfl (hm m)
  | invoke c p op =>
    simp only [step]
    split <;> exact ⟨rfl, rfl, rfl, rfl⟩
  | enter c ok => exact sameRuntime_enter c ok
  | persist ok => exact sameRuntime_persist ok
  | finish ok => exact sameRuntime_finish ok
  | reply c =>
    simp only [step, reply]
    split <;> exact ⟨rfl, rfl, rfl, rfl⟩
  | handle | handshake | loadRoutes | activate | expire => cases hop

section

variable (h : st.Linked)

include h

/-- The peer's session ends, and its endpoint with it. -/
theorem Linked.removePeer (hl : st.loading = none) (p : String) : (st.removePeer p).Linked := by
  cases ha : st.active.lookup p with
  | none =>
    have : st.removePeer p = st := by unfold RevokeState.removePeer; rw [ha]
    rw [this]
    exact h
  | some peer =>
    have hactive : ∀ q, (st.removePeer p).active.lookup q = _ := lookup_removePeer p
    unfold RevokeState.removePeer at hactive ⊢
    rw [ha] at hactive ⊢
    refine ⟨fun q x hx => ?_, fun l hll => ?_, fun ip q t ho => ?_⟩
    · rw [hactive] at hx
      split at hx
      · cases hx
      · rename_i hq
        have hi := h.indexed q x hx
        simp only [HashMap.lookup_erase_if]
        split
        · rename_i hk
          rw [hk, h.indexed p peer ha] at hi
          exact absurd (Option.some.inj hi).symm hq
        · exact hi
    · exact absurd (hl.symm.trans hll) (by simp)
    · obtain ⟨ho, hne⟩ := NetworkState.online_of_disconnect ho
      obtain ⟨x, hx, hip⟩ := h.online ip q t ho
      refine ⟨x, ?_, hip⟩
      rw [hactive, if_neg]
      · exact hx
      · rintro rfl
        rw [ha] at hx
        cases hx
        exact hne ⟨hip.symm, rfl⟩

/-- A record is loaded only for a peer without a session: a session of the peer has the key of its
row, and the runtime knows the keys of its sessions. -/
theorem Linked.handshake (hd : st.Dated) (publicKey : Bytes) (ok : Bool) :
    (st.handshake publicKey ok).Linked := by
  unfold RevokeState.handshake
  split
  · exact h
  · rename_i hc
    simp only [Bool.or_eq_true, not_or, Bool.not_eq_true, Option.isSome_eq_false_iff,
      Option.isNone_iff_eq_none] at hc
    split
    · rename_i p ip hload
      refine ⟨h.indexed, fun l hl => ?_, h.online⟩
      cases hl
      refine ⟨?_, hc.1.1.2⟩
      obtain ⟨row, hrow, -, hk, -⟩ :=
        loadRuntimePeer_eq hload ⟨⟨ip, []⟩, publicKey, st.generation p⟩ rfl rfl
      cases ha : st.active.lookup p with
      | none => rfl
      | some x =>
        have hi := h.indexed p x ha
        rcases hd.keyed p x (.inl ha) with ⟨row', hr', hk'⟩ | ⟨_, _, -, -, -, -, -, hn⟩
        · rw [hrow] at hr'
          cases hr'
          rw [← hk', hk, hc.1.1.2] at hi
          cases hi
        · rw [hrow] at hn
          cases hn
    · exact h

theorem Linked.loadRoutes (ok : Bool) : (st.loadRoutes ok).Linked := by
  unfold RevokeState.loadRoutes
  split
  · rename_i p peer hl
    split
    · have hload := h.loading _ hl
      refine ⟨h.indexed, fun l hll => ?_, h.online⟩
      cases hll
      exact hload
    · exact ⟨h.indexed, fun l hll => (by cases hll), h.online⟩
  · exact h

theorem Linked.activate (ready : Bool) (sender : Channel) (now : SystemTime) :
    (st.activate ready sender now).Linked := by
  unfold RevokeState.activate
  split
  · rename_i p peer hl
    obtain ⟨hn, hk⟩ := h.loading _ hl
    simp only
    split
    · rename_i hc
      have hok : (st.state.connectWireguardPeer p peer.reservedIp sender now).2 = true :=
        (Bool.and_eq_true _ _ ▸ hc).2
      refine ⟨fun q x hx => ?_, fun l hll => (by cases hll), fun ip q t ho => ?_⟩
      · simp only [HashMap.lookup_insert_if] at hx ⊢
        split at hx
        · rename_i hq
          cases hx
          rw [if_pos rfl, hq]
        · have hi := h.indexed q x hx
          rw [if_neg, hi]
          intro he
          rw [he, hk] at hi
          cases hi
      · rw [NetworkState.lookup_connect hok] at ho
        simp only [HashMap.lookup_insert_if]
        split at ho
        · rename_i hip
          cases ho
          exact ⟨peer, if_pos rfl, hip.symm⟩
        · obtain ⟨x, hx, hip⟩ := h.online ip q t ho
          refine ⟨x, ?_, hip⟩
          rw [if_neg, hx]
          rintro rfl
          rw [hn] at hx
          cases hx
    · exact ⟨h.indexed, fun l hll => (by cases hll), h.online⟩
  · exact h

theorem Linked.handle (c : Nat) : (st.handle c).Linked := by
  unfold RevokeState.handle
  split
  · rename_i p op g hl hc
    exact (h.removePeer hl p).same ⟨rfl, rfl, rfl, rfl⟩
  · exact h

theorem Linked.step (hd : st.Dated) (op : RevokeOp) : (st.step op).Linked := by
  cases op with
  | method op =>
    simp only [RevokeState.step]
    split
    · rename_i hop
      exact ⟨h.indexed, h.loading, fun ip p t ho =>
        h.online ip p t (NetworkState.online_of_device hop ho)⟩
    · exact h
  | invoke | enter | persist | finish | reply =>
    exact h.same (sameRuntime_section rfl (by simp))
  | handle c => exact h.handle c
  | handshake publicKey ok => exact h.handshake hd publicKey ok
  | loadRoutes ok => exact h.loadRoutes ok
  | activate ready sender now => exact h.activate ready sender now
  | expire p =>
    simp only [RevokeState.step, RevokeState.expire]
    split
    · exact h
    · rename_i hl
      exact h.removePeer (by simpa using hl) p

end

theorem Fresh.dated (h : st.Fresh) : st.Dated := by
  obtain ⟨-, -, hc, ha, -, hl, hr⟩ := h
  have hb : ∀ p peer, ¬ st.Built p peer := by
    rintro p peer (hx | ⟨_, hx⟩)
    · rw [ha] at hx; cases hx
    · rw [hl] at hx; cases hx
  refine ⟨fun p peer hx => absurd hx (hb p peer), fun p peer hx => absurd hx (hb p peer),
    fun p peer hx => absurd hx (hb p peer), fun p peer hx => absurd hx (hb p peer),
    fun c call g hx => ?_, fun p g hf => ?_⟩
  · rw [hc] at hx; cases hx
  · rcases hf with hm | ⟨c, call, hx, -⟩
    · rw [hr] at hm; cases hm
    · rw [hc] at hx; cases hx

theorem Fresh.linked (h : st.Fresh) : st.Linked := by
  obtain ⟨ho, -, -, ha, -, hl, -⟩ := h
  refine ⟨fun p peer hx => ?_, fun l hx => ?_, fun ip p t hx => absurd hx (ho ip p t)⟩
  · rw [ha] at hx; cases hx
  · rw [hl] at hx; cases hx

theorem inv_of_careful (h : revokeSys.ReachWith Careful st) : st.Dated ∧ st.Linked :=
  h.invariant_of (I := fun st => st.Dated ∧ st.Linked)
    (fun _ hf => ⟨Fresh.dated hf, Fresh.linked hf⟩) fun _ op hi hc => ⟨hi.1.step hc, hi.2.step hi.1 op⟩

/-- **Revocation is final.** If operations that revoke nothing keep clear of revocations still to
come, then after an operation on a peer has returned, no session of the peer is older than the
operation, and the peer is online only with such a session. -/
theorem revoked_of_careful (st : RevokeState) (h : revokeSys.ReachWith Careful st) :
    ∀ r ∈ st.returned, st.Revoked r.1 r.2 := by
  intro r hr
  obtain ⟨hd, hl⟩ := inv_of_careful h
  have hf := (hd.fenced r.1 r.2 (.inl hr)).2
  refine ⟨fun peer ha => hf peer (.inl ha), fun ip t ho => ?_⟩
  obtain ⟨peer, ha, hip⟩ := hl.online ip r.1 t ho
  exact ⟨peer, ha, hip, hf peer (.inl ha)⟩

/-! ## Two moves of one peer -/

def phoneIp : Ipv4Addr := homeIp 7

def phoneIp' : Ipv4Addr := homeIp 8

/-- A server with one peer, right after its start. -/
def phoneState : RevokeState where
  state := .newFromDb "home" defaultNet 0 none (some [⟨"phone", phoneIp⟩]) 0
  peers := HashMap.ofPairs [("phone", ⟨[1], true⟩)]
  allocations := HashMap.ofPairs [("phone", phoneIp)]
  routes := ∅
  generation := fun _ => 0
  lock := none
  calls := ∅
  active := ∅
  peersByPublicKey := ∅
  loading := none
  maxActivePeers := 8
  returned := []

theorem phoneState_fresh : phoneState.Fresh := by
  refine ⟨fun ip p t h => ?_, rfl, rfl, rfl, rfl, rfl, rfl⟩
  cases h

/-- The peer connects, two requests move it to the same new address, and the first stores it. -/
def moving : List RevokeOp :=
  [.handshake [1] true, .loadRoutes true, .activate true 0 0, .invoke 0 "phone" (.move phoneIp'),
    .invoke 1 "phone" (.move phoneIp'), .enter 0 true, .persist true, .finish true]

def secondMove : List RevokeOp := [.enter 1 true, .persist true, .finish true]

/-- The second move waits for the revocation of the first. -/
def movedInTurn : List RevokeOp := moving ++ [.handle 0, .reply 0] ++ secondMove

theorem revoked_of_careful_moved :
    (movedInTurn.foldl step phoneState).returned = [("phone", 1), ("phone", 1)] ∧
      ∀ r ∈ (movedInTurn.foldl step phoneState).returned,
        (movedInTurn.foldl step phoneState).Revoked r.1 r.2 :=
  ⟨by decide, revoked_of_careful _
    (Sys.ReachWith.foldl (Sys.ReachWith.init (S := revokeSys) (C := Careful) phoneState_fresh)
      (by decide))⟩

/-- The second move finds the new address and returns, while the runtime still has the session at
the old address. -/
theorem old_session_after_move :
    ∃ st, revokeSys.Reach st ∧ ("phone", 1) ∈ st.returned ∧
      (∃ peer, st.active.lookup "phone" = some peer ∧ peer.generation = 0 ∧
        peer.reservedIp = phoneIp) ∧
      st.state.isWireguardEndpoint phoneIp = true ∧
      st.allocations.lookup "phone" = some phoneIp' ∧ ¬ st.Revoked "phone" 1 := by
  refine ⟨_, Sys.Reach.foldl (Sys.Reach.init (S := revokeSys) phoneState_fresh)
    (moving ++ secondMove), by decide,
    ⟨⟨⟨phoneIp, []⟩, [1], 0⟩, by decide, rfl, rfl⟩, by decide, by decide, fun h => ?_⟩
  have := h.session ⟨⟨phoneIp, []⟩, [1], 0⟩ (by decide)
  exact absurd this (by decide)

end RevokeState

end Vntc
