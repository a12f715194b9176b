import Vntc.Server.WireGuard.Revoke

/-!
# Operations on peers, as the runtime sees them

The operations on the peers of a network and the methods for its devices run beside the runtime
(`RevokeOp.isSection`). While the runtime has a session, the row keeps its key (`HasKey.section`): a
row with another key needs a deletion first, and a deletion keeps its lock until the session is
gone.
-/

namespace Vntc

open Lib HashMap

/-! ## Endpoints -/

namespace NetworkState

/-- The WireGuard peer that is online at the address. -/
def wireguardAt (st : NetworkState) (ip : Ipv4Addr) : Option String :=
  match st.onlineEndpoints.lookup ip with
  | some (.wireGuard p _) => some p
  | _ => none

variable {st st' : NetworkState}

variable {ip a : Ipv4Addr} {p : String} {now : SystemTime} {sender : Channel} {t : Int}

theorem wireguardAt_eq_some :
    st.wireguardAt ip = some p ↔ ∃ t, st.onlineEndpoints.lookup ip = some (.wireGuard p t) := by
  unfold wireguardAt
  cases h : st.onlineEndpoints.lookup ip with
  | none => simp
  | some e => cases e <;> simp

theorem wireguardAt_connect
    (h : (st.connectWireguardPeer p ip sender now).2 = true) (a : Ipv4Addr) :
    (st.connectWireguardPeer p ip sender now).1.wireguardAt a =
      if a = ip then some p else st.wireguardAt a := by
  unfold wireguardAt
  rw [lookup_connect h]
  by_cases ha : a = ip
  · simp only [if_pos ha]
  · simp only [if_neg ha]

/-- A peer connects at an address that is reserved for it, where nothing is online. -/
theorem connect_checked (h : (st.connectWireguardPeer p ip sender now).2 = true) :
    st.leaseState.wireguardPeerIpMap.lookup ip = some p ∧ st.wireguardAt ip = none := by
  unfold connectWireguardPeer at h
  split at h
  · cases h
  · rename_i hc
    simp only [not_or, ne_eq, Decidable.not_not, Bool.not_eq_true, Option.isSome_eq_false_iff,
      Option.isNone_iff_eq_none] at hc
    refine ⟨hc.1, ?_⟩
    unfold wireguardAt
    rw [hc.2.2]

theorem wireguardAt_disconnect (h : st.wireguardAt ip = some p) (a : Ipv4Addr) :
    (st.disconnectWireguardPeer p ip).1.wireguardAt a =
      if a = ip then none else st.wireguardAt a := by
  obtain ⟨t, ht⟩ := wireguardAt_eq_some.mp h
  unfold disconnectWireguardPeer
  rw [ht]
  simp only [if_true]
  unfold wireguardAt
  simp only [removeEndpoint, lookup_eraseOpt, Option.some.injEq, @eq_comm _ ip a]
  by_cases ha : a = ip
  · simp only [if_pos ha]
  · simp only [if_neg ha]

variable {d : String} {randomId : BitVec 64} {op : NetworkOp}

/-- An endpoint stays if a device's address is taken away. -/
theorem online_eraseOpt (hi : NetInv st)
    (h : st.onlineEndpoints.lookup a = some (.wireGuard p t)) {o : Option Ipv4Addr}
    (ho : ∀ ip, o = some ip → st.leaseState.leaseOf d = some ip) :
    (st.onlineEndpoints.eraseOpt o).lookup a = some (.wireGuard p t) := by
  rw [lookup_eraseOpt, if_neg, h]
  intro he
  exact hi.peers a (isWireguardEndpoint_iff.mpr ⟨p, t, h⟩) d (ho a he)

theorem online_device (hi : NetInv st) (hop : op.isDevice = true) (hp : st.handedOut op ≠ some a)
    (h : st.onlineEndpoints.lookup a = some (.wireGuard p t)) :
    (st.apply op).onlineEndpoints.lookup a = some (.wireGuard p t) := by
  rcases @endpoints_device st op hop with ⟨d, o, ho, he⟩ | ⟨ip, v, v', hv, hvnt, -, he⟩ |
    ⟨req, randomId, ip, old, v, hout, ha, -, he⟩
  · rw [he]
    exact online_eraseOpt hi h ho
  · rw [he, lookup_insert_if, if_neg, h]
    rintro rfl
    rw [h] at hv
    cases hv
    cases hvnt
  · -- The device gets another address, and gives up its own.
    have hne : a ≠ ip := by
      rintro rfl
      exact hp hout
    rw [he, lookup_insert_if, if_neg hne]
    exact online_eraseOpt hi h fun b => ha.leaseOf_old

/-- A method for devices leaves the WireGuard peers online where they are, if no device is handed the
address of one. -/
theorem wireguardAt_device (hi : NetInv st) (hop : op.isDevice = true)
    (hp : ∀ ip, st.handedOut op = some ip → st.wireguardAt ip = none) (a : Ipv4Addr) :
    (st.apply op).wireguardAt a = st.wireguardAt a := by
  apply Option.ext
  intro p
  rw [wireguardAt_eq_some, wireguardAt_eq_some]
  constructor
  · rintro ⟨t, ht⟩
    exact ⟨t, online_of_device hop ht⟩
  · rintro ⟨t, ht⟩
    refine ⟨t, online_device hi hop (fun hout => ?_) ht⟩
    have hat := wireguardAt_eq_some.mpr ⟨t, ht⟩
    rw [hp a hout] at hat
    cases hat

end NetworkState

namespace RevokeState

variable {st : RevokeState} {p : String} {publicKey : Bytes} {c : Nat} {call : AdminCall}
  {op : RevokeOp}

/-- The steps beside the runtime keep the key of a row, or hold the lock until the runtime has ended
the peer's session. -/
theorem HasKey.section (h : st.HasKey p publicKey) (hop : op.isSection = true) :
    (st.step op).HasKey p publicKey := by
  cases op with
  | method op =>
    simp only [RevokeState.step]
    split <;> exact h
  | invoke c q op =>
    simp only [RevokeState.step]
    split
    · exact h
    · rename_i hn
      exact h.invoke (by simpa using hn) q op
  | enter c ok => exact h.enter c ok
  | persist ok => exact h.persist ok
  | finish ok => exact h.finish ok
  | reply c => exact h.reply c
  | handle | handshake | loadRoutes | activate | expire => cases hop

/-! ## Methods -/

/-- The cluster grants hosts of the network only. -/
def granted (st : RevokeState) : RevokeOp → Bool
  | .enter c _ =>
    match st.calls.lookup c with
    | some ⟨_, .createWithIp _ ip, _⟩ =>
      decide (st.state.net.IsHost ip) && ip != st.state.gateway
    | _ => true
  | _ => true

/-- The network is as before, or one of its methods was called. -/
def StateStep (st st' : NetworkState) : Prop := st' = st ∨ ∃ op, st' = st.apply op

theorem state_startWith {r : Except WireGuardError (NetworkStateInner × Ipv4Addr × Option Ipv4Addr)}
    (h : ∀ x, r = .ok x → ∃ op, ({ st.state with leaseState := x.1 } : NetworkState) =
      st.state.apply op) : StateStep st.state (st.startWith c call r).state := by
  unfold startWith
  split
  · exact .inr (h _ rfl)
  · exact .inl rfl

theorem state_enterLocked {ok : Bool} (hg : ∀ row ip, call.op = .createWithIp row ip →
      st.state.net.IsHost ip ∧ ip ≠ st.state.gateway) :
    StateStep st.state (st.enterLocked c call ok).state := by
  obtain ⟨q, op, stage⟩ := call
  unfold enterLocked
  cases op with
  | setEnabled | delete | release | create => simp only; split <;> exact .inl rfl
  | reload => exact .inl rfl
  | move ip =>
    refine state_startWith fun x hx => ⟨.reserve q ip, ?_⟩
    simp only [NetworkState.apply]
    cases hs : st.state.leaseState.startReserve st.state.net st.state.gateway q ip with
    | error => rw [hs] at hx; cases hx
    | ok r => rw [hs] at hx; cases hx; rfl
  | createAutomatic row =>
    refine state_startWith fun x hx => ⟨.createAutomatic q, ?_⟩
    simp only at hx
    simp only [NetworkState.apply, hx]
  | createWithIp row ip =>
    refine state_startWith fun x hx => ⟨.createWithIp q ip, ?_⟩
    simp only [NetworkState.apply, if_pos (hg row ip rfl)]
    cases hs : st.state.leaseState.prepareFor q ip with
    | error => simp only [hs] at hx; cases hx
    | ok r =>
      obtain ⟨lease, previous⟩ := r
      simp only [hs] at hx
      cases hx
      simp only [NetworkState.applyOp_of_prepareFor hs st.state.net st.state.gateway,
        NetworkState.leaseCall]

theorem state_finishReservation {ip : Ipv4Addr} {previous : Option Ipv4Addr} {persisted : Bool} :
    StateStep st.state (st.finishReservation call ip previous persisted).state := by
  right
  cases persisted with
  | true => exact ⟨.commit call.peerId ip (call.op.reserveKind.previousArg previous), rfl⟩
  | false => exact ⟨.rollback call.peerId ip (call.op.reserveKind.previousArg previous), rfl⟩

/-- The steps beside the runtime change the network by its methods. -/
theorem state_section (hop : op.isSection = true) (hg : st.granted op = true) :
    StateStep st.state (st.step op).state := by
  cases op with
  | method op =>
    simp only [step]
    split
    · exact .inr ⟨op, rfl⟩
    · exact .inl rfl
  | invoke c q op =>
    simp only [step]
    split <;> exact .inl rfl
  | enter c ok =>
    simp only [step, enter]
    split
    · split <;> exact .inl rfl
    · rename_i q op hno hc
      split
      · exact .inl rfl
      · refine state_enterLocked fun row ip he => ?_
        subst he
        simpa [granted, hc] using hg
    · exact .inl rfl
  | persist ok =>
    simp only [step, persist]
    split
    · split
      · exact .inl rfl
      · exact state_finishReservation
    · exact .inl rfl
  | finish ok =>
    simp only [step, finish]
    split
    · split <;> exact .inl rfl
    · split
      · split <;> exact state_finishReservation
      · exact state_finishReservation
    · rename_i c q op removed g hh
      have hr : StateStep st.state
          (st.withLease (st.state.leaseState.releaseWireguardPeerIp q).1).state :=
        .inr ⟨.releasePeer q, rfl⟩
      split
      · exact hr
      · split <;> exact hr
    · exact .inl rfl
  | reply c =>
    simp only [step, reply]
    split <;> exact .inl rfl
  | handle | handshake | loadRoutes | activate | expire => cases hop

end RevokeState

end Vntc
