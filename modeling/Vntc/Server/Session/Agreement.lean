import Vntc.Server.Session.Persist

/-!
# Agreement of memory and database

The writes that the methods of `Server/Session/Persist.lean` leave, and the load of a network.
-/

namespace Vntc

open Lib Database NetworkStateInner

theorem Write.UpToDate.rest {m : SessionState} {w v : Write} (h : w.UpToDate m) (hv : v ∈ w.rest) :
    v.UpToDate m := by
  unfold Write.rest at hv
  split at hv
  · rw [List.mem_singleton] at hv
    subst hv
    exact fun d hd => h d (List.mem_cons_of_mem _ hd)
  · cases hv

namespace Persist

variable {s : Persist} {w : Write}

/-! ## Writes -/

/-- What a write does: nothing to the row of a device, or the row is what the memory has. -/
structure Written (s : Persist) (w : Write) (db : Database) : Prop where
  mirrors : db.Mirrors
  peers : ∀ n t, db.PeerAt n t ↔ s.db.PeerAt n t
  rows : ∀ d, db.addressOf s.mem.st.networkCode d = s.rowOf d ∧
      (w.Touches d → ∃ v ∈ w.rest, v.Touches d) ∨
    db.addressOf s.mem.st.networkCode d = (s.mem.leaseOf d).map Ipv4Addr.toText

theorem Inv.save (hi : s.Inv) {r : DeviceRecord} (hr : s.mem.Stores r)
    (ht : ∀ d, w.Touches d → r.deviceId = d) :
    ∃ db, s.db.saveOrUpdateDevice r = some db ∧ s.Written w db := by
  obtain ⟨hn, hip⟩ := hr
  have hheld : ∀ t, r.ip = some t → ∃ ip, t = ip.toText ∧ s.MayHold r.deviceId ip := by
    intro t h
    obtain ⟨ip, hl, rfl⟩ := Option.map_eq_some_iff.mp (hip.symm.trans h)
    exact ⟨ip, rfl, hi.held _ ip hl⟩
  have hsome : (s.db.saveOrUpdateDevice r).isSome := by
    refine save_isSome hi.mirrors (fun h => ?_) (fun t h d hd => ?_) fun t h => ?_
    · obtain ⟨t, h⟩ := Option.ne_none_iff_exists'.mp h
      obtain ⟨ip, -, hm⟩ := hheld t h
      exact hm.named
    · obtain ⟨ip, rfl, hm⟩ := hheld t h
      rw [hn]
      exact hm.row d hd
    · obtain ⟨ip, rfl, hm⟩ := hheld t h
      rw [hn]
      exact hm.peer
  obtain ⟨db, hdb⟩ := Option.isSome_iff_exists.mp hsome
  have hexec : s.db.exec (.saveOrUpdateDevice r) = some db := hdb
  refine ⟨db, hdb, hi.mirrors.exec hexec, fun n t => peerAt_save hdb, fun d => ?_⟩
  rw [addressOf_save hdb]
  split
  · rename_i h
    exact .inr (by rw [hip, h.2])
  · rename_i h
    exact .inl ⟨rfl, fun hd => absurd ⟨hn.symm, (ht d hd).symm⟩ h⟩

/-- A write is accepted, and the row of its device has the address in memory afterwards. -/
theorem Inv.exec_ok (hi : s.Inv) (hw : w.UpToDate s.mem) :
    ∃ db, w.exec s.mem.st.networkCode s.db = some db ∧ s.Written w db := by
  cases w with
  | save r => exact hi.save hw fun d hd => hd
  | confirm n r => exact hi.save hw.2 fun d hd => hd
  | release ids =>
    cases ids with
    | nil => exact ⟨s.db, rfl, hi.mirrors, fun _ _ => Iff.rfl, fun d => .inl ⟨rfl, nofun⟩⟩
    | cons x ids =>
      obtain ⟨db, hdb, haddr⟩ := s.db.release_isSome s.mem.st.networkCode x
      have hexec : s.db.exec (.releaseDeviceIp s.mem.st.networkCode x) = some db := hdb
      refine ⟨db, hdb, hi.mirrors.exec hexec, fun n t => peerAt_release hdb, fun d => ?_⟩
      rw [haddr]
      split
      · rename_i h
        refine .inr ?_
        rw [h.2, hw x List.mem_cons_self]
        rfl
      · rename_i h
        refine .inl ⟨rfl, fun hd => ?_⟩
        have hd : d ∈ ids := (List.mem_cons.mp hd).resolve_left fun hx => h ⟨rfl, hx⟩
        obtain ⟨y, ys, rfl⟩ := List.exists_cons_of_ne_nil (List.ne_nil_of_mem hd)
        exact ⟨_, List.mem_cons_self, hd⟩
  | delete x =>
    have hexec : s.db.exec (.deleteDevice s.mem.st.networkCode x) = some _ := rfl
    refine ⟨_, rfl, hi.mirrors.exec hexec, fun n t => peerAt_delete, fun d => ?_⟩
    rw [addressOf_delete]
    split
    · rename_i h
      refine .inr ?_
      rw [h.2, show s.mem.leaseOf x = none from hw]
      rfl
    · rename_i h
      exact .inl ⟨rfl, fun hd => absurd ⟨rfl, hd.symm⟩ h⟩

/-- A write keeps the invariant; it may confirm the session of its device. -/
theorem Inv.written (hi : s.Inv) (hw : w ∈ s.writes) {db : Database} (hdb : s.Written w db)
    {mem : SessionState} (hcode : mem.st.networkCode = s.mem.st.networkCode)
    (hnet : mem.st.net = s.mem.st.net) (hgw : mem.st.gateway = s.mem.st.gateway)
    (hl : mem.st.leaseState = s.mem.st.leaseState)
    (hun : ∀ d, s.mem.Unconfirmed d → mem.Unconfirmed d ∨ w.Touches d) :
    Inv { mem, db, writes := w.rest ++ s.writes.erase w } := by
  have hlease : ∀ d, mem.leaseOf d = s.mem.leaseOf d := fun d => by
    unfold SessionState.leaseOf
    rw [hl]
  refine ⟨?_, hdb.mirrors, fun d ip h => ?_, ?_, fun v hv => ?_, fun d hidle hnot => ?_⟩
  · rw [hnet, hgw, hl]
    exact hi.lease
  · have hd := (hlease d).symm.trans h
    obtain ⟨h1, h2, h3⟩ := hi.held d ip hd
    refine ⟨h1, ?_, fun k hk => ?_⟩
    · rw [hcode, hdb.peers]
      exact h2
    · unfold rowOf
      rw [hcode]
      rcases hdb.rows k with ⟨he, -⟩ | he
      · rw [he]
        exact h3 k hk
      · -- The device of the write has another address in memory.
        rw [he]
        intro hrow
        have hkip := (Option.map_injective Ipv4Addr.toText_injective).eq_iff (b := some ip) |>.mp hrow
        exact hk (hi.lease.unique ip k d hkip hd)
  · simp only [hcode, hnet, hgw, hl, hdb.peers]
    exact hi.peers
  · refine Write.UpToDate.congr (m := s.mem) ?_ hcode fun d _ => hlease d
    rcases List.mem_append.mp hv with hv | hv
    · exact (hi.upToDate w hw).rest hv
    · exact hi.upToDate v (List.mem_of_mem_erase hv)
  · intro ip
    unfold rowOf
    rw [hcode, hlease]
    rcases hdb.rows d with ⟨he, ht⟩ | he
    · have hnt : ¬ w.Touches d := fun h => by
        obtain ⟨v, hv, hvd⟩ := ht h
        exact hidle v (List.mem_append_left _ hv) hvd
      have hold : s.Idle d := fun v hv hvd => by
        refine hidle v (List.mem_append_right _ ((List.mem_erase_of_ne fun h => ?_).mpr hv)) hvd
        rw [h] at hvd
        exact hnt hvd
      rw [he]
      exact hi.settled d hold (fun h => (hun d h).elim hnot hnt) ip
    · rw [he]
      exact ((Option.map_injective Ipv4Addr.toText_injective).eq_iff (b := some ip)).symm

theorem Inv.run (hi : s.Inv) (w : Write) : (s.run w).Inv := by
  unfold Persist.run
  split
  case isFalse => exact hi
  case isTrue hw =>
    have hw : w ∈ s.writes := List.contains_iff_mem.mp hw
    have hup := hi.upToDate w hw
    obtain ⟨db, hdb, hwritten⟩ := hi.exec_ok hup
    rw [hdb]
    cases w with
    | confirm n r =>
      dsimp only
      unfold SessionState.confirm
      split
      · rw [NetworkState.confirmRegistration_leaseState]
        refine hi.written hw hwritten rfl rfl rfl rfl fun d ⟨m, hm, hmd, hp, hown⟩ => ?_
        by_cases h : m = n
        · subst h
          exact .inr (hup.1.trans hmd)
        · exact .inl ⟨m, List.mem_cons_of_mem _ ((List.mem_erase_of_ne h).mpr hm), hmd, hp, hown⟩
      · exact hi.written hw hwritten rfl rfl rfl rfl fun d => .inl
    | _ => exact hi.written hw hwritten rfl rfl rfl rfl fun d => .inl

theorem Inv.step (hi : s.Inv) {op : PersistOp} (hc : s.Ordered op) : (s.apply op).Inv := by
  cases op with
  | method op => exact hi.method hc
  | run w => exact hi.run w

/-! ## Loading -/

/-- The devices in memory are those of the rows. -/
theorem Fresh.agreesOn (h : s.Fresh) (d : String) : s.AgreesOn d := by
  obtain ⟨networkCode, net, leaseDuration, allocations, now, -, hst⟩ := h.loaded
  intro ip
  unfold rowOf SessionState.leaseOf
  rw [hst]
  unfold NetworkState.newFromDb
  rw [leaseOf_load ids_loadAllDevices, find_loadAllDevices]
  unfold addressOf
  simp only [Option.bind_eq_some_iff, Ipv4Addr.parse_eq_some_iff]
  constructor
  · rintro ⟨t, hr, rfl⟩
    exact hr
  · exact fun hr => ⟨_, hr, rfl⟩

/-- The rows of a load are the devices in memory. -/
theorem inv_of_fresh (h : s.Fresh) : s.Inv := by
  have hm : s.db.Mirrors := mirrors_of_reach h.reach
  have hagree := h.agreesOn
  obtain ⟨networkCode, net, leaseDuration, allocations, now, hpeers, hst⟩ := h.loaded
  have hcode : s.mem.st.networkCode = networkCode := by rw [hst]; rfl
  have hrow : ∀ d ip, s.mem.leaseOf d = some ip →
      s.db.addressOf networkCode d = some ip.toText := by
    intro d ip hd
    rw [← hcode]
    exact (hagree d ip).mp hd
  have hload : s.mem.st.leaseState = .buildInitialInnerState s.mem.st.net s.mem.st.gateway
      (some (s.db.loadAllDevices networkCode)) (some allocations) now := by
    rw [hst]
    rfl
  have hdist : DistinctDevices ((some (s.db.loadAllDevices networkCode)).getD []) :=
    hm.distinctDevices
  have hexact : s.mem.st.leaseState.table.Exact (Usable s.mem.st.net s.mem.st.gateway) :=
    NetworkStateInner.Loaded.exact ⟨_, _, now, hdist, hload⟩
  refine ⟨leaseInv_of_load hdist hload fun ip => ?_, hm,
    fun d ip hd => ?_, fun ip hp hu => ?_, ?_, fun d _ _ => hagree d⟩
  · cases hd : s.mem.st.leaseState.deviceIpMap.lookup ip with
    | none => exact .inl rfl
    | some d =>
      refine .inr (Option.eq_none_iff_forall_ne_some.mpr fun p hp => ?_)
      have hl : s.mem.leaseOf d = some ip := ((hexact ip d).mp hd).1
      refine hm.not_peerAt (hrow d ip hl)
        ((mem_loadWireguardPeerIpAllocations hpeers).mp ⟨p, ?_⟩)
      rw [hload, buildInitialInnerState] at hp
      refine ((ReserveState.mem_of_loadPeers _ _ hp).resolve_left fun he => ?_).1
      rw [ReserveState.wireguardPeerIpMap_loadDevices] at he
      cases he
  · have hd := hrow d ip hd
    refine ⟨?_, ?_, fun k hk hkrow => ?_⟩
    · have := s.db.allocations.valid.1 _ (hm.allocation hd)
      simpa [ipAllocations] using this
    · rw [hcode]
      exact hm.not_peerAt hd
    · unfold rowOf at hkrow
      rw [hcode] at hkrow
      exact hk (hm.device_unique hd hkrow)
  · rw [hcode] at hp
    obtain ⟨p, hp⟩ := (mem_loadWireguardPeerIpAllocations hpeers).mpr hp
    rw [hload]
    exact peer_of_loadPeers hu (.inr ⟨_, hp, rfl⟩)
  · rw [h.writes]
    simp

theorem inv_of_reach (h : sys.ReachWith Ordered s) : s.Inv :=
  h.invariant_of (fun _ => inv_of_fresh) fun _ _ hi hc => hi.step hc

/-- **Memory and database agree on the leases.** In runs with `Ordered`, whenever nothing is under
way, a device has an address in memory if and only if its row has it, except for a device whose
pre-registration is still unconfirmed. -/
theorem agrees_of_ordered (h : sys.ReachWith Ordered s) (hq : s.Quiescent) : s.Agrees := by
  intro d hun
  refine (inv_of_reach h).settled d (fun w hw => ?_) hun
  rw [hq.writes] at hw
  cases hw

/-! ## Runs -/

/-- A new database, and the writes on it. -/
def databaseOf (ops : List DbOp) : Database :=
  ops.foldl Database.write ⟨[], Table.empty, Table.empty, Table.empty⟩

theorem databaseOf_reach (ops : List DbOp) : dbSys.Reach (databaseOf ops) :=
  Sys.Reach.foldl (Sys.Reach.init (S := dbSys) ⟨⟨[], Table.empty, none, none⟩, rfl⟩) ops

/-- The network `home`, loaded from a database without WireGuard peers. -/
def load (db : Database) : Persist where
  mem := {
    st := .newFromDb "home" defaultNet oneDay (some (db.loadAllDevices "home"))
      (some []) 0
    traffic := ∅
    live := []
    dropping := []
    collected := []
    deleting := []
    history := [] }
  db := db
  writes := []

theorem load_fresh (ops : List DbOp)
    (h : (databaseOf ops).loadWireguardPeerIpAllocations "home" = some []) :
    (load (databaseOf ops)).Fresh :=
  ⟨databaseOf_reach ops, ⟨"home", defaultNet, oneDay, [], 0, h, rfl⟩, rfl, rfl⟩

/-- What is saved of the laptop at `10.26.0.2`. -/
def laptopSaved : DeviceRecord := { NetworkState.laptopRow with ip := some "10.26.0.2" }

/-- The laptop registers, leaves and comes back, and every write is made before the next step. -/
def comesBack : List PersistOp :=
  [.method (.register (anyIpReq "laptop" none) 7 0 0), .run (.save laptopSaved),
    .method (.drop ⟨NetworkState.registerSession "home" (anyIpReq "laptop" none)
      (homeIp 2) 7, 0⟩ 1), .run (.save laptopSaved),
    .method (.register (anyIpReq "laptop" none) 9 1 2), .run (.save laptopSaved)]

/-- A database with the laptop's row only has no address for another device. -/
theorem rowOf_ne_laptop {s : Persist} (hs : s.db.devices.rows = [laptopSaved]) {d t : String}
    (hd : d ≠ "laptop") : s.rowOf d ≠ some t := by
  intro h
  obtain ⟨r, hr, -, hrd, -⟩ := addressOf_eq_some.mp h
  rw [hs, List.mem_singleton] at hr
  subst hr
  exact hd hrd.symm

theorem agrees_after_return :
    (comesBack.foldl apply (load (databaseOf []))).mem.leaseOf "laptop" =
        some (homeIp 2) ∧
      (comesBack.foldl apply (load (databaseOf []))).rowOf "laptop" = some "10.26.0.2" ∧
      (comesBack.foldl apply (load (databaseOf []))).Agrees := by
  refine ⟨by decide, by decide, agrees_of_ordered (Sys.ReachWith.foldl
    (Sys.ReachWith.init (S := sys) (C := Ordered) (load_fresh [] (by decide)))
    ⟨?_, trivial, ?_, trivial, ?_, trivial, trivial⟩) ⟨by decide, rfl, rfl, rfl⟩⟩
  · exact ⟨by decide, by decide, fun h => absurd (by simp [Idle, load]) h, fun _ _ _ => nofun⟩
  · exact ⟨by decide, nofun⟩
  · refine ⟨by decide, by decide, fun h => absurd (fun w hw => ?_) h,
      fun d ip hd hrow => absurd hrow (rowOf_ne_laptop (by decide) hd)⟩
    cases hw

/-- The session of the laptop's pre-registration at the address of its row. -/
def preRegistered : OpenSession :=
  ⟨NetworkState.registerSession "home" (NetworkState.preRegisterReq "laptop")
    (homeIp 7) 7, 0⟩

/-- The laptop has a row with an address. It pre-registers, and its session ends unconfirmed. -/
def endsUnconfirmed : List PersistOp :=
  [.method (.register (NetworkState.preRegisterReq "laptop") 7 0 0),
    .method (.drop preRegistered 1), .method (.dropStep ⟨preRegistered.session, .sender⟩),
    .method (.dropStep ⟨preRegistered.session, .endpoint⟩),
    .method (.dropStep ⟨preRegistered.session, .traffic⟩)]

/-- Nothing is under way, the memory has no address for the laptop, and its row has one. -/
theorem release_keeps_row :
    ∃ s, sys.Reach s ∧ s.Quiescent ∧ s.mem.live = [] ∧ s.mem.leaseOf "laptop" = none ∧
      s.rowOf "laptop" = some "10.26.0.7" ∧ ¬ s.Agrees := by
  let ops : List DbOp := [.saveOrUpdateDevice NetworkState.laptopRow]
  have hrow : (endsUnconfirmed.foldl apply (load (databaseOf ops))).rowOf "laptop" =
      some (homeIp 7).toText := by decide
  have hlease : (endsUnconfirmed.foldl apply (load (databaseOf ops))).mem.leaseOf "laptop" = none := by
    decide
  have hlive : (endsUnconfirmed.foldl apply (load (databaseOf ops))).mem.live = [] := by decide
  refine ⟨_, Sys.Reach.foldl (Sys.Reach.init (S := sys) (load_fresh ops (by decide))) endsUnconfirmed,
    ⟨by decide, by decide, by decide, by decide⟩, hlive, hlease, hrow, fun h => ?_⟩
  have hun : ¬ (endsUnconfirmed.foldl apply (load (databaseOf ops))).mem.Unconfirmed "laptop" := by
    rintro ⟨n, hn, -⟩
    cases hn
  exact absurd (hlease.symm.trans ((h "laptop" hun _).mpr hrow)) nofun

end Persist

end Vntc
