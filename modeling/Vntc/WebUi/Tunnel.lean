import Vntc.WebUi.Server

/-!
# The tunnel that runs and the profile that is reported

The controller takes a start while it runs as a success, and `start` then reports the default
profile as the active one whatever runs. So the reported profile is the one that runs as long as a
start during a run finds the default profile active.
-/

namespace Vntc

open Lib

namespace WebUi

/-- The profile that is reported as active has the settings of the tunnel. -/
structure Reported (controller : VntController) (activeProfileId : Option String)
    (profiles : ProfileStore) (tunnel : Option VntConfig) : Prop where
  active : controller.isActive = tunnel.isSome
  running : controller.running = tunnel.isSome
  profile : ∀ vnt ∈ tunnel, ∃ p, activeProfileId = some p.id ∧ profiles.find p.id = some p ∧
    p.vnt = vnt

namespace Reported

variable {controller : VntController} {activeProfileId : Option String}
  {profiles profiles' : ProfileStore} {tunnel : Option VntConfig}

/-- Without a tunnel there is nothing to report. -/
theorem stopped {phase : RuntimePhase} (h : VntController.isActive ⟨false, phase⟩ = false) :
    Reported ⟨false, phase⟩ activeProfileId profiles none :=
  ⟨h, rfl, fun _ hv => by cases hv⟩

theorem started {p : NetworkProfile} (hp : profiles.find p.id = some p) :
    Reported ⟨true, .running⟩ (some p.id) profiles (some p.vnt) := by
  refine ⟨rfl, rfl, fun vnt hv => ⟨p, rfl, hp, ?_⟩⟩
  cases hv
  rfl

section

variable (h : Reported controller activeProfileId profiles tunnel)

include h

theorem eq_none (ha : controller.isActive = false) : tunnel = none := by
  cases tunnel with
  | none => rfl
  | some vnt =>
    rw [h.active] at ha
    cases ha

/-- Profiles are changed and selected freely when no tunnel is active. -/
theorem of_inactive (ha : controller.isActive = false) {activeProfileId' : Option String} :
    Reported controller activeProfileId' profiles' tunnel := by
  refine ⟨h.active, h.running, fun vnt hv => ?_⟩
  rw [h.eq_none ha] at hv
  cases hv

/-- The reported profile is still there. -/
theorem setProfiles
    (hfind : ∀ p : NetworkProfile, activeProfileId = some p.id → profiles.find p.id = some p →
      profiles'.find p.id = some p) : Reported controller activeProfileId profiles' tunnel := by
  refine ⟨h.active, h.running, fun vnt hv => ?_⟩
  obtain ⟨p, ha, hp, he⟩ := h.profile vnt hv
  exact ⟨p, ha, hfind p ha hp, he⟩

end

end Reported

namespace Server

/-- The profile reported as active is the one that runs. -/
def Inv (s : Server) : Prop :=
  Reported s.api.controller s.api.activeProfileId s.api.profiles s.tunnel

/-- A start while the tunnel runs finds the default profile active. -/
def Careful (s : Server) (call : Call) : Prop :=
  match call.request with
  | .start _ => s.api.controller.running = true →
      s.api.activeProfileId = some s.api.profiles.defaultProfileId
  | _ => True

instance (s : Server) : ∀ call, Decidable (s.Careful call)
  | ⟨.start _, _⟩ => inferInstanceAs (Decidable (_ → _))
  | ⟨.updateConfig _ _, _⟩ | ⟨.stop, _⟩ | ⟨.createProfile _ _, _⟩ | ⟨.updateProfile _ _ _, _⟩
  | ⟨.deleteProfile _ _, _⟩ | ⟨.copyProfile _ _, _⟩ | ⟨.setDefaultProfile _ _, _⟩
  | ⟨.connectProfile _ _, _⟩ | ⟨.importProfiles _ _, _⟩ | ⟨.updateSettings _, _⟩
  | ⟨.updateAccessToken _, _⟩ | ⟨.restoreBackup _ _, _⟩ | ⟨.clearData _, _⟩ =>
      inferInstanceAs (Decidable True)

/-- A server that was just started, and one that has started the tunnel of its default profile. -/
def init (s : Server) : Prop :=
  ∃ core file config settings api, ApiState.new core file config settings = .ok api ∧
    (s.api = api ∧ s.tunnel = none ∨
      s.api = { api with
        controller := ⟨true, .running⟩, activeProfileId := some api.profiles.defaultProfileId } ∧
      s.tunnel = some api.config.vnt)

/-- The runs of the server with its files and tunnel. -/
def sys : Sys Server Call := .ofFun init fun s call => (s.run call).1

/-! ## Each request keeps the invariant -/

variable {s : Server} {core : ToCoreConfig}

variable {R : Unit → Server → Prop} {message id : String}

theorem inv_activateProfileConfig {profile : NetworkProfile} (h : s.Inv)
    (hR : ∀ s' : Server, s'.Inv → s'.api.controller = s.api.controller →
      s'.api.activeProfileId = s.api.activeProfileId → s'.api.profiles = s.api.profiles →
      s'.tunnel = s.tunnel → R () s') : (activateProfileConfig profile).Wp R Inv s :=
  wp_activateProfileConfig (fun _ _ => h) fun _ _ => hR _ h rfl rfl rfl rfl

/-- The profiles are replaced by ones among which the reported one still is. -/
theorem inv_saveProfiles {profiles : ProfileStore} (h : s.Inv)
    (hkept : Reported s.api.controller s.api.activeProfileId profiles s.tunnel)
    (hR : ∀ s' : Server, s'.Inv → s'.api = { s.api with profiles } → R () s') :
    (saveProfiles core profiles).Wp R Inv s :=
  wp_saveProfiles (fun _ _ => h) fun _ _ => hR _ hkept rfl

theorem inactive_of_refused (h : s.Inv) (hR : s.api.controller.isActive = false → R () s) :
    (lift (refuseActive True message)).Wp R Inv s := by
  refine wp_refuseActive (fun _ _ => h) fun hact => hR ?_
  rwa [and_true, Bool.not_eq_true] at hact

theorem inv_updateConfig {vnt : VntConfig} (h : s.Inv) :
    (updateConfig core vnt).Keeps Inv s := by
  refine .bind (inactive_of_refused h fun hact => .bind (wp_get ?_))
  refine .bind (wp_checked (fun _ _ => h) fun _ _ => ?_)
  refine .bind (wp_checked (fun _ _ => h) fun _ _ => ?_)
  refine .bind (wp_saveConfig (fun _ _ => h) fun _ _ => ?_)
  refine .bind (wp_checked (fun _ _ => h) fun _ _ => ?_)
  refine .bind (wp_checked (fun _ _ => h) fun _ _ => ?_)
  refine .bind (inv_saveProfiles ?_ ?_ fun s' h' _ => ?_)
  · exact h
  · exact h.of_inactive hact
  · exact .bind (wp_set (.pure h'))

variable {outcome : Except String Unit} {input : ProfileInput}

/-- The tunnel that runs is the one of the default profile, or the one that is started is. -/
theorem inv_start (h : s.Inv) (faults : List Bool)
    (hc : s.Careful ⟨.start outcome, faults⟩) : (start outcome).Keeps Inv s := by
  refine .bind (wp_get (.bind (wp_checked (fun _ _ => h) fun profile hp => ?_)))
  have hp : s.api.profiles.find s.api.profiles.defaultProfileId = some profile := orStop_ok.mp hp
  have hid := ApiState.id_of_find hp
  refine .bind (inv_activateProfileConfig h fun s' h' hctl hact hprof htun => .bind ?_)
  refine wp_startTunnel (fun _ hr => ?_) (fun hr => ?_) fun _ _ => ?_
  · have hnone : s'.tunnel = none := by
      have hrunning := h'.running
      rw [hr] at hrunning
      cases ht : s'.tunnel with
      | none => rfl
      | some vnt =>
        rw [ht] at hrunning
        cases hrunning
    show Reported _ _ _ s'.tunnel
    rw [hnone]
    exact .stopped rfl
  · refine .bind (wp_set (.pure ?_))
    rw [hctl] at hr
    have hlabel : s'.api.activeProfileId = some profile.id := by rw [hact, hc hr, hid]
    show Reported _ (some profile.id) _ _
    rw [← hlabel]
    exact h'
  · refine .bind (wp_set (.pure (Reported.started ?_)))
    rw [hprof, hid]
    exact hp

theorem inv_stop : stop.Keeps Inv s :=
  .bind (wp_stopTunnel (.pure (.stopped rfl)))

section

variable (h : s.Inv)

include h

theorem inv_connectProfile : (connectProfile id outcome).Keeps Inv s := by
  refine .bind (wp_get (.bind (wp_check (fun _ _ => h) fun profile hp => ?_)))
  have hp : s.api.profiles.find id = some profile := orStop_ok.mp hp
  refine .bind (wp_stopTunnel (.bind ?_))
  refine inv_activateProfileConfig ?_ fun s' h' hctl _ hprof htun => .bind ?_
  · exact Reported.stopped rfl
  refine wp_startTunnel (fun _ _ => ?_) (fun hr => ?_) fun _ _ => ?_
  · show Reported _ _ _ s'.tunnel
    rw [htun]
    exact .stopped rfl
  · rw [hctl] at hr
    cases hr
  · refine .bind (wp_set (.pure (Reported.started ?_)))
    rw [hprof, ApiState.id_of_find hp]
    exact hp

theorem inv_createProfile : (createProfile core input).Keeps Inv s := by
  refine .bind (wp_get (.bind (wp_checked (fun _ _ => h) fun created hcr => .bind ?_)))
  refine inv_saveProfiles h (h.setProfiles fun p _ hp => ?_) fun _ h' _ => .pure h'
  exact (ProfileStore.find_create hcr).2 p.id p hp

theorem inv_copyProfile : (copyProfile core id).Keeps Inv s := by
  refine .bind (wp_get (.bind (wp_checked (fun _ _ => h) fun copied hcp => .bind ?_)))
  simp only [ProfileStore.copy, bind_eq_ok] at hcp
  obtain ⟨source, -, hcr⟩ := hcp
  refine inv_saveProfiles h (h.setProfiles fun p _ hp => ?_) fun _ h' _ => .pure h'
  exact (ProfileStore.find_create hcr).2 p.id p hp

/-- A request on a profile is refused or it is not about the profile that runs. -/
theorem other_of_not_refused
    (hR : (s.api.controller.isActive = false ∨ s.api.activeProfileId ≠ some id) → R () s) :
    (lift (refuseActive (s.api.activeProfileId = some id) message)).Wp R Inv s := by
  refine wp_refuseActive (fun _ _ => h) fun hact => hR ?_
  rwa [not_and_or, Bool.not_eq_true] at hact

theorem inv_updateProfile : (updateProfile core id input).Keeps Inv s := by
  refine .bind (wp_get (.bind (other_of_not_refused h fun hother => ?_)))
  refine .bind (wp_checked (fun _ _ => h) fun updated hupd => .bind ?_)
  refine inv_saveProfiles h ?_ fun s' h' _ => .bind (.when (fun _ => ?_) fun _ => .pure h')
  · rcases hother with hact | hne
    · exact h.of_inactive hact
    · refine h.setProfiles fun p ha hp => ?_
      obtain ⟨-, profile, -, -, hfind⟩ := ProfileStore.find_update hupd
      rw [hfind, if_neg fun he => hne (ha.trans (congrArg some he))]
      exact hp
  · exact inv_activateProfileConfig h' fun _ h'' _ _ _ _ => .pure h''

theorem inv_deleteProfile : (deleteProfile core id).Keeps Inv s := by
  refine .bind (wp_get (.bind (other_of_not_refused h fun hother => ?_)))
  refine .bind (wp_checked (fun _ _ => h) fun profiles hrm => .bind ?_)
  refine inv_saveProfiles h ?_ fun s' h' hapi => .bind (.when (fun ha => ?_) fun _ => .pure h')
  · rcases hother with hact | hne
    · exact h.of_inactive hact
    · refine h.setProfiles fun p ha hp => ?_
      rw [(ProfileStore.find_remove hrm).2.2 p.id fun he =>
        hne (ha.trans (congrArg some he))]
      exact hp
  · -- Only without a tunnel, for otherwise the request was refused.
    rcases hother with hact | hne
    · refine wp_set (.pure (h'.of_inactive ?_))
      rw [hapi]
      exact hact
    · exact absurd ha hne

theorem inv_setDefaultProfile : (setDefaultProfile core id).Keeps Inv s := by
  refine .bind (wp_get (.bind (wp_checked (fun _ _ => h) fun profiles hset => ?_)))
  refine .bind (wp_checked (fun _ _ => h) fun profile _ => .bind ?_)
  refine inv_saveProfiles h (h.setProfiles fun p _ hp => ?_) fun s' h' _ =>
    .bind (.when (fun _ => ?_) fun _ => .pure h')
  · rw [(ProfileStore.find_setDefault hset).2.2]
    exact hp
  · exact inv_activateProfileConfig h' fun _ h'' _ _ _ _ => .pure h''

theorem inv_importProfiles {request : ImportProfiles} :
    (importProfiles core request).Keeps Inv s := by
  refine .bind (inactive_of_refused h fun hact => .bind (wp_get ?_))
  refine .bind (wp_checked (fun _ _ => h) fun _ _ => ?_)
  refine .bind (wp_checked (fun _ _ => h) fun _ _ => ?_)
  refine .bind (inv_saveProfiles h (h.of_inactive hact) fun s' h' hapi => .bind ?_)
  refine inv_activateProfileConfig h' fun s'' h'' hctl _ _ _ => .bind (wp_set (.pure ?_))
  refine h''.of_inactive ?_
  rw [hctl, hapi]
  exact hact

theorem inv_updateSettings {payload : SettingsPayload} :
    (updateSettings payload).Keeps Inv s := by
  refine .bind (wp_checked (fun _ _ => h) fun _ _ => .bind (wp_get ?_))
  refine .bind (wp_saveConfig (fun _ _ => h) fun _ _ => ?_)
  exact .bind (wp_saveSettings (fun _ _ => h) fun _ _ => .bind (wp_set (.pure h)))

theorem inv_updateAccessToken {accessToken : String} :
    (updateAccessToken accessToken).Keeps Inv s := by
  refine .bind (wp_get (.bind (wp_checked (fun _ _ => h) fun _ _ => ?_)))
  exact .bind (wp_saveConfig (fun _ _ => h) fun _ _ => .bind (wp_set (.pure h)))

theorem inv_restoreBackup {backup : FullBackup} :
    (restoreBackup core backup).Keeps Inv s := by
  refine .bind (inactive_of_refused h fun hact => ?_)
  refine .bind (wp_checked (fun _ _ => h) fun _ _ => ?_)
  refine .bind (wp_checked (fun _ _ => h) fun _ _ => ?_)
  refine .bind (wp_get (.bind (wp_checked (fun _ _ => h) fun _ _ => ?_)))
  refine .bind (wp_checked (fun _ _ => h) fun _ _ => ?_)
  refine .bind (wp_saveStore (fun _ _ => h) fun _ _ => ?_)
  refine .bind (wp_saveSettings (fun _ _ => h) fun _ _ => ?_)
  refine .bind (wp_saveConfig (fun _ _ => h) fun _ _ => .bind (wp_set (.pure ?_)))
  exact h.of_inactive hact

theorem inv_clearData : (clearData core).Keeps Inv s := by
  refine .bind (inactive_of_refused h fun hact => .bind (wp_get ?_))
  refine .bind (wp_saveStore (fun _ _ => h) fun _ _ => ?_)
  refine .bind (wp_saveSettings (fun _ _ => h) fun _ _ => ?_)
  refine .bind (wp_saveConfig (fun _ _ => h) fun _ _ => .bind (wp_set (.pure ?_)))
  exact h.of_inactive hact

end

theorem inv_discard {α : Type} {x : ServerApi α} (h : x.Keeps Inv s) :
    (discard x).Keeps Inv s :=
  .bind (h.mono (fun _ _ hs => .pure hs) fun _ hs => hs)

theorem Inv.run (h : s.Inv) {call : Call} (hc : s.Careful call) : (s.run call).1.Inv := by
  obtain ⟨request, faults⟩ := call
  have h : Inv { s with faults } := h
  refine Handler.Wp.state (I := Inv) ?_
  cases request with
  | updateConfig => exact inv_discard (inv_updateConfig h)
  | start => exact inv_discard (inv_start h faults hc)
  | stop => exact inv_discard inv_stop
  | createProfile => exact inv_discard (inv_createProfile h)
  | updateProfile => exact inv_discard (inv_updateProfile h)
  | deleteProfile => exact inv_discard (inv_deleteProfile h)
  | copyProfile => exact inv_discard (inv_copyProfile h)
  | setDefaultProfile => exact inv_discard (inv_setDefaultProfile h)
  | connectProfile => exact inv_discard (inv_connectProfile h)
  | importProfiles => exact inv_discard (inv_importProfiles h)
  | updateSettings => exact inv_discard (inv_updateSettings h)
  | updateAccessToken => exact inv_discard (inv_updateAccessToken h)
  | restoreBackup => exact inv_discard (inv_restoreBackup h)
  | clearData => exact inv_discard (inv_clearData h)

theorem new_stopped {file : Option ProfileStore} {config : AppConfig} {settings : AppSettings}
    {api : ApiState} (h : ApiState.new core file config settings = .ok api) :
    api.controller = ⟨false, .stopped⟩ ∧ api.activeProfileId = none := by
  cases file with
  | none =>
    simp only [ApiState.new, bind_eq_ok] at h
    obtain ⟨profiles, -, profile, -, h⟩ := h
    cases h
    exact ⟨rfl, rfl⟩
  | some store =>
    simp only [ApiState.new, bind_eq_ok] at h
    obtain ⟨-, -, profiles, -, profile, -, h⟩ := h
    cases h
    exact ⟨rfl, rfl⟩

/-- The tunnel of a server that starts it itself is the one of the default profile. -/
theorem inv_init (h : s.init) : s.Inv := by
  obtain ⟨core, file, config, settings, api, hnew, ⟨rfl, htun⟩ | ⟨hs, htun⟩⟩ := h
  all_goals
    obtain ⟨hcontroller, hactive⟩ := new_stopped hnew
  · show Reported s.api.controller _ _ s.tunnel
    rw [htun, hcontroller]
    exact .stopped rfl
  · show Reported s.api.controller s.api.activeProfileId s.api.profiles s.tunnel
    obtain ⟨p, hp, hv⟩ := (ApiState.inv_new hnew).selected
    rw [ApiState.selectedId_of_none hactive] at hp
    rw [htun, hs, ← hv, ← ApiState.id_of_find hp]
    refine .started ?_
    rw [ApiState.id_of_find hp]
    exact hp

theorem inv_of_reach (h : sys.ReachWith Careful s) : s.Inv := by
  exact h.invariant_of (I := Inv) (fun s hs => inv_init hs) fun _ _ hs hc => hs.run hc

theorem refuseActive_error {c : Prop} [Decidable c]
    (hactive : s.api.controller.isActive = true) (hc : c) :
    lift (refuseActive c message) s = (s, .error (.conflict message)) := by
  have hcheck : ensure (¬ (s.api.controller.isActive = true ∧ c)) (ApiError.conflict message) =
      .error (.conflict message) := if_neg fun h => h ⟨hactive, hc⟩
  show (s, ensure (¬ (s.api.controller.isActive = true ∧ c)) (ApiError.conflict message)) = _
  rw [hcheck]

/-- What runs can neither be edited nor deleted. -/
theorem refused (hactive : s.api.controller.isActive = true)
    (hid : s.api.activeProfileId = some id) (input : ProfileInput) (faults : List Bool) :
    (s.run ⟨.updateProfile core id input, faults⟩).2 = .error (.conflict "连接中的配置不能修改，请先断开") ∧
      (s.run ⟨.deleteProfile core id, faults⟩).2 = .error (.conflict "连接中的配置不能删除，请先断开") := by
  have hget : lift Handler.get { s with faults } = ({ s with faults }, .ok s.api) := rfl
  have hrefuse (message : String) :
      lift (refuseActive (s.api.activeProfileId = some id) message) { s with faults } =
        ({ s with faults }, .error (.conflict message)) :=
    refuseActive_error (s := { s with faults }) hactive hid
  constructor
  · have h : updateProfile core id input { s with faults } = (_, .error _) :=
      (Handler.bind_of_ok hget).trans (Handler.bind_of_error (hrefuse _))
    exact congrArg Prod.snd (Handler.bind_of_error h)
  · have h : deleteProfile core id { s with faults } = (_, .error _) :=
      (Handler.bind_of_ok hget).trans (Handler.bind_of_error (hrefuse _))
    exact congrArg Prod.snd (Handler.bind_of_error h)

/-- While the tunnel runs, the profile that is reported as active is in the list and has the
settings that the tunnel was started with, and it can neither be edited nor deleted. -/
theorem running_reported (h : sys.ReachWith Careful s)
    (hactive : s.api.controller.isActive = true) :
    ∃ p, s.api.activeProfileId = some p.id ∧ s.api.profiles.find p.id = some p ∧
      p ∈ s.api.profiles.profiles ∧ s.tunnel = some p.vnt ∧
      ∀ core input faults,
        (s.run ⟨.updateProfile core p.id input, faults⟩).2 =
          .error (.conflict "连接中的配置不能修改，请先断开") ∧
        (s.run ⟨.deleteProfile core p.id, faults⟩).2 =
          .error (.conflict "连接中的配置不能删除，请先断开") := by
  have hinv := inv_of_reach h
  obtain ⟨vnt, hvnt⟩ : ∃ vnt, s.tunnel = some vnt :=
    Option.isSome_iff_exists.mp (hinv.active ▸ hactive)
  obtain ⟨p, hid, hp, he⟩ := hinv.profile vnt hvnt
  refine ⟨p, hid, hp, List.mem_of_find?_eq_some hp, ?_, fun core input faults => ?_⟩
  · rw [hvnt, he]
  · exact refused hactive hid input faults

/-! ## Runs of a new server -/

/-- A file, and the one that is written first. -/
def savePath (name : String) : SavePath := ⟨name, name ++ ".tmp"⟩

/-- A server without a tunnel. -/
def fresh : Server where
  api := ApiState.fresh
  files := ⟨ApiState.homeConfig, ProfileStore.fromLegacy ApiState.homeVnt, none⟩
  paths := ⟨savePath "config.json", savePath "profiles.json", savePath "settings.json"⟩
  tunnel := none
  faults := []

theorem init_fresh : sys.init fresh :=
  ⟨ApiState.acceptAll, none, ApiState.homeConfig, .default, ApiState.fresh, rfl, .inl ⟨rfl, rfl⟩⟩

/-- The tunnel of the first profile runs, and a second one is made the default. -/
def otherDefault : List Call :=
  [⟨.start (.ok ()), []⟩,
    ⟨.createProfile ApiState.acceptAll
      ⟨"office", { ApiState.homeVnt with networkCode := "office" }⟩, []⟩,
    ⟨.setDefaultProfile ApiState.acceptAll "profile-2", []⟩]

/-- The server after calls. -/
def runs (calls : List Call) : Server := calls.foldl (fun s call => (s.run call).1) fresh

/-- The second profile is connected, and a start finds it running. -/
def officeConnected : List Call :=
  otherDefault ++ [⟨.connectProfile "profile-2" (.ok ()), []⟩, ⟨.start (.ok ()), []⟩]

theorem running_reported_office :
    ∃ p : NetworkProfile, (runs officeConnected).api.activeProfileId = some p.id ∧
      (runs officeConnected).tunnel = some p.vnt := by
  have hreach : sys.ReachWith Careful (runs officeConnected) :=
    Sys.ReachWith.foldl (Sys.ReachWith.init (S := sys) (C := Careful) init_fresh)
      (by decide +kernel)
  obtain ⟨p, hid, -, -, hp, -⟩ := running_reported hreach (by decide +kernel)
  exact ⟨p, hid, hp⟩

/-- The tunnel of the first profile runs when `start` is called again. -/
def startedAgain : Server := runs (otherDefault ++ [⟨.start (.ok ()), []⟩])

/-- The second profile is reported and the first one can be edited. -/
theorem relabelled :
    sys.Reach startedAgain ∧ startedAgain.api.controller.isActive = true ∧
      startedAgain.api.activeProfileId = some "profile-2" ∧
      (startedAgain.api.profiles.find "profile-2").map (·.vnt) =
        some { ApiState.homeVnt with networkCode := "office" } ∧
      startedAgain.tunnel = some ApiState.homeVnt ∧
      (startedAgain.run ⟨.updateProfile ApiState.acceptAll "profile-1"
        ⟨"home", { ApiState.homeVnt with mtu := 1300 }⟩, []⟩).2.isOk = true :=
  ⟨Sys.Reach.foldl (Sys.Reach.init (S := sys) init_fresh) _, by decide +kernel, by decide +kernel,
    by decide +kernel, by decide +kernel, by decide +kernel⟩

end Server

end WebUi

end Vntc
