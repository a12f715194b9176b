import Vntc.Lib.Sys
import Vntc.WebUi.Profiles

/-!
# The API of the WebUI

The handlers of `api.rs` in `linux_webui`. The state has a current configuration, the profiles, the
id of the profile that was started last, and the controller of the tunnel. The handlers that change
something hold one lock, so the requests are one after the other; requests that only read, and
requests with a wrong token, change nothing. The log of the WebUI is left out.

A start of the tunnel can fail (`outcome`). The selected profile is the one that was started last,
or else the default.
-/

namespace Vntc

open Lib

namespace WebUi

/-- The phase of the tunnel. -/
inductive RuntimePhase
  | stopped
  | starting
  | running
  | error
  deriving DecidableEq

/-- What the controller of the tunnel knows. -/
structure VntController where
  /-- There is a tunnel. -/
  running : Bool
  phase : RuntimePhase

/-- The tunnel runs or is started. -/
def VntController.isActive (c : VntController) : Bool :=
  c.phase == .starting || c.phase == .running

/-- What the handlers share. -/
structure ApiState where
  config : AppConfig
  profiles : ProfileStore
  activeProfileId : Option String
  settings : AppSettings
  controller : VntController

/-- The status of an answer. -/
inductive StatusCode
  | badRequest
  | conflict
  | notFound
  | internal

/-- An answer with an error. -/
structure ApiError where
  status : StatusCode
  message : String

/-- The tunnel is in the way. -/
def ApiError.conflict (message : String) : ApiError := ⟨.conflict, message⟩

/-- There is no such profile. -/
def ApiError.notFound (message : String) : ApiError := ⟨.notFound, message⟩

/-- A handler of a request. -/
abbrev Api := Handler ApiState ApiError

/-- `map_err`. -/
def withStatus {α : Type} (status : StatusCode) : Except String α → Except ApiError α
  | .ok a => .ok a
  | .error message => .error ⟨status, message⟩

/-- The request is at fault. -/
def badRequest {α : Type} (x : Except String α) : Api α :=
  Handler.check (withStatus .badRequest x)

/-- The server is at fault. -/
def internal {α : Type} (x : Except String α) : Api α :=
  Handler.check (withStatus .internal x)

namespace ApiState

/-- The state of a new server. The profiles are those of a file, if there is one. -/
def new (core : ToCoreConfig) (file : Option ProfileStore) (config : AppConfig)
    (settings : AppSettings) : Except String ApiState := do
  let profiles ←
    match file with
    | some store => do
      store.validate core
      .ok store
    | none => .ok (ProfileStore.fromLegacy config.vnt)
  let profile ← orStop profiles.defaultProfile "validated profile store always has a default"
  .ok
    { config := { config with vnt := profile.vnt }
      profiles
      activeProfileId := none
      settings
      controller := ⟨false, .stopped⟩ }

variable (s : ApiState)

/-- The profile that was started last, or else the default. -/
def selectedId : String :=
  match s.activeProfileId with
  | some id => id
  | none => s.profiles.defaultProfileId

/-- `get_config`. -/
def getConfig : VntConfig := s.config.vnt

end ApiState

/-! ## Helpers -/

/-- `AppConfig::save`. -/
def saveConfig (config : AppConfig) : Api Unit := internal config.validate

/-- `AppSettings::save`. -/
def saveSettings (settings : AppSettings) : Api Unit := internal settings.validate

/-- A store is saved only if it is valid. -/
def saveProfiles (core : ToCoreConfig) (profiles : ProfileStore) : Api Unit := do
  internal (profiles.validate core)
  Handler.modify fun s => { s with profiles }

/-- The settings of a profile become the current ones. -/
def activateProfileConfig (profile : NetworkProfile) : Api Unit := do
  let s ← Handler.get
  let config := { s.config with vnt := profile.vnt }
  saveConfig config
  Handler.modify fun s => { s with config }

/-- `default_profile`, which stops the request if there is none. -/
def defaultProfile (store : ProfileStore) : Api NetworkProfile :=
  internal (orStop store.defaultProfile "validated profile store always has a default")

/-- `VntController::start`: a tunnel that runs stays as it is. -/
def startController (outcome : Except String Unit) : Api Unit := do
  let s ← Handler.get
  Handler.when (¬ s.controller.running = true) do
    Handler.modify fun s => { s with
      controller := { s.controller with phase := if outcome.isOk then .running else .error } }
    internal outcome
    Handler.modify fun s => { s with controller := { s.controller with running := true } }

/-- `VntController::stop`. -/
def stopController : Api Unit :=
  Handler.modify fun s => { s with controller := ⟨false, .stopped⟩ }

/-- The profile that was started last. -/
def setActive (id : Option String) : Api Unit :=
  Handler.modify fun s => { s with activeProfileId := id }

/-- The tunnel must not be active. -/
def refuseActive (c : Prop) [Decidable c] (message : String) : Api Unit := do
  let s ← Handler.get
  Handler.check (ensure (¬ (s.controller.isActive = true ∧ c)) (.conflict message))

/-! ## Handlers -/

section
variable (core : ToCoreConfig)

/-- The current settings, and those of the selected profile. -/
def updateConfig (vnt : VntConfig) : Api String := do
  refuseActive True "请先停止 VNT，再修改配置"
  let s ← Handler.get
  let candidate := { s.config with vnt }
  badRequest candidate.validate
  badRequest (core vnt)
  saveConfig candidate
  let selected ← internal (orStop (s.profiles.find s.selectedId) "当前配置档案不存在")
  let profiles ← badRequest (s.profiles.update core s.selectedId ⟨selected.name, vnt⟩)
  saveProfiles core profiles.1
  Handler.modify fun s => { s with config := candidate }
  pure "配置已保存"

/-- The default profile is started. -/
def start (outcome : Except String Unit) : Api String := do
  let s ← Handler.get
  let profile ← defaultProfile s.profiles
  activateProfileConfig profile
  startController outcome
  setActive (some profile.id)
  pure "VNT 已启动"

/-- The tunnel ends. -/
def stop : Api String := do
  stopController
  pure "VNT 已停止"

/-- A new profile. -/
def createProfile (input : ProfileInput) : Api NetworkProfile := do
  let s ← Handler.get
  let created ← badRequest (s.profiles.create core input)
  saveProfiles core created.1
  pure created.2

/-- A profile is changed, not while it is connected. -/
def updateProfile (id : String) (input : ProfileInput) : Api NetworkProfile := do
  let s ← Handler.get
  refuseActive (s.activeProfileId = some id) "连接中的配置不能修改，请先断开"
  let updated ← badRequest (s.profiles.update core id input)
  saveProfiles core updated.1
  Handler.when (s.activeProfileId = some id) (activateProfileConfig updated.2)
  pure updated.2

/-- A profile is removed, not while it is connected. -/
def deleteProfile (id : String) : Api String := do
  let s ← Handler.get
  refuseActive (s.activeProfileId = some id) "连接中的配置不能删除，请先断开"
  let profiles ← badRequest (s.profiles.remove id)
  saveProfiles core profiles
  Handler.when (s.activeProfileId = some id) (setActive none)
  pure "配置已删除"

/-- A profile once more. -/
def copyProfile (id : String) : Api NetworkProfile := do
  let s ← Handler.get
  let copied ← badRequest (s.profiles.copy core id)
  saveProfiles core copied.1
  pure copied.2

/-- Another default, shown unless the tunnel is active. -/
def setDefaultProfile (id : String) : Api String := do
  let s ← Handler.get
  let profiles ← badRequest (s.profiles.setDefault id)
  let profile ← defaultProfile profiles
  saveProfiles core profiles
  Handler.when (¬ s.controller.isActive = true) (activateProfileConfig profile)
  pure "默认配置已更新"

/-- A profile is started in place of what runs. -/
def connectProfile (id : String) (outcome : Except String Unit) : Api String := do
  let s ← Handler.get
  let profile ← Handler.check (orStop (s.profiles.find id) (.notFound "配置不存在"))
  stopController
  activateProfileConfig profile
  startController outcome
  setActive (some profile.id)
  pure "配置已连接"

/-- Profiles of a backup, of which the default is shown. -/
def importProfiles (request : ImportProfiles) : Api String := do
  refuseActive True "请先断开网络，再导入配置"
  let s ← Handler.get
  let profiles ← badRequest (s.profiles.importProfiles core request)
  let profile ← defaultProfile profiles
  saveProfiles core profiles
  activateProfileConfig profile
  setActive none
  pure "配置已导入"

/-- A request to change the settings of the WebUI. -/
structure SettingsPayload where
  settings : AppSettings
  autoConnect : Bool

/-- The settings of the WebUI. -/
def updateSettings (payload : SettingsPayload) : Api String := do
  badRequest payload.settings.validate
  let s ← Handler.get
  let config := { s.config with autoStart := payload.autoConnect }
  saveConfig config
  saveSettings payload.settings
  Handler.modify fun s => { s with config, settings := payload.settings }
  pure "设置已保存"

/-- The password of the WebUI. -/
def updateAccessToken (accessToken : String) : Api String := do
  let s ← Handler.get
  let config := { s.config with
    web := { s.config.web with accessToken := some (trim accessToken) } }
  badRequest config.validate
  saveConfig config
  Handler.modify fun s => { s with config }
  pure "访问密码已更新"

/-- A backup of profiles and settings. -/
structure FullBackup where
  schemaVersion : Nat
  autoConnect : Bool
  settings : AppSettings
  profiles : ProfileBackup

/-- Profiles and settings of a backup. -/
def restoreBackup (backup : FullBackup) : Api String := do
  refuseActive True "请先断开网络，再恢复备份"
  badRequest (ensure (backup.schemaVersion = 1) "不支持的完整备份版本")
  badRequest backup.settings.validate
  let s ← Handler.get
  let profiles ← badRequest (s.profiles.importProfiles core ⟨.replace, backup.profiles⟩)
  let profile ← defaultProfile profiles
  internal (profiles.validate core)
  saveSettings backup.settings
  let config := { s.config with autoStart := backup.autoConnect, vnt := profile.vnt }
  saveConfig config
  Handler.modify fun s => { s with
    profiles, settings := backup.settings, config, activeProfileId := none }
  pure "备份已恢复"

/-- One profile with the current settings is left. -/
def clearData : Api String := do
  refuseActive True "请先断开网络，再清理数据"
  let s ← Handler.get
  let profiles := ProfileStore.fromLegacy s.config.vnt
  internal (profiles.validate core)
  saveSettings .default
  let config := { s.config with autoStart := false }
  saveConfig config
  Handler.modify fun s => { s with
    profiles, settings := .default, config, activeProfileId := none }
  pure "数据已重置"

end

/-! ## Runs -/

/-- A request, with what it gets from outside. -/
inductive ApiRequest
  | updateConfig (core : ToCoreConfig) (vnt : VntConfig)
  | start (outcome : Except String Unit)
  | stop
  | createProfile (core : ToCoreConfig) (input : ProfileInput)
  | updateProfile (core : ToCoreConfig) (id : String) (input : ProfileInput)
  | deleteProfile (core : ToCoreConfig) (id : String)
  | copyProfile (core : ToCoreConfig) (id : String)
  | setDefaultProfile (core : ToCoreConfig) (id : String)
  | connectProfile (id : String) (outcome : Except String Unit)
  | importProfiles (core : ToCoreConfig) (request : ImportProfiles)
  | updateSettings (payload : SettingsPayload)
  | updateAccessToken (accessToken : String)
  | restoreBackup (core : ToCoreConfig) (backup : FullBackup)
  | clearData (core : ToCoreConfig)

namespace ApiState

variable (s : ApiState)

/-- The state after a request. -/
def handle : ApiRequest → ApiState
  | .updateConfig core vnt => (WebUi.updateConfig core vnt s).1
  | .start outcome => (WebUi.start outcome s).1
  | .stop => (WebUi.stop s).1
  | .createProfile core input => (WebUi.createProfile core input s).1
  | .updateProfile core id input => (WebUi.updateProfile core id input s).1
  | .deleteProfile core id => (WebUi.deleteProfile core id s).1
  | .copyProfile core id => (WebUi.copyProfile core id s).1
  | .setDefaultProfile core id => (WebUi.setDefaultProfile core id s).1
  | .connectProfile id outcome => (WebUi.connectProfile id outcome s).1
  | .importProfiles core request => (WebUi.importProfiles core request s).1
  | .updateSettings payload => (WebUi.updateSettings payload s).1
  | .updateAccessToken accessToken => (WebUi.updateAccessToken accessToken s).1
  | .restoreBackup core backup => (WebUi.restoreBackup core backup s).1
  | .clearData core => (WebUi.clearData core s).1

/-- The runs of the API from a start. -/
def sys : Sys ApiState ApiRequest :=
  .ofFun (fun s => ∃ core file config settings, new core file config settings = .ok s) handle

/-- The current configuration has the settings of the profile, if there is one. -/
def Shows (profile : Option NetworkProfile) : Prop := ∀ p ∈ profile, p.vnt = s.config.vnt

instance (profile : Option NetworkProfile) : Decidable (s.Shows profile) :=
  inferInstanceAs (Decidable (∀ p ∈ profile, _))

/-- What keeps the current configuration and the selected profile together: a tunnel that is
started starts, or its profile has the settings shown; neither the settings nor the choice of the
selected profile change behind the current configuration. -/
def Careful : ApiRequest → Prop
  | .start outcome => outcome.isOk = true ∨ s.controller.running = true ∨
      s.activeProfileId = none ∨ s.Shows s.profiles.defaultProfile
  | .connectProfile id outcome => outcome.isOk = true ∨ s.Shows (s.profiles.find id)
  | .updateProfile _ id input =>
      (s.activeProfileId = none → id = s.profiles.defaultProfileId → input.vnt = s.config.vnt) ∧
        s.config.web.validate.isOk = true
  | .deleteProfile _ id => s.activeProfileId = some id → s.Shows s.profiles.defaultProfile
  | .setDefaultProfile _ id =>
      (s.controller.isActive = true ∨ s.activeProfileId = none ∨ s.Shows (s.profiles.find id)) ∧
        s.config.web.validate.isOk = true
  | .importProfiles _ _ => s.config.web.validate.isOk = true
  | _ => True

instance : ∀ r, Decidable (s.Careful r)
  | .start _ => inferInstanceAs (Decidable (_ ∨ _ ∨ _ ∨ _))
  | .connectProfile _ _ => inferInstanceAs (Decidable (_ ∨ _))
  | .updateProfile _ _ _ => inferInstanceAs (Decidable ((_ → _ → _) ∧ _))
  | .deleteProfile _ _ => inferInstanceAs (Decidable (_ → _))
  | .setDefaultProfile _ _ => inferInstanceAs (Decidable ((_ ∨ _ ∨ _) ∧ _))
  | .importProfiles _ _ => inferInstanceAs (Decidable (_ = true))
  | .updateConfig _ _ | .stop | .createProfile _ _ | .copyProfile _ _ | .updateSettings _
  | .updateAccessToken _ | .restoreBackup _ _ | .clearData _ => inferInstanceAs (Decidable True)

/-- The invariant. -/
structure Inv : Prop where
  selected : ∃ p, s.profiles.find s.selectedId = some p ∧ p.vnt = s.config.vnt
  default : ∃ p, s.profiles.defaultProfile = some p
  active : s.controller.isActive = true → s.activeProfileId ≠ none

variable {s}

/-! ## The rules of the helpers -/

section
variable {α : Type} {Q : α → ApiState → Prop} {R : Unit → ApiState → Prop} {E : ApiState → Prop}

variable {x : Except String α}

theorem withStatus_ok {status : StatusCode} {a : α} : withStatus status x = .ok a ↔ x = .ok a := by
  cases x <;> simp [withStatus]

theorem wp_badRequest (hE : E s) (h : ∀ a, x = .ok a → Q a s) : (badRequest x).Wp Q E s :=
  .check hE fun a ha => h a (withStatus_ok.mp ha)

theorem wp_internal (hE : E s) (h : ∀ a, x = .ok a → Q a s) : (internal x).Wp Q E s :=
  .check hE fun a ha => h a (withStatus_ok.mp ha)

theorem wp_refuseActive {c : Prop} [Decidable c] {message : String} (hE : E s)
    (h : ¬ (s.controller.isActive = true ∧ c) → R () s) : (refuseActive c message).Wp R E s :=
  .bind (.get (.check hE fun _ ha => h (ensure_ok.mp ha)))

theorem wp_saveProfiles {core : ToCoreConfig} {profiles : ProfileStore} (hE : E s)
    (h : profiles.validate core = .ok () → R () { s with profiles }) :
    (saveProfiles core profiles).Wp R E s :=
  .bind (wp_internal hE fun _ ha => .modify (h ha))

variable {profile : NetworkProfile}

/-- It stops only with a configuration that cannot be saved. -/
theorem wp_activateProfileConfig
    (hE : s.config.web.validate.isOk = true → profile.vnt.validate ≠ .ok () → E s)
    (hweb : s.config.web.validate.isOk = false → E s)
    (h : R () { s with config := { s.config with vnt := profile.vnt } }) :
    (activateProfileConfig profile).Wp R E s := by
  refine .bind (.get (.bind ⟨fun _ _ => .modify h, fun e he => ?_⟩))
  cases hw : s.config.web.validate with
  | error _ => exact hweb (by rw [hw]; rfl)
  | ok _ =>
    refine hE (by rw [hw]; rfl) fun hv => ?_
    have hok : AppConfig.validate { s.config with vnt := profile.vnt } = .ok () := by
      simp only [AppConfig.validate, hw, hv, bind, Except.bind]
    rw [show (saveConfig _ s).2 = withStatus .internal _ from rfl, hok] at he
    cases he

theorem wp_activateProfileConfig_valid (hweb : s.config.web.validate.isOk = true)
    (hv : profile.vnt.validate = .ok ())
    (h : R () { s with config := { s.config with vnt := profile.vnt } }) :
    (activateProfileConfig profile).Wp R E s :=
  wp_activateProfileConfig (fun _ hne => absurd hv hne)
    (fun hw => by rw [hweb] at hw; cases hw) h

/-- A tunnel that runs stays, and a new one starts or does not. -/
theorem wp_startController {outcome : Except String Unit}
    (hE : outcome.isOk = false → s.controller.running = false →
      E { s with controller := { s.controller with phase := .error } })
    (hrun : s.controller.running = true → R () s)
    (h : outcome.isOk = true → R () { s with controller := ⟨true, .running⟩ }) :
    (startController outcome).Wp R E s := by
  refine .bind (.get (.when (fun hr => .bind (.modify (.bind ?_))) fun hr => hrun (not_not.mp hr)))
  cases outcome with
  | ok _ => exact ⟨fun _ _ => .modify (h rfl), fun e he => by cases he⟩
  | error message =>
    exact ⟨fun _ ha => (by cases ha), fun _ _ => hE rfl (Bool.not_eq_true _ ▸ hr)⟩

end

/-! ## Each request keeps the invariant -/

section
variable {core : ToCoreConfig}

variable {id : String} {vnt : VntConfig} {input : ProfileInput}

variable {controller : VntController} {profile : NetworkProfile} {profiles : ProfileStore}
  {outcome : Except String Unit}

/-- The profile of a started tunnel is the selected one. -/
theorem Inv.activated (h : s.Inv)
    (hp : s.profiles.find id = some profile) :
    Inv { s with
      config := { s.config with vnt := profile.vnt }
      controller
      activeProfileId := some id } where
  selected := ⟨profile, hp, rfl⟩
  default := h.default
  active _ := Option.some_ne_none id

/-- The tunnel of the selected settings stopped or failed. -/
theorem Inv.inactive (h : s.Inv) (hv : vnt = s.config.vnt) (hc : controller.isActive = false) :
    Inv { s with config := { s.config with vnt }, controller } where
  selected := by
    obtain ⟨p, hp, he⟩ := h.selected
    exact ⟨p, hp, he.trans hv.symm⟩
  default := h.default
  active ha := by
    rw [hc] at ha
    cases ha

theorem selectedId_of_none (h : s.activeProfileId = none) :
    s.selectedId = s.profiles.defaultProfileId := by
  rw [selectedId, h]

theorem selectedId_of_some (h : s.activeProfileId = some id) : s.selectedId = id := by
  rw [selectedId, h]

/-- The profiles are replaced, the selected one still has the settings shown. -/
theorem Inv.setProfiles (h : s.Inv) (hd : profiles.defaultProfileId = s.profiles.defaultProfileId)
    (hsel : ∃ p, profiles.find s.selectedId = some p ∧ p.vnt = s.config.vnt)
    (hdef : ∃ p, profiles.defaultProfile = some p) : Inv { s with profiles } where
  selected := by
    have hid : selectedId { s with profiles } = s.selectedId := by
      cases ha : s.activeProfileId with
      | none => simp only [selectedId, ha, hd]
      | some id => simp only [selectedId, ha]
    rw [hid]
    exact hsel
  default := hdef
  active := h.active

/-- Another default, while the profile started last stays selected and shown. -/
theorem Inv.keepsActive (h : s.Inv) (hs : s.activeProfileId = some id)
    (hfind : ∀ id', profiles.find id' = s.profiles.find id')
    (hdef : ∃ p, profiles.defaultProfile = some p) (hv : vnt = s.config.vnt) :
    Inv { s with profiles, config := { s.config with vnt } } := by
  obtain ⟨p, hp, he⟩ := h.selected
  rw [selectedId_of_some hs] at hp
  refine ⟨⟨p, ?_, he.trans hv.symm⟩, hdef, h.active⟩
  rw [selectedId_of_some (s := { s with profiles, config := { s.config with vnt } }) hs, hfind]
  exact hp

/-- The default profile is selected and shown. -/
theorem Inv.of_default (hp : s.profiles.defaultProfile = some profile)
    (hv : profile.vnt = s.config.vnt)
    (hn : s.activeProfileId = none) (hc : s.controller.isActive = false) : s.Inv where
  selected := ⟨profile, by rw [selectedId_of_none hn]; exact hp, hv⟩
  default := ⟨profile, hp⟩
  active ha := by
    rw [hc] at ha
    cases ha

/-- The settings of the configuration do not change. -/
theorem Inv.setConfig (h : s.Inv) {config : AppConfig} (hv : config.vnt = s.config.vnt)
    {settings : AppSettings} : Inv { s with config, settings } where
  selected := by
    obtain ⟨p, hp, he⟩ := h.selected
    exact ⟨p, hp, he.trans hv.symm⟩
  default := h.default
  active := h.active

theorem id_of_find {store : ProfileStore} {p : NetworkProfile}
    (h : store.find id = some p) : p.id = id :=
  beq_iff_eq.mp (List.find?_some (p := fun q : NetworkProfile => q.id == id) h)

theorem inv_start (h : s.Inv) (hc : s.Careful (.start outcome)) :
    (start outcome).Keeps Inv s := by
  refine .bind (.get (.bind (wp_internal h fun profile hp => .bind ?_)))
  have hp : s.profiles.find s.profiles.defaultProfileId = some profile := orStop_ok.mp hp
  refine wp_activateProfileConfig (fun _ _ => h) (fun _ => h) (.bind ?_)
  rw [id_of_find hp]
  refine wp_startController (fun ho hr => ?_) (fun _ => ?_) fun _ => ?_
  · -- The start failed: the default profile is selected or has the settings of the selected one.
    rcases hc with hok | hrun | hnone | hshows
    · rw [ho] at hok; cases hok
    · rw [hr] at hrun; cases hrun
    · refine ⟨⟨profile, ?_, rfl⟩, h.default, fun ha => by cases ha⟩
      simpa only [selectedId, hnone] using hp
    · exact h.inactive (hshows profile hp) rfl
  · exact .bind (.modify (.pure (h.activated hp)))
  · exact .bind (.modify (.pure (h.activated hp)))

theorem inv_stop (h : s.Inv) : stop.Keeps Inv s :=
  .bind (.modify (.pure (h.inactive rfl rfl)))

theorem inv_connectProfile (h : s.Inv) (hc : s.Careful (.connectProfile id outcome)) :
    (connectProfile id outcome).Keeps Inv s := by
  refine .bind (.get (.bind (.check h fun profile hp => .bind (.modify (.bind ?_)))))
  have hp : s.profiles.find id = some profile := orStop_ok.mp hp
  have hstopped : Inv { s with controller := ⟨false, .stopped⟩ } := h.inactive rfl rfl
  refine wp_activateProfileConfig (fun _ _ => hstopped) (fun _ => hstopped) (.bind ?_)
  rw [id_of_find hp]
  refine wp_startController (fun ho _ => ?_) (fun hr => by cases hr) fun _ => ?_
  · rcases hc with hok | hshows
    · rw [ho] at hok; cases hok
    · exact h.inactive (hshows profile hp) rfl
  · exact .bind (.modify (.pure (h.activated hp)))

/-- A `PUT` changes the selected profile and the current configuration, or nothing. -/
theorem wp_updateConfig :
    (updateConfig core vnt).Wp (fun _ s' => ∃ profile, s.profiles.find s.selectedId = some profile ∧
        s'.config = { s.config with vnt } ∧ s'.activeProfileId = s.activeProfileId ∧
        s'.controller = s.controller ∧ s'.profiles.defaultProfileId = s.profiles.defaultProfileId ∧
        (∃ p, s'.profiles.defaultProfile = some p) ∧ ∀ id, s'.profiles.find id =
          if id = s.selectedId then some (ProfileStore.edited ⟨profile.name, vnt⟩ profile)
          else s.profiles.find id) (fun s' => s' = s) s := by
  refine .bind (wp_refuseActive rfl fun _ => .bind (.get (.bind (wp_badRequest rfl fun _ _ => ?_))))
  refine .bind (wp_badRequest rfl fun _ _ => .bind (wp_internal rfl fun _ _ => ?_))
  refine .bind (wp_internal rfl fun selected hsel => ?_)
  refine .bind (wp_badRequest rfl fun profiles hupd => .bind (wp_saveProfiles rfl fun hval => ?_))
  refine .bind (.modify (.pure ?_))
  obtain ⟨hd, profile, hp, -, hfind⟩ := ProfileStore.find_update hupd
  cases hp.symm.trans (orStop_ok.mp hsel)
  exact ⟨selected, hp, rfl, rfl, rfl, hd, (ProfileStore.default_of_validate hval).1, hfind⟩

section

variable (h : s.Inv)

include h

theorem inv_updateConfig : (updateConfig core vnt).Keeps Inv s := by
  refine wp_updateConfig.mono ?_ fun s' hs => hs ▸ h
  rintro - s' ⟨profile, hp, hcfg, hact, hctl, hd, hdef, hfind⟩
  have hid : s'.selectedId = s.selectedId := by rw [selectedId, hact, hd, selectedId]
  refine ⟨⟨ProfileStore.edited ⟨profile.name, vnt⟩ profile, ?_, ?_⟩, hdef, ?_⟩
  · rw [hid, hfind, if_pos rfl]
  · rw [hcfg]
    rfl
  · rw [hctl, hact]
    exact h.active

/-- More profiles. -/
theorem inv_saveCreated {r : ProfileStore × NetworkProfile}
    (hr : s.profiles.create core input = .ok r) :
    (saveProfiles core r.1).Keeps Inv s := by
  refine wp_saveProfiles h fun hval => ?_
  obtain ⟨hd, hfind⟩ := ProfileStore.find_create hr
  obtain ⟨p, hp, hv⟩ := h.selected
  exact h.setProfiles hd ⟨p, hfind _ p hp, hv⟩ (ProfileStore.default_of_validate hval).1

theorem inv_createProfile : (createProfile core input).Keeps Inv s := by
  refine .bind (.get (.bind (wp_badRequest h fun created hcr => .bind ?_)))
  exact (inv_saveCreated h hcr).mono (fun _ _ hs => .pure hs) fun _ hs => hs

theorem inv_copyProfile : (copyProfile core id).Keeps Inv s := by
  refine .bind (.get (.bind (wp_badRequest h fun copied hcp => .bind ?_)))
  simp only [ProfileStore.copy, bind_eq_ok] at hcp
  obtain ⟨source, -, hcr⟩ := hcp
  exact (inv_saveCreated h hcr).mono (fun _ _ hs => .pure hs) fun _ hs => hs

theorem inv_updateProfile (hc : s.Careful (.updateProfile core id input)) :
    (updateProfile core id input).Keeps Inv s := by
  obtain ⟨hdefault, hweb⟩ := hc
  refine .bind (.get (.bind (wp_refuseActive h fun _ => .bind (wp_badRequest h fun r hupd => ?_))))
  refine .bind (wp_saveProfiles h fun hval => .bind (.when (fun ha => ?_) fun hna => .pure ?_))
  all_goals
    obtain ⟨hdef, hvalid⟩ := ProfileStore.default_of_validate hval
    obtain ⟨hd, profile, -, hr, hfind⟩ := ProfileStore.find_update hupd
  · -- The selected profile: the current configuration follows.
    have hid : r.1.find id = some r.2 := by rw [hfind, if_pos rfl, hr]
    refine wp_activateProfileConfig_valid hweb (hvalid id r.2 hid) (.pure ?_)
    refine ⟨⟨r.2, ?_, rfl⟩, hdef, ?_⟩
    · rw [selectedId_of_some (s := { s with profiles := r.1, config := _ }) ha]
      exact hid
    · exact h.active
  · refine h.setProfiles hd ?_ hdef
    by_cases hid : s.selectedId = id
    · -- Selected as the default only, so the settings stay.
      have hnone : s.activeProfileId = none := by
        cases hs : s.activeProfileId with
        | none => rfl
        | some id' =>
          rw [selectedId_of_some hs] at hid
          exact absurd (hid ▸ hs) hna
      refine ⟨ProfileStore.edited input profile, by rw [hfind, if_pos hid], ?_⟩
      exact hdefault hnone (hid.symm.trans (selectedId_of_none hnone))
    · obtain ⟨p, hp, hv⟩ := h.selected
      exact ⟨p, by rw [hfind, if_neg hid, hp], hv⟩

theorem inv_deleteProfile (hc : s.Careful (.deleteProfile core id)) :
    (deleteProfile core id).Keeps Inv s := by
  refine .bind (.get (.bind (wp_refuseActive h fun hact => .bind ?_)))
  refine wp_badRequest h fun store hrm => ?_
  refine .bind (wp_saveProfiles h fun hval => .bind (.when (fun ha => .modify (.pure ?_)) fun hna =>
    .pure ?_))
  all_goals
    have hdef := (ProfileStore.default_of_validate hval).1
    obtain ⟨hd, hne, hfind⟩ := ProfileStore.find_remove hrm
  · obtain ⟨p, hp⟩ := h.default
    have hinactive : s.controller.isActive = false := by
      simpa only [ha, and_true, Bool.not_eq_true] using hact
    have hstore : store.defaultProfile = some p := by
      rw [ProfileStore.defaultProfile, hd, hfind _ hne.symm]
      exact hp
    exact .of_default hstore (hc ha p hp) rfl hinactive
  · obtain ⟨p, hp, hv⟩ := h.selected
    have hid : s.selectedId ≠ id := by
      cases hs : s.activeProfileId with
      | none => rw [selectedId_of_none hs]; exact hne.symm
      | some id' =>
        rw [selectedId_of_some hs]
        rintro rfl
        exact hna hs
    exact h.setProfiles hd ⟨p, by rw [hfind _ hid, hp], hv⟩ hdef

theorem inv_setDefaultProfile (hc : s.Careful (.setDefaultProfile core id)) :
    (setDefaultProfile core id).Keeps Inv s := by
  obtain ⟨hsel, hweb⟩ := hc
  refine .bind (.get (.bind (wp_badRequest h fun store hset => .bind ?_)))
  refine wp_internal h fun p hp => ?_
  refine .bind (wp_saveProfiles h fun hval => .bind ?_)
  obtain ⟨hd, -, hfind⟩ := ProfileStore.find_setDefault hset
  obtain ⟨hdef, hvalid⟩ := ProfileStore.default_of_validate hval
  have hp : store.defaultProfile = some p := orStop_ok.mp hp
  have hpid : s.profiles.find id = some p := by rw [← hfind, ← hd]; exact hp
  refine .when (fun hna => ?_) fun hact => .pure ?_
  · refine wp_activateProfileConfig_valid hweb (hvalid _ p hp) (.pure ?_)
    obtain hs | ⟨a, hs⟩ := Option.eq_none_or_eq_some s.activeProfileId
    · exact .of_default hp rfl hs (Bool.not_eq_true _ ▸ hna)
    · refine h.keepsActive hs hfind hdef ?_
      rcases hsel with hact | hnone | hshows
      · exact absurd hact hna
      · rw [hs] at hnone; cases hnone
      · exact hshows p hpid
  · obtain ⟨a, hs⟩ := Option.ne_none_iff_exists'.mp (h.active (not_not.mp hact))
    exact h.keepsActive hs hfind hdef rfl

theorem inv_importProfiles {request : ImportProfiles}
    (hweb : s.Careful (.importProfiles core request)) :
    (importProfiles core request).Keeps Inv s := by
  refine .bind (wp_refuseActive h fun hact => .bind (.get (.bind ?_)))
  refine wp_badRequest h fun store _ => ?_
  refine .bind (wp_internal h fun p hp => .bind (wp_saveProfiles h fun hval => .bind ?_))
  have hp : store.defaultProfile = some p := orStop_ok.mp hp
  refine wp_activateProfileConfig_valid hweb ((ProfileStore.default_of_validate hval).2 _ p hp) ?_
  refine .bind (.modify (.pure (.of_default hp rfl rfl ?_)))
  simpa using hact

theorem inv_updateSettings {payload : SettingsPayload} :
    (updateSettings payload).Keeps Inv s := by
  refine .bind (wp_badRequest h fun _ _ => .bind (.get (.bind (wp_internal h fun _ _ => ?_))))
  refine .bind (wp_internal h fun _ _ => .bind (.modify (.pure (h.setConfig ?_))))
  rfl

theorem inv_updateAccessToken {accessToken : String} :
    (updateAccessToken accessToken).Keeps Inv s := by
  refine .bind (.get (.bind (wp_badRequest h fun _ _ => .bind (wp_internal h fun _ _ => ?_))))
  refine .bind (.modify (.pure (h.setConfig ?_)))
  rfl

theorem inv_restoreBackup {backup : FullBackup} :
    (restoreBackup core backup).Keeps Inv s := by
  refine .bind (wp_refuseActive h fun hact => .bind (wp_badRequest h fun _ _ => ?_))
  refine .bind (wp_badRequest h fun _ _ => .bind (.get (.bind (wp_badRequest h fun store _ => ?_))))
  refine .bind (wp_internal h fun p hp => .bind (wp_internal h fun _ _ => ?_))
  refine .bind (wp_internal h fun _ _ => .bind (wp_internal h fun _ _ => ?_))
  refine .bind (.modify (.pure (.of_default (orStop_ok.mp hp) rfl rfl ?_)))
  simpa using hact

theorem inv_clearData : (clearData core).Keeps Inv s := by
  refine .bind (wp_refuseActive h fun hact => .bind (.get (.bind (wp_internal h fun _ _ => ?_))))
  refine .bind (wp_internal h fun _ _ => .bind (wp_internal h fun _ _ => ?_))
  have hdef : (ProfileStore.fromLegacy s.config.vnt).defaultProfile =
      some ⟨"profile-1", "默认配置", s.config.vnt⟩ := rfl
  refine .bind (.modify (.pure (.of_default hdef rfl rfl ?_)))
  simpa using hact

end

end

theorem inv_handle {r : ApiRequest} (h : s.Inv) (hc : s.Careful r) : (s.handle r).Inv := by
  cases r with
  | updateConfig => exact (inv_updateConfig h).state
  | start => exact (inv_start h hc).state
  | stop => exact (inv_stop h).state
  | createProfile => exact (inv_createProfile h).state
  | updateProfile => exact (inv_updateProfile h hc).state
  | deleteProfile => exact (inv_deleteProfile h hc).state
  | copyProfile => exact (inv_copyProfile h).state
  | setDefaultProfile => exact (inv_setDefaultProfile h hc).state
  | connectProfile => exact (inv_connectProfile h hc).state
  | importProfiles => exact (inv_importProfiles h hc).state
  | updateSettings => exact (inv_updateSettings h).state
  | updateAccessToken => exact (inv_updateAccessToken h).state
  | restoreBackup => exact (inv_restoreBackup h).state
  | clearData => exact (inv_clearData h).state

/-- A new server shows the default profile. -/
theorem inv_new {core : ToCoreConfig} {file : Option ProfileStore} {config : AppConfig}
    {settings : AppSettings} (h : new core file config settings = .ok s) : s.Inv := by
  cases file with
  | none =>
    simp only [new, bind_eq_ok, orStop_ok] at h
    obtain ⟨profiles, -, profile, hp, h⟩ := h
    cases h
    exact .of_default hp rfl rfl rfl
  | some store =>
    simp only [new, bind_eq_ok, orStop_ok] at h
    obtain ⟨-, -, profiles, -, profile, hp, h⟩ := h
    cases h
    exact .of_default hp rfl rfl rfl

theorem inv_of_reach (h : sys.ReachWith Careful s) : s.Inv := by
  refine h.invariant (I := Inv) ?_ ?_
  · rintro s ⟨core, file, config, settings, hnew⟩
    exact inv_new hnew
  · rintro s r s' hs hc rfl
    exact inv_handle hs hc

/-- After careful requests the configuration that is shown is the one of the selected profile, and a
`PUT` that is accepted edits this profile and no other. -/
theorem selected_shown (h : sys.ReachWith Careful s) :
    ∃ p, s.profiles.find s.selectedId = some p ∧ s.getConfig = p.vnt ∧
      ∀ core vnt message, (updateConfig core vnt s).2 = .ok message →
        (s.handle (.updateConfig core vnt)).getConfig = vnt ∧
        (s.handle (.updateConfig core vnt)).selectedId = s.selectedId ∧
        ∀ id, (s.handle (.updateConfig core vnt)).profiles.find id =
          if id = s.selectedId then some (ProfileStore.edited ⟨p.name, vnt⟩ p)
          else s.profiles.find id := by
  obtain ⟨p, hp, hv⟩ := (inv_of_reach h).selected
  refine ⟨p, hp, hv.symm, fun core vnt message hok => ?_⟩
  obtain ⟨profile, hprofile, hcfg, hact, -, hd, -, hfind⟩ := wp_updateConfig.1 message hok
  cases hprofile.symm.trans hp
  refine ⟨?_, ?_, hfind⟩
  · rw [getConfig, handle, hcfg]
  · rw [selectedId, handle, hact, hd, selectedId]

/-! ## Runs of a new server -/

/-- The settings of a network. -/
def homeVnt : VntConfig :=
  { VntConfig.default with serverAddresses := ["quic://server:29872"], networkCode := "home" }

/-- A configuration with them, for this machine only. -/
def homeConfig : AppConfig := ⟨false, ⟨.v4 (Ipv4Addr.new 127 0 0 1), 19099, none⟩, homeVnt⟩

/-- A server without a file of profiles. -/
def fresh : ApiState :=
  ⟨homeConfig, ProfileStore.fromLegacy homeVnt, none, .default, ⟨false, .stopped⟩⟩

/-- `vnt-core` takes all settings. -/
def acceptAll : ToCoreConfig := fun _ => .ok ()

theorem init_fresh : sys.init fresh := ⟨acceptAll, none, homeConfig, .default, rfl⟩

/-- A second profile is made and connected, and the tunnel is stopped. -/
def officeConnected : List ApiRequest :=
  [.start (.ok ()), .createProfile acceptAll ⟨"office", { homeVnt with networkCode := "office" }⟩,
    .connectProfile "profile-2" (.ok ()), .stop]

theorem selected_shown_office :
    (officeConnected.foldl handle fresh).selectedId = "profile-2" ∧
      ∃ p, (officeConnected.foldl handle fresh).profiles.find
          (officeConnected.foldl handle fresh).selectedId = some p ∧
        (officeConnected.foldl handle fresh).getConfig = p.vnt := by
  have hreach : sys.ReachWith Careful (officeConnected.foldl handle fresh) :=
    Sys.ReachWith.foldl (Sys.ReachWith.init (S := sys) (C := Careful) init_fresh)
      (by decide +kernel)
  obtain ⟨p, hp, hv, -⟩ := selected_shown hreach
  exact ⟨by decide +kernel, p, hp, hv⟩

/-- The default profile gets another MTU before anything was started. -/
def mtuEdited : ApiState :=
  [ApiRequest.updateProfile acceptAll "profile-1" ⟨"默认配置", { homeVnt with mtu := 1300 }⟩].foldl
    handle fresh

/-- The default profile is edited before anything is started: what is shown is not the selected
profile. -/
theorem default_edited :
    sys.Reach mtuEdited ∧ (mtuEdited.profiles.find mtuEdited.selectedId).map (·.vnt.mtu) = some 1300 ∧
      mtuEdited.getConfig.mtu = 1400 :=
  ⟨Sys.Reach.foldl (Sys.Reach.init (S := sys) init_fresh) _, by decide +kernel, by decide +kernel⟩

end ApiState

end WebUi

end Vntc
