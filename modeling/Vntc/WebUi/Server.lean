import Vntc.WebUi.Api

/-!
# The WebUI with its files and its tunnel

The handlers of `api.rs` with the three files that they write (`AppConfig::save`,
`ProfileStore::save`, `AppSettings::save`) and with the tunnel that the controller runs. A save
writes a temporary file and renames it; each of these operations may fail (`faults`), and then the
file is as it was. A file is the value that it holds.

The handlers of `Vntc.WebUi.Api` are what is left when no file operation fails and only the memory
is looked at (`Server.acts_handle`).
-/

namespace Vntc

open Lib

namespace WebUi

/-- The files of a server; the first two are there when it runs. -/
structure Files where
  config : AppConfig
  profiles : ProfileStore
  settings : Option AppSettings

/-- The name of a file and of the one that is renamed to it. -/
structure SavePath where
  target : String
  temporary : String

/-- Where the files are. -/
structure Paths where
  config : SavePath
  profiles : SavePath
  settings : SavePath

/-- The state with its files and the tunnel. -/
structure Server where
  api : ApiState
  files : Files
  paths : Paths
  /-- The settings that the tunnel was started with. -/
  tunnel : Option VntConfig
  /-- Which of the next file operations fail. -/
  faults : List Bool

/-- A handler that writes files. -/
abbrev ServerApi := Handler Server ApiError

namespace Server

/-- What does not touch the files or the tunnel. -/
def lift {α : Type} (x : Api α) : ServerApi α := x.zoom Server.api fun api s => { s with api }

/-! ## Files -/

/-- An operation on a file, which may fail. -/
def fileOperation (message : Paths → String) : ServerApi Unit := fun s =>
  ({ s with faults := s.faults.tail },
    if s.faults.head? = some true then .error ⟨.internal, message s.paths⟩ else .ok ())

/-- `AppConfig::save`. -/
def saveConfig (config : AppConfig) : ServerApi Unit := do
  lift (WebUi.saveConfig config)
  fileOperation fun p => "写入临时配置失败：" ++ p.config.temporary
  fileOperation fun p => "设置配置权限失败：" ++ p.config.temporary
  fileOperation fun p => "替换配置失败：" ++ p.config.target
  Handler.modify fun s => { s with files := { s.files with config } }

/-- `ProfileStore::save`. -/
def saveStore (core : ToCoreConfig) (profiles : ProfileStore) : ServerApi Unit := do
  lift (internal (profiles.validate core))
  fileOperation fun p => "写入配置档案失败：" ++ p.profiles.temporary
  fileOperation fun p => "替换配置档案失败：" ++ p.profiles.target
  Handler.modify fun s => { s with files := { s.files with profiles } }

/-- `AppSettings::save`. -/
def saveSettings (settings : AppSettings) : ServerApi Unit := do
  lift (WebUi.saveSettings settings)
  fileOperation fun p => "写入 WebUI 设置失败：" ++ p.settings.temporary
  fileOperation fun p => "替换 WebUI 设置失败：" ++ p.settings.target
  Handler.modify fun s => { s with files := { s.files with settings := some settings } }

/-- `save_profiles`. -/
def saveProfiles (core : ToCoreConfig) (profiles : ProfileStore) : ServerApi Unit := do
  saveStore core profiles
  lift (Handler.modify fun s => { s with profiles })

/-- `activate_profile_config`. -/
def activateProfileConfig (profile : NetworkProfile) : ServerApi Unit := do
  let s ← lift Handler.get
  let config := { s.config with vnt := profile.vnt }
  saveConfig config
  lift (Handler.modify fun s => { s with config })

/-! ## The tunnel -/

/-- `VntController::start`: a tunnel that runs stays as it is. -/
def startTunnel (vnt : VntConfig) (outcome : Except String Unit) : ServerApi Unit := do
  let s ← lift Handler.get
  lift (startController outcome)
  Handler.modify fun t =>
    if s.controller.running = true then t else { t with tunnel := some vnt }

/-- `VntController::stop`. -/
def stopTunnel : ServerApi Unit := do
  lift stopController
  Handler.modify fun s => { s with tunnel := none }

/-! ## Handlers -/

section
variable (core : ToCoreConfig)

/-- As in `Api.lean`, with the files; so are the others. -/
def updateConfig (vnt : VntConfig) : ServerApi String := do
  lift (refuseActive True "请先停止 VNT，再修改配置")
  let s ← lift Handler.get
  let candidate := { s.config with vnt }
  lift (badRequest candidate.validate)
  lift (badRequest (core vnt))
  saveConfig candidate
  let selected ← lift (internal (orStop (s.profiles.find s.selectedId) "当前配置档案不存在"))
  let profiles ← lift (badRequest (s.profiles.update core s.selectedId ⟨selected.name, vnt⟩))
  saveProfiles core profiles.1
  lift (Handler.modify fun s => { s with config := candidate })
  pure "配置已保存"

def start (outcome : Except String Unit) : ServerApi String := do
  let s ← lift Handler.get
  let profile ← lift (defaultProfile s.profiles)
  activateProfileConfig profile
  startTunnel profile.vnt outcome
  lift (setActive (some profile.id))
  pure "VNT 已启动"

def stop : ServerApi String := do
  stopTunnel
  pure "VNT 已停止"

def createProfile (input : ProfileInput) : ServerApi NetworkProfile := do
  let s ← lift Handler.get
  let created ← lift (badRequest (s.profiles.create core input))
  saveProfiles core created.1
  pure created.2

def updateProfile (id : String) (input : ProfileInput) : ServerApi NetworkProfile := do
  let s ← lift Handler.get
  lift (refuseActive (s.activeProfileId = some id) "连接中的配置不能修改，请先断开")
  let updated ← lift (badRequest (s.profiles.update core id input))
  saveProfiles core updated.1
  Handler.when (s.activeProfileId = some id) (activateProfileConfig updated.2)
  pure updated.2

def deleteProfile (id : String) : ServerApi String := do
  let s ← lift Handler.get
  lift (refuseActive (s.activeProfileId = some id) "连接中的配置不能删除，请先断开")
  let profiles ← lift (badRequest (s.profiles.remove id))
  saveProfiles core profiles
  Handler.when (s.activeProfileId = some id) (lift (setActive none))
  pure "配置已删除"

def copyProfile (id : String) : ServerApi NetworkProfile := do
  let s ← lift Handler.get
  let copied ← lift (badRequest (s.profiles.copy core id))
  saveProfiles core copied.1
  pure copied.2

def setDefaultProfile (id : String) : ServerApi String := do
  let s ← lift Handler.get
  let profiles ← lift (badRequest (s.profiles.setDefault id))
  let profile ← lift (defaultProfile profiles)
  saveProfiles core profiles
  Handler.when (¬ s.controller.isActive = true) (activateProfileConfig profile)
  pure "默认配置已更新"

def connectProfile (id : String) (outcome : Except String Unit) : ServerApi String := do
  let s ← lift Handler.get
  let profile ← lift (Handler.check (orStop (s.profiles.find id) (.notFound "配置不存在")))
  stopTunnel
  activateProfileConfig profile
  startTunnel profile.vnt outcome
  lift (setActive (some profile.id))
  pure "配置已连接"

def importProfiles (request : ImportProfiles) : ServerApi String := do
  lift (refuseActive True "请先断开网络，再导入配置")
  let s ← lift Handler.get
  let profiles ← lift (badRequest (s.profiles.importProfiles core request))
  let profile ← lift (defaultProfile profiles)
  saveProfiles core profiles
  activateProfileConfig profile
  lift (setActive none)
  pure "配置已导入"

def updateSettings (payload : SettingsPayload) : ServerApi String := do
  lift (badRequest payload.settings.validate)
  let s ← lift Handler.get
  let config := { s.config with autoStart := payload.autoConnect }
  saveConfig config
  saveSettings payload.settings
  lift (Handler.modify fun s => { s with config, settings := payload.settings })
  pure "设置已保存"

def updateAccessToken (accessToken : String) : ServerApi String := do
  let s ← lift Handler.get
  let config := { s.config with
    web := { s.config.web with accessToken := some (trim accessToken) } }
  lift (badRequest config.validate)
  saveConfig config
  lift (Handler.modify fun s => { s with config })
  pure "访问密码已更新"

def restoreBackup (backup : FullBackup) : ServerApi String := do
  lift (refuseActive True "请先断开网络，再恢复备份")
  lift (badRequest (ensure (backup.schemaVersion = 1) "不支持的完整备份版本"))
  lift (badRequest backup.settings.validate)
  let s ← lift Handler.get
  let profiles ← lift (badRequest (s.profiles.importProfiles core ⟨.replace, backup.profiles⟩))
  let profile ← lift (defaultProfile profiles)
  saveStore core profiles
  saveSettings backup.settings
  let config := { s.config with autoStart := backup.autoConnect, vnt := profile.vnt }
  saveConfig config
  lift (Handler.modify fun s => { s with
    profiles, settings := backup.settings, config, activeProfileId := none })
  pure "备份已恢复"

def clearData : ServerApi String := do
  lift (refuseActive True "请先断开网络，再清理数据")
  let s ← lift Handler.get
  let profiles := ProfileStore.fromLegacy s.config.vnt
  saveStore core profiles
  saveSettings .default
  let config := { s.config with autoStart := false }
  saveConfig config
  lift (Handler.modify fun s => { s with
    profiles, settings := .default, config, activeProfileId := none })
  pure "数据已重置"

end

/-- Only whether the request failed is kept of the response. -/
def discard {α : Type} (x : ServerApi α) : ServerApi Unit := do
  let _ ← x
  pure ()

/-- A request. -/
def respond : ApiRequest → ServerApi Unit
  | .updateConfig core vnt => discard (updateConfig core vnt)
  | .start outcome => discard (start outcome)
  | .stop => discard stop
  | .createProfile core input => discard (createProfile core input)
  | .updateProfile core id input => discard (updateProfile core id input)
  | .deleteProfile core id => discard (deleteProfile core id)
  | .copyProfile core id => discard (copyProfile core id)
  | .setDefaultProfile core id => discard (setDefaultProfile core id)
  | .connectProfile id outcome => discard (connectProfile id outcome)
  | .importProfiles core request => discard (importProfiles core request)
  | .updateSettings payload => discard (updateSettings payload)
  | .updateAccessToken accessToken => discard (updateAccessToken accessToken)
  | .restoreBackup core backup => discard (restoreBackup core backup)
  | .clearData core => discard (clearData core)

/-- A request, and which of its file operations fail. -/
structure Call where
  request : ApiRequest
  faults : List Bool

/-- The state after a request and its response. -/
def run (s : Server) (call : Call) : Server × Except ApiError Unit :=
  respond call.request { s with faults := call.faults }

/-! ## No operation fails -/

/-- No file operation fails. -/
def FaultFree (s : Server) : Prop := ∀ f ∈ s.faults, f = false

section
variable {α : Type} {core : ToCoreConfig}

theorem acts_lift {x : Api α} : (lift x).Acts FaultFree Server.api x :=
  .zoom (fun _ _ h => h) fun _ _ => rfl

theorem acts_fileOperation {message : Paths → String} :
    (fileOperation message).Acts FaultFree Server.api (pure ()) := by
  intro s hs
  refine ⟨fun f hf => hs f (List.mem_of_mem_tail hf), rfl, ?_⟩
  have hhead : s.faults.head? ≠ some true := by
    intro h
    exact Bool.noConfusion (hs true (List.mem_of_head? h))
  exact if_neg hhead

theorem acts_writeFile {f : Files → Files} :
    (Handler.modify fun s => { s with files := f s.files } : ServerApi Unit).Acts
      FaultFree Server.api (pure ()) :=
  .modify (fun _ h => h) fun _ => rfl

theorem acts_saveConfig {config : AppConfig} :
    (saveConfig config).Acts FaultFree Server.api (WebUi.saveConfig config) :=
  acts_lift.andThen (acts_fileOperation.andThen (acts_fileOperation.andThen
    (acts_fileOperation.andThen (acts_writeFile (f := fun files => { files with config })))))

variable {profiles : ProfileStore}

theorem acts_saveStore :
    (saveStore core profiles).Acts FaultFree Server.api (internal (profiles.validate core)) :=
  acts_lift.andThen (acts_fileOperation.andThen (acts_fileOperation.andThen
    (acts_writeFile (f := fun files => { files with profiles }))))

theorem acts_saveSettings {settings : AppSettings} :
    (saveSettings settings).Acts FaultFree Server.api (WebUi.saveSettings settings) :=
  acts_lift.andThen (acts_fileOperation.andThen (acts_fileOperation.andThen
    (acts_writeFile (f := fun files => { files with settings := some settings }))))

theorem acts_saveProfiles :
    (saveProfiles core profiles).Acts FaultFree Server.api (WebUi.saveProfiles core profiles) :=
  acts_saveStore.bind fun _ => acts_lift

theorem acts_activateProfileConfig {profile : NetworkProfile} :
    (activateProfileConfig profile).Acts FaultFree Server.api
      (WebUi.activateProfileConfig profile) :=
  acts_lift.bind fun _ => acts_saveConfig.bind fun _ => acts_lift

theorem acts_startTunnel {vnt : VntConfig} {outcome : Except String Unit} :
    (startTunnel vnt outcome).Acts FaultFree Server.api (startController outcome) := by
  refine .look (fun _ _ h => h) (fun _ _ => rfl) fun s =>
    acts_lift.andThen (.modify (fun t ht => ?_) fun t => ?_)
  · split
    · exact ht
    · exact ht
  · split <;> rfl

theorem acts_stopTunnel : stopTunnel.Acts FaultFree Server.api stopController :=
  acts_lift.andThen (.modify (fun _ h => h) fun _ => rfl)

/-- The state of the memory after a request. -/
theorem api_discard {x : ServerApi α} {y : Api α} (h : x.Acts FaultFree Server.api y) {s : Server}
    (hs : s.FaultFree) : (discard x s).1.api = (y s.api).1 := by
  obtain ⟨-, hview, -⟩ := h s hs
  rw [← hview]
  show (Handler.bind x (fun _ => pure ()) s).1.api = _
  unfold Handler.bind
  cases x s with
  | mk s' r => cases r <;> rfl

end

/-- If no file operation fails, the handlers do to the memory what those of `Vntc.WebUi.Api` do. -/
theorem acts_handle {s : Server} (hs : s.FaultFree) (r : ApiRequest) :
    (respond r s).1.api = s.api.handle r := by
  cases r with
  | updateConfig =>
    exact api_discard (acts_lift.bind fun _ => acts_lift.bind fun _ => acts_lift.bind fun _ =>
      acts_lift.bind fun _ => acts_saveConfig.bind fun _ => acts_lift.bind fun _ =>
      acts_lift.bind fun _ => acts_saveProfiles.bind fun _ => acts_lift.bind fun _ => .pure _) hs
  | start =>
    exact api_discard (acts_lift.bind fun _ => acts_lift.bind fun _ =>
      acts_activateProfileConfig.bind fun _ => acts_startTunnel.bind fun _ =>
      acts_lift.bind fun _ => .pure _) hs
  | stop => exact api_discard (acts_stopTunnel.bind fun _ => .pure _) hs
  | createProfile | copyProfile =>
    exact api_discard (acts_lift.bind fun _ => acts_lift.bind fun _ =>
      acts_saveProfiles.bind fun _ => .pure _) hs
  | updateProfile | setDefaultProfile =>
    exact api_discard (acts_lift.bind fun _ => acts_lift.bind fun _ => acts_lift.bind fun _ =>
      acts_saveProfiles.bind fun _ => acts_activateProfileConfig.when.bind fun _ => .pure _) hs
  | deleteProfile =>
    exact api_discard (acts_lift.bind fun _ => acts_lift.bind fun _ => acts_lift.bind fun _ =>
      acts_saveProfiles.bind fun _ => acts_lift.when.bind fun _ => .pure _) hs
  | connectProfile =>
    exact api_discard (acts_lift.bind fun _ => acts_lift.bind fun _ => acts_stopTunnel.bind fun _ =>
      acts_activateProfileConfig.bind fun _ => acts_startTunnel.bind fun _ =>
      acts_lift.bind fun _ => .pure _) hs
  | importProfiles =>
    exact api_discard (acts_lift.bind fun _ => acts_lift.bind fun _ => acts_lift.bind fun _ =>
      acts_lift.bind fun _ => acts_saveProfiles.bind fun _ =>
      acts_activateProfileConfig.bind fun _ => acts_lift.bind fun _ => .pure _) hs
  | updateSettings =>
    exact api_discard (acts_lift.bind fun _ => acts_lift.bind fun _ => acts_saveConfig.bind fun _ =>
      acts_saveSettings.bind fun _ => acts_lift.bind fun _ => .pure _) hs
  | updateAccessToken =>
    exact api_discard (acts_lift.bind fun _ => acts_lift.bind fun _ => acts_saveConfig.bind fun _ =>
      acts_lift.bind fun _ => .pure _) hs
  | restoreBackup =>
    exact api_discard (acts_lift.bind fun _ => acts_lift.bind fun _ => acts_lift.bind fun _ =>
      acts_lift.bind fun _ => acts_lift.bind fun _ => acts_lift.bind fun _ =>
      acts_saveStore.bind fun _ => acts_saveSettings.bind fun _ => acts_saveConfig.bind fun _ =>
      acts_lift.bind fun _ => .pure _) hs
  | clearData =>
    exact api_discard (acts_lift.bind fun _ => acts_lift.bind fun _ => acts_saveStore.bind fun _ =>
      acts_saveSettings.bind fun _ => acts_saveConfig.bind fun _ => acts_lift.bind fun _ =>
      .pure _) hs

/-- As long as no file operation fails, any requests leave the memory that the handlers of
`Vntc.WebUi.Api` leave. -/
theorem api_foldl_run (s : Server) (requests : List ApiRequest) :
    (requests.foldl (fun s r => (s.run ⟨r, []⟩).1) s).api =
      requests.foldl ApiState.handle s.api := by
  induction requests generalizing s with
  | nil => rfl
  | cons r requests ih =>
    have hfree : FaultFree { s with faults := [] } := fun _ hf => by cases hf
    have hstep : (s.run ⟨r, []⟩).1.api = s.api.handle r := acts_handle hfree r
    rw [List.foldl_cons, List.foldl_cons, ih, hstep]

/-! ## The rules of the helpers -/

/-- One of the next `n` file operations fails. -/
def Fails (n : Nat) (faults : List Bool) : Prop := true ∈ faults.take n

instance (n : Nat) (faults : List Bool) : Decidable (Fails n faults) :=
  inferInstanceAs (Decidable (_ ∈ _))

variable {faults : List Bool}

theorem not_fails_zero : ¬ Fails 0 faults := by
  simp [Fails]

theorem fails_succ {n : Nat} :
    Fails (n + 1) faults ↔ faults.head? = some true ∨ Fails n faults.tail := by
  cases faults with
  | nil => simp [Fails]
  | cons f faults => simp [Fails, eq_comm]

section
variable {α : Type} {Q : α → Server → Prop} {R : Unit → Server → Prop} {E : Server → Prop}
  {s : Server}

theorem wp_lift {x : Api α}
    (h : x.Wp (fun a api => Q a { s with api }) (fun api => E { s with api }) s.api) :
    (lift x).Wp Q E s :=
  .zoom h

theorem wp_get {Q : ApiState → Server → Prop} (h : Q s.api s) : (lift Handler.get).Wp Q E s :=
  wp_lift (.get h)

theorem wp_set {f : ApiState → ApiState} (h : R () { s with api := f s.api }) :
    (lift (Handler.modify f)).Wp R E s :=
  wp_lift (.modify h)

theorem wp_check {x : Except ApiError α} (hE : ∀ e, x = .error e → E s)
    (h : ∀ a, x = .ok a → Q a s) : (lift (Handler.check x)).Wp Q E s :=
  wp_lift ⟨h, hE⟩

/-- A check that stops with an error of any kind. -/
theorem wp_checked {status : StatusCode} {x : Except String α} (hE : ∀ e, x = .error e → E s)
    (h : ∀ a, x = .ok a → Q a s) : (lift (Handler.check (withStatus status x))).Wp Q E s := by
  refine wp_check (fun e he => ?_) fun a ha => h a (ApiState.withStatus_ok.mp ha)
  cases x with
  | ok a => cases he
  | error e' => exact hE e' rfl

theorem wp_refuseActive {c : Prop} [Decidable c] {message : String}
    (hE : s.api.controller.isActive = true → c → E s)
    (h : ¬ (s.api.controller.isActive = true ∧ c) → R () s) :
    (lift (refuseActive c message)).Wp R E s := by
  refine wp_lift (.bind (.get ⟨fun _ ha => h (ensure_ok.mp ha), fun e he => ?_⟩))
  obtain ⟨hactive, hc⟩ := not_not.mp (ensure_error.mp he).1
  exact hE hactive hc

/-- A tunnel that runs stays, and a new one starts or does not. -/
theorem wp_startTunnel {vnt : VntConfig} {outcome : Except String Unit}
    (hE : outcome.isOk = false → s.api.controller.running = false →
      E { s with api := { s.api with controller := ⟨false, .error⟩ } })
    (hrun : s.api.controller.running = true → R () s)
    (h : outcome.isOk = true → s.api.controller.running = false →
      R () { s with
        api := { s.api with controller := ⟨true, .running⟩ }, tunnel := some vnt }) :
    (startTunnel vnt outcome).Wp R E s := by
  refine .bind (wp_get (.bind (wp_lift (.bind (.get (.when (fun hr => ?_) fun hr => ?_))))))
  · refine .bind (.modify (.bind ?_))
    have hfalse : s.api.controller.running = false := Bool.not_eq_true _ ▸ hr
    cases outcome with
    | ok _ =>
      refine ⟨fun _ _ => .modify (.modify ?_), fun e he => by cases he⟩
      rw [if_neg hr]
      exact h rfl hfalse
    | error message =>
      refine ⟨fun _ ha => (by cases ha), fun _ _ => ?_⟩
      have hfailed := hE rfl hfalse
      rw [← hfalse] at hfailed
      exact hfailed
  · refine .modify ?_
    rw [if_pos (not_not.mp hr)]
    exact hrun (not_not.mp hr)

theorem wp_stopTunnel
    (h : R () { s with api := { s.api with controller := ⟨false, .stopped⟩ }, tunnel := none }) :
    stopTunnel.Wp R E s :=
  .bind (wp_set (.modify h))

variable {message : Paths → String} {core : ToCoreConfig} {profiles : ProfileStore}

theorem wp_fileOperation (hE : s.faults.head? = some true → E { s with faults := s.faults.tail })
    (h : ¬ s.faults.head? = some true → R () { s with faults := s.faults.tail }) :
    (fileOperation message).Wp R E s := by
  by_cases hf : s.faults.head? = some true
  · have hresult : (fileOperation message s).2 = .error ⟨.internal, message s.paths⟩ := if_pos hf
    refine ⟨fun a ha => ?_, fun _ _ => hE hf⟩
    rw [hresult] at ha
    cases ha
  · have hresult : (fileOperation message s).2 = .ok () := if_neg hf
    refine ⟨fun _ _ => h hf, fun e he => ?_⟩
    rw [hresult] at he
    cases he

/-- One more operation before the others. -/
theorem wp_fileOperation_bind {n : Nat} {x : ServerApi Unit}
    (hE : Fails (n + 1) s.faults → ∀ faults, E { s with faults })
    (h : (Fails n s.faults.tail → ∀ faults, E { s with faults }) →
      (¬ Fails n s.faults.tail → ¬ Fails (n + 1) s.faults) →
      x.Wp R E { s with faults := s.faults.tail }) :
    (fileOperation message >>= fun _ => x).Wp R E s := by
  refine .bind (wp_fileOperation (fun hf => hE (fails_succ.mpr (.inl hf)) _) fun hf => h ?_ ?_)
  · exact fun hn => hE (fails_succ.mpr (.inr hn))
  · exact fun hn hs => (fails_succ.mp hs).elim hf hn

/-- The last two write the new file and put it in the place of the old one. -/
theorem wp_replace {written : Paths → String} {f : Files → Files}
    (hE : Fails 2 s.faults → ∀ faults, E { s with faults })
    (h : ¬ Fails 2 s.faults → R () { s with files := f s.files, faults := s.faults.drop 2 }) :
    (fileOperation written >>= fun _ => fileOperation message >>= fun _ =>
      Handler.modify fun s => { s with files := f s.files }).Wp R E s := by
  refine wp_fileOperation_bind hE fun h1 hok1 => wp_fileOperation_bind h1 fun _ hok => .modify ?_
  have hdrop : s.faults.tail.tail = s.faults.drop 2 := by
    simp only [← List.drop_one, List.drop_drop]
  rw [hdrop]
  exact h (hok1 (hok not_fails_zero))

/-- A file is written only after its value passed the check. -/
theorem wp_validated {x : Except String Unit} {y : ServerApi Unit} {fails : Prop}
    (hE : x ≠ .ok () ∨ fails → ∀ faults, E { s with faults })
    (h : x = .ok () → (fails → ∀ faults, E { s with faults }) → y.Wp R E s) :
    (lift (internal x) >>= fun _ => y).Wp R E s := by
  refine .bind (wp_checked (fun e he => hE (.inl ?_) s.faults) fun _ hv => h hv (hE ∘ .inr))
  rw [he]
  exact fun h => by cases h

theorem wp_saveConfig {config : AppConfig}
    (hE : config.validate ≠ .ok () ∨ Fails 3 s.faults → ∀ faults, E { s with faults })
    (h : config.validate = .ok () → ¬ Fails 3 s.faults →
      R () { s with files := { s.files with config }, faults := s.faults.drop 3 }) :
    (saveConfig config).Wp R E s := by
  refine wp_validated hE fun hv hE => wp_fileOperation_bind hE fun h2 hok2 => ?_
  refine wp_replace (f := fun files => { files with config }) h2 fun hn => ?_
  rw [List.drop_tail]
  exact h hv (hok2 hn)

theorem wp_saveStore
    (hE : profiles.validate core ≠ .ok () ∨ Fails 2 s.faults → ∀ faults, E { s with faults })
    (h : profiles.validate core = .ok () → ¬ Fails 2 s.faults →
      R () { s with files := { s.files with profiles }, faults := s.faults.drop 2 }) :
    (saveStore core profiles).Wp R E s :=
  wp_validated hE fun hv hE => wp_replace (f := fun files => { files with profiles }) hE (h hv)

theorem wp_saveSettings {settings : AppSettings}
    (hE : settings.validate ≠ .ok () ∨ Fails 2 s.faults → ∀ faults, E { s with faults })
    (h : settings.validate = .ok () → ¬ Fails 2 s.faults →
      R () { s with
        files := { s.files with settings := some settings }, faults := s.faults.drop 2 }) :
    (saveSettings settings).Wp R E s :=
  wp_validated hE fun hv hE =>
    wp_replace (f := fun files => { files with settings := some settings }) hE (h hv)

theorem wp_saveProfiles
    (hE : profiles.validate core ≠ .ok () ∨ Fails 2 s.faults → ∀ faults, E { s with faults })
    (h : profiles.validate core = .ok () → ¬ Fails 2 s.faults → R () { s with
      api := { s.api with profiles }
      files := { s.files with profiles }
      faults := s.faults.drop 2 }) :
    (saveProfiles core profiles).Wp R E s :=
  .bind (wp_saveStore hE fun hv hf => wp_set (h hv hf))

theorem wp_activateProfileConfig {profile : NetworkProfile}
    (hE : AppConfig.validate { s.api.config with vnt := profile.vnt } ≠ .ok () ∨
      Fails 3 s.faults → ∀ faults, E { s with faults })
    (h : AppConfig.validate { s.api.config with vnt := profile.vnt } = .ok () →
      ¬ Fails 3 s.faults → R () { s with
        api := { s.api with config := { s.api.config with vnt := profile.vnt } }
        files := { s.files with config := { s.api.config with vnt := profile.vnt } }
        faults := s.faults.drop 3 }) :
    (activateProfileConfig profile).Wp R E s :=
  .bind (wp_get (.bind (wp_saveConfig hE fun hv hf => wp_set (h hv hf))))

end

end Server

end WebUi

end Vntc
