import Vntc.Lib.Handler
import Vntc.Lib.Ipv4
import Vntc.Server.Lease.State

/-!
# Configurations and profiles of the WebUI

The configuration of the Linux WebUI (`config.rs`, `app_settings.rs` of `linux_webui`) and the store
of its network profiles (`profile_store.rs`). A profile has a name and the settings of a network;
one of the profiles is the default.

The conversion of the settings for `vnt-core` (`to_core_config`) is a parameter: it parses addresses
and routes, and asks the system for a device id. Files can always be written, so a save stops only
at its validation.
-/

namespace Vntc

open Lib

namespace WebUi

/-! ## The configuration -/

/-- Direct channels too, or only the relay. -/
inductive ChannelMode
  | all
  | relayOnly
  deriving DecidableEq

/-- The settings of a network. -/
structure VntConfig where
  serverAddresses : List String
  networkCode : String
  deviceId : Option String
  deviceName : String
  tunName : String
  virtualIp : Option Ipv4Addr
  password : Option String
  channelMode : ChannelMode
  mtu : Nat
  compress : Bool
  rtx : Bool
  fec : Bool
  noTun : Bool
  noNat : Bool
  allowPortMapping : Bool
  udpStun : List String
  tcpStun : List String
  tunnelPort : Option Nat
  inputRoutes : List String
  outputRoutes : List String
  portMappings : List String
  deriving DecidableEq

namespace VntConfig

/-- `VntConfig::default`. -/
def default : VntConfig where
  serverAddresses := []
  networkCode := ""
  deviceId := none
  deviceName := "vntc-linux"
  tunName := "vnt0"
  virtualIp := none
  password := none
  channelMode := .all
  mtu := 1400
  compress := false
  rtx := false
  fec := false
  noTun := false
  noNat := false
  allowPortMapping := false
  udpStun := []
  tcpStun := []
  tunnelPort := none
  inputRoutes := []
  outputRoutes := []
  portMappings := []

/-- What the WebUI asks of the settings. -/
def validate (c : VntConfig) : Except String Unit := do
  ensure (¬ (c.serverAddresses.isEmpty || c.serverAddresses.any isBlank) = true)
    "至少需要一个非空 server_addresses"
  ensure (¬ isBlank c.networkCode = true) "network_code 不能为空"
  ensure (c.networkCode.length ≤ 32) "network_code 不能超过 32 个字符"
  ensure (¬ isBlank c.deviceName = true ∧ c.deviceName.length ≤ 128)
    "device_name 长度必须为 1 到 128 个字符"
  ensure (¬ isBlank c.tunName = true) "tun_name 不能为空"
  ensure (576 ≤ c.mtu ∧ c.mtu ≤ 1500) "mtu 必须在 576 到 1500 之间"
  ensure (∀ id ∈ c.deviceId, id.length ≤ 64) "device_id 不能超过 64 个字符"

end VntConfig

/-- Where the WebUI listens, and its password. -/
structure WebConfig where
  listen : IpAddr
  port : Nat
  accessToken : Option String

/-- Other machines need the password. -/
def WebConfig.validate (c : WebConfig) : Except String Unit := do
  ensure (c.port ≠ 0) "WebUI 端口不能为 0"
  ensure (c.listen.isLoopback = true ∨ ¬ c.accessToken.all isBlank = true)
    "WebUI 监听非本机地址时，access_token 不能为空"

/-- The configuration file. -/
structure AppConfig where
  autoStart : Bool
  web : WebConfig
  vnt : VntConfig

/-- Both parts of the file are valid. -/
def AppConfig.validate (c : AppConfig) : Except String Unit := do
  c.web.validate
  c.vnt.validate

/-- How the WebUI looks, and how often it asks. -/
structure AppSettings where
  experienceMode : String
  themeMode : String
  themeAccent : String
  refreshIntervalSeconds : Nat

namespace AppSettings

/-- `AppSettings::default`. -/
def default : AppSettings := ⟨"minimal", "system", "blue", 5⟩

/-- Each setting is one of its choices. -/
def validate (s : AppSettings) : Except String Unit := do
  ensure (["minimal", "professional"].contains s.experienceMode = true)
    "experience_mode 必须是 minimal 或 professional"
  ensure (["light", "dark", "system"].contains s.themeMode = true)
    "theme_mode 必须是 light、dark 或 system"
  ensure (["blue", "green", "purple", "orange"].contains s.themeAccent = true)
    "theme_accent 不受支持"
  ensure ([2, 5, 10, 30, 60].contains s.refreshIntervalSeconds = true)
    "刷新间隔必须是 2、5、10、30 或 60 秒"

end AppSettings

/-! ## The profiles -/

/-- `str::trim`. -/
def trim (s : String) : String :=
  String.ofList ((s.toList.dropWhile isWhitespace).reverse.dropWhile isWhitespace).reverse

/-- Named settings of a network. -/
structure NetworkProfile where
  id : String
  name : String
  vnt : VntConfig
  deriving DecidableEq

/-- A profile in a request, without an id. -/
structure ProfileInput where
  name : String
  vnt : VntConfig

/-- The profiles as the user saves them. -/
structure ProfileBackup where
  schemaVersion : Nat
  defaultProfileId : String
  profiles : List NetworkProfile

/-- Add to the profiles, or replace them. -/
inductive ImportMode
  | merge
  | replace

/-- A request to import profiles. -/
structure ImportProfiles where
  mode : ImportMode
  backup : ProfileBackup

/-- The profiles, the default one, and the number of the next id. -/
structure ProfileStore where
  schemaVersion : Nat
  defaultProfileId : String
  nextId : Nat
  profiles : List NetworkProfile

/-- The version of the file of profiles. -/
def profileSchemaVersion : Nat := 1

/-- `to_core_config`, as far as it can fail. -/
abbrev ToCoreConfig := VntConfig → Except String Unit

/-- A name of some length, and settings that `vnt-core` takes. -/
def validateInput (core : ToCoreConfig) (input : ProfileInput) : Except String Unit := do
  let name := trim input.name
  ensure (name ≠ "" ∧ name.length ≤ 64) "配置名称长度必须为 1 到 64 个字符"
  input.vnt.validate
  core input.vnt

/-- The digits of a `u64`, as `str::parse` reads them after an optional sign. -/
def parseDigits (digits : List Char) : Option Nat :=
  if digits = [] ∨ ¬ digits.all Char.isDigit = true then none
  else
    let n := digits.foldl (fun n c => n * 10 + (c.toNat - '0'.toNat)) 0
    if n < 2 ^ 64 then some n else none

/-- `str::parse`, which takes a `+`. -/
def parseU64 (s : List Char) : Option Nat :=
  match s with
  | '+' :: digits => parseDigits digits
  | digits => parseDigits digits

/-- The number in an id that the store made. -/
def idNumber (id : String) : Option Nat :=
  if "profile-".toList <+: id.toList then parseU64 (id.toList.drop 8) else none

namespace ProfileStore

variable (core : ToCoreConfig) (store : ProfileStore)

/-- The store of an installation without profiles. -/
def fromLegacy (vnt : VntConfig) : ProfileStore where
  schemaVersion := profileSchemaVersion
  defaultProfileId := "profile-1"
  nextId := 2
  profiles := [⟨"profile-1", "默认配置", vnt⟩]

/-- The loop of `validate`; `ids` are the ids so far. -/
def validateProfiles : List String → List NetworkProfile → Except String Unit
  | _, [] => .ok ()
  | ids, profile :: profiles => do
    validateInput core ⟨profile.name, profile.vnt⟩
    ensure (¬ isBlank profile.id = true) "配置 ID 不能为空"
    ensure (¬ ids.contains profile.id = true) ("配置 ID 重复：" ++ profile.id)
    validateProfiles (profile.id :: ids) profiles

/-- What a file of profiles has to meet. -/
def validate : Except String Unit := do
  ensure (store.schemaVersion = profileSchemaVersion)
    ("不支持的配置档案版本：" ++ toString store.schemaVersion)
  ensure (store.profiles ≠ []) "至少需要保留一个配置"
  ensure (store.profiles.any (·.id == store.defaultProfileId) = true) "默认配置不存在"
  validateProfiles core [] store.profiles

/-- The profile with the id. -/
def find (id : String) : Option NetworkProfile := store.profiles.find? (·.id == id)

/-- The source stops the program if there is none. -/
def defaultProfile : Option NetworkProfile := store.find store.defaultProfileId

/-- A profile at the end, with the next id. -/
def create (input : ProfileInput) : Except String (ProfileStore × NetworkProfile) := do
  validateInput core input
  let profile : NetworkProfile := ⟨"profile-" ++ toString store.nextId, trim input.name, input.vnt⟩
  .ok ({ store with
      nextId := (store.nextId + 1) % 2 ^ 64
      profiles := store.profiles ++ [profile] }, profile)

/-- The first profile with the id changes. -/
def modifyFirst (id : String) (f : NetworkProfile → NetworkProfile) :
    List NetworkProfile → List NetworkProfile
  | [] => []
  | profile :: profiles =>
    if profile.id == id then f profile :: profiles else profile :: modifyFirst id f profiles

/-- A profile with the name and the settings of an input. -/
def edited (input : ProfileInput) (profile : NetworkProfile) : NetworkProfile :=
  { profile with name := trim input.name, vnt := input.vnt }

/-- Another name and other settings for a profile. -/
def update (id : String) (input : ProfileInput) :
    Except String (ProfileStore × NetworkProfile) := do
  validateInput core input
  let profile ← orStop (store.find id) ("配置不存在：" ++ id)
  .ok ({ store with profiles := modifyFirst id (edited input) store.profiles },
    edited input profile)

/-- A profile once more, under another name. -/
def copy (id : String) : Except String (ProfileStore × NetworkProfile) := do
  let source ← orStop (store.find id) ("配置不存在：" ++ id)
  store.create core ⟨source.name ++ " 副本", source.vnt⟩

/-- The only profile and the default one stay. -/
def remove (id : String) : Except String ProfileStore := do
  ensure (store.profiles.length ≠ 1) "至少需要保留一个配置"
  ensure (id ≠ store.defaultProfileId) "默认配置不能删除，请先设置其他默认配置"
  let profiles := store.profiles.filter (·.id != id)
  ensure (store.profiles.length ≠ profiles.length) ("配置不存在：" ++ id)
  .ok { store with profiles }

/-- Another profile is the default. -/
def setDefault (id : String) : Except String ProfileStore := do
  ensure ((store.find id).isSome = true) ("配置不存在：" ++ id)
  .ok { store with defaultProfileId := id }

/-- The next id is above those of the profiles. -/
def recalculateNextId : ProfileStore :=
  { store with
    nextId := ((store.profiles.filterMap fun p => idNumber p.id).foldl max 0 + 1) % 2 ^ 64 }

/-- The profiles of a backup as new ones. -/
def createAll (store : ProfileStore) : List NetworkProfile → Except String ProfileStore
  | [] => .ok store
  | profile :: profiles => do
    let created ← store.create core ⟨profile.name, profile.vnt⟩
    createAll created.1 profiles

/-- The profiles of a backup, if they make a valid store. -/
def importProfiles (request : ImportProfiles) : Except String ProfileStore := do
  ensure (request.backup.schemaVersion = profileSchemaVersion)
    ("不支持的备份版本：" ++ toString request.backup.schemaVersion)
  let candidate ←
    match request.mode with
    | .replace => .ok ⟨profileSchemaVersion, request.backup.defaultProfileId, 1,
        request.backup.profiles⟩
    | .merge => store.createAll core request.backup.profiles
  let candidate := candidate.recalculateNextId
  candidate.validate core
  .ok candidate

variable {core store}

/-! ## The profile with an id -/

variable {f : NetworkProfile → NetworkProfile} {id : String} {input : ProfileInput}
  {r : ProfileStore × NetworkProfile} {store' : ProfileStore} {ids : List String}
  {profiles : List NetworkProfile} {vnt : VntConfig}

theorem find_modifyFirst (hf : ∀ p, (f p).id = p.id)
    (id id' : String) (profiles : List NetworkProfile) :
    (modifyFirst id f profiles).find? (·.id == id') =
      if id' = id then (profiles.find? (·.id == id)).map f else profiles.find? (·.id == id') := by
  induction profiles with
  | nil => simp [modifyFirst]
  | cons p ps ih =>
    by_cases hp : p.id = id
    · by_cases hid : id' = id
      · simp [modifyFirst, hp, hid, hf]
      · simp [modifyFirst, hp, hid, hf, Ne.symm hid]
    · by_cases hid : id' = id
      · subst hid
        simpa [modifyFirst, hp] using ih
      · rw [if_neg hid] at ih ⊢
        simp [modifyFirst, hp, List.find?_cons, ih]

/-- The edited profile has the new settings, the others are as they were. -/
theorem find_update (h : store.update core id input = .ok r) :
    r.1.defaultProfileId = store.defaultProfileId ∧
      ∃ profile, store.find id = some profile ∧ r.2 = edited input profile ∧
        ∀ id', r.1.find id' = if id' = id then some (edited input profile) else store.find id' := by
  simp only [update, bind_eq_ok, orStop_ok] at h
  obtain ⟨-, -, profile, hp, h⟩ := h
  cases h
  refine ⟨rfl, profile, hp, rfl, fun id' => ?_⟩
  refine (find_modifyFirst (f := edited input) (fun _ => rfl) id id' store.profiles).trans ?_
  rw [show store.profiles.find? (·.id == id) = some profile from hp]
  rfl

/-- A new profile hides none of the others. -/
theorem find_create (h : store.create core input = .ok r) :
    r.1.defaultProfileId = store.defaultProfileId ∧
      ∀ id p, store.find id = some p → r.1.find id = some p := by
  simp only [create, bind_eq_ok] at h
  obtain ⟨-, -, h⟩ := h
  cases h
  refine ⟨rfl, fun id p hp => ?_⟩
  simp only [find] at hp ⊢
  rw [List.find?_append, hp]
  rfl

theorem find_remove (h : store.remove id = .ok store') :
    store'.defaultProfileId = store.defaultProfileId ∧ id ≠ store.defaultProfileId ∧
      ∀ id', id' ≠ id → store'.find id' = store.find id' := by
  simp only [remove, bind_eq_ok, ensure_ok] at h
  obtain ⟨-, -, -, hid, -, -, h⟩ := h
  cases h
  refine ⟨rfl, hid, fun id' hne => ?_⟩
  simp only [find, List.find?_filter]
  congr 1
  funext p
  by_cases hp : p.id = id'
  · simp [hp, hne]
  · simp [hp]

theorem find_setDefault (h : store.setDefault id = .ok store') :
    store'.defaultProfileId = id ∧ (∃ p, store.find id = some p) ∧
      ∀ id', store'.find id' = store.find id' := by
  simp only [setDefault, bind_eq_ok, ensure_ok] at h
  obtain ⟨-, hid, h⟩ := h
  cases h
  exact ⟨rfl, Option.isSome_iff_exists.mp hid, fun _ => rfl⟩

/-! ## What is saved -/

theorem vnt_validate_of_validateInput
    (h : validateInput core input = .ok ()) : input.vnt.validate = .ok () := by
  simp only [validateInput, bind_eq_ok] at h
  obtain ⟨-, -, ⟨⟩, hv, -⟩ := h
  exact hv

theorem vnt_validate_of_validateProfiles
    (h : validateProfiles core ids profiles = .ok ()) : ∀ p ∈ profiles, p.vnt.validate = .ok () := by
  induction profiles generalizing ids with
  | nil => simp
  | cons p ps ih =>
    simp only [validateProfiles, bind_eq_ok] at h
    obtain ⟨⟨⟩, hi, -, -, -, -, h⟩ := h
    intro q hq
    rcases List.mem_cons.mp hq with rfl | hq
    · exact vnt_validate_of_validateInput hi
    · exact ih h q hq

/-- A store that is saved has a default profile, and the settings of all its profiles are valid. -/
theorem default_of_validate (h : store.validate core = .ok ()) :
    (∃ p, store.defaultProfile = some p) ∧
      ∀ id p, store.find id = some p → p.vnt.validate = .ok () := by
  simp only [validate, bind_eq_ok, ensure_ok] at h
  obtain ⟨-, -, -, -, -, hany, h⟩ := h
  refine ⟨?_, fun id p hp => vnt_validate_of_validateProfiles h p (List.mem_of_find?_eq_some hp)⟩
  refine Option.isSome_iff_exists.mp ?_
  rw [defaultProfile, find, List.find?_isSome]
  exact List.any_eq_true.mp hany

end ProfileStore

end WebUi

end Vntc
