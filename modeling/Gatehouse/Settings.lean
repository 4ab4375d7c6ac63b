import Gatehouse.Settings.Setting
import Gatehouse.Time.Span
import Gatehouse.Text.Utf8
import Gatehouse.Toml.Document

/-!
# Settings

The values of the settings come from the defaults, then from the file of the
environment that the service runs in, then from variables. Times to live must
lie within ten years.
-/

namespace Gatehouse

/-- A value for every setting. -/
structure Settings where
  get : (setting : Setting) → setting.Value

/-- Why settings cannot be used. -/
inductive SettingsFault where
  /-- The file cannot be read. -/
  | unreadable (path reason : String)
  /-- The file holds no settings. -/
  | malformed (path : String)
  /-- A variable holds no value of its setting. -/
  | variable (name : String) (fault : ValueFault)
  /-- A value is out of bounds. -/
  | outOfBounds (path reason : String)
  deriving DecidableEq, Repr

/-- The wording of a fault. -/
def SettingsFault.message : SettingsFault → String
  | .unreadable path reason => "failed to read config file '" ++ path ++ "': " ++ reason
  | .malformed path => "failed to parse config file '" ++ path ++ "'"
  | .variable name fault => "invalid value for " ++ name ++ ": " ++ fault.message
  | .outOfBounds path reason => "invalid " ++ path ++ ": " ++ reason

/-- The variables that are set, by name. -/
abbrev Environment := String → Option String

namespace Settings

/-- The settings where nothing is given. -/
def defaults : Settings := ⟨Setting.default⟩

instance : Inhabited Settings := ⟨defaults⟩

/-- Change one setting. -/
def set (settings : Settings) (setting : Setting) (value : setting.Value) : Settings :=
  ⟨fun other => if same : setting = other then same ▸ value else settings.get other⟩

@[simp] theorem get_set_self (settings : Settings) (setting : Setting) (value : setting.Value) :
    (settings.set setting value).get setting = value := by simp [set]

@[simp] theorem get_set_of_ne (settings : Settings) {setting other : Setting}
    (value : setting.Value) (apart : setting ≠ other) :
    (settings.set setting value).get other = settings.get other := by simp [set, apart]

@[ext] theorem ext {a b : Settings} (same : ∀ setting, a.get setting = b.get setting) : a = b := by
  cases a
  cases b
  congr
  exact funext same

/-! ## The file -/

/-- Set one setting from an entry of the file. -/
def setFrom? (settings : Settings) (setting : Setting) (entry : Toml) : Option Settings :=
  (setting.kind.ofToml? entry).map (settings.set setting)

/-- Read a section: a table, or an array of its values in their order. A date
counts as a table without entries. -/
def readGroup? (group : SettingsSection) (settings : Settings) (entry : Toml) :
    Option Settings :=
  match entry with
  | .table entries =>
      (Setting.ofGroup group).foldlM
        (fun settings setting =>
          match entries.lookup setting.name with
          | some entry => settings.setFrom? setting entry
          | none => some settings)
        settings
  | .array items =>
      ((Setting.ofGroup group).zip items).foldlM
        (fun settings entry => settings.setFrom? entry.1 entry.2) settings
  | .date => some settings
  | _ => none

/-- Read the sections of a document; what is not named keeps its default. -/
def ofToml? (document : Toml) : Option Settings :=
  SettingsSection.all.foldlM
    (fun settings group =>
      match document.get? group.name with
      | some entry => settings.readGroup? group entry
      | none => some settings)
    defaults

/-- Read the text of a settings file. -/
def ofText? (text : String) : Option Settings := (Toml.parse? text).bind ofToml?

/-- Read settings in JSON. -/
def ofJson? (json : Json) : Option Settings := ofToml? (.ofJson json)

/-! ## Overrides -/

/-- Apply the variables of some settings, up to the first that holds no value
of its setting. What was applied before it stays applied. -/
def override (environment : Environment) : List Setting → Settings →
    Settings × Option SettingsFault
  | [], settings => (settings, none)
  | setting :: rest, settings =>
      match environment setting.variableName with
      | none => override environment rest settings
      | some text =>
          match setting.kind.ofText text with
          | .ok value => override environment rest (settings.set setting value)
          | .error fault => (settings, some (.variable setting.variableName fault))

/-- Apply every variable. -/
def applyOverrides (environment : Environment) (settings : Settings) :
    Settings × Option SettingsFault :=
  override environment Setting.all settings

/-! ## Bounds -/

/-- The longest time to live, in seconds: ten years. -/
def maxSeconds : Nat := 10 * 365 * 24 * 60 * 60

/-- What is wrong with a time to live. -/
def ttlFault? (setting : Setting) (seconds : Nat) : Option SettingsFault :=
  if 1 ≤ seconds ∧ seconds ≤ maxSeconds then none
  else some (.outOfBounds setting.path
    (toString seconds ++ " is outside 1..=" ++ toString maxSeconds))

/-- What is wrong with the values of settings. -/
def fault? (settings : Settings) : Option SettingsFault :=
  (ttlFault? .accessTtl (settings.get .accessTtl).val).or <|
    (ttlFault? .refreshTtl (settings.get .refreshTtl).val).or <|
      (ttlFault? .permissionsTtl (settings.get .permissionsTtl).val).or <|
        if (settings.get .leeway).val ≤ maxSeconds then none
        else some (.outOfBounds Setting.leeway.path ("must not exceed " ++ toString maxSeconds))

/-! ## Loading -/

/-- What stands under a path. -/
inductive PathEntry where
  | nothing
  | directory
  | file (contents : Bytes)

/-- The variable that names the environment the service runs in. -/
def environmentVariable : String := Setting.variableMark ++ "ENV"

/-- The path of the settings file. -/
def filePath (environment : Environment) : String :=
  let name := (environment environmentVariable).getD "local" ++ ".toml"
  if name.startsWith "/" then name else "config/" ++ name

/-- Read the settings file under a path, if there is one. -/
def ofFile (path : String) : PathEntry → Except SettingsFault Settings
  | .nothing => .ok defaults
  | .directory => .error (.unreadable path "Is a directory (os error 21)")
  | .file contents =>
      match textOfBytes? contents with
      | none => .error (.unreadable path "stream did not contain valid UTF-8")
      | some text =>
          match ofText? text with
          | some settings => .ok settings
          | none => .error (.malformed path)

/-- Put the settings of a service together. -/
def load (entryAt : String → PathEntry) (environment : Environment) :
    Except SettingsFault Settings := do
  let path := filePath environment
  let (settings, fault) := (← ofFile path (entryAt path)).applyOverrides environment
  match fault.or settings.fault? with
  | some fault => .error fault
  | none => .ok settings

/-! ## Views -/

/-- Whether credentials are signed with the secret for development. -/
def hasDevelopmentSecret (settings : Settings) : Bool :=
  settings.get .secret == Setting.developmentSecret

/-- How long an access credential counts. -/
def accessTtl (settings : Settings) : Span := .ofSeconds (settings.get .accessTtl).val

/-- How long a refresh credential counts. -/
def refreshTtl (settings : Settings) : Span := .ofSeconds (settings.get .refreshTtl).val

/-- How long the rules stay in the cache. -/
def permissionsTtl (settings : Settings) : Span := .ofSeconds (settings.get .permissionsTtl).val

/-- How long a store may take to answer. -/
def storeTimeout (settings : Settings) : Span := .ofMillis (settings.get .storeTimeout).val

/-- The settings of a section in JSON. -/
def groupToJson (settings : Settings) (group : SettingsSection) : Json :=
  .ofMembers ((Setting.ofGroup group).map fun setting =>
    (setting.name, setting.kind.toJson (settings.get setting)))

/-- All settings in JSON. -/
def toJson (settings : Settings) : Json :=
  .ofMembers (SettingsSection.all.map fun group => (group.name, settings.groupToJson group))

end Settings

end Gatehouse
