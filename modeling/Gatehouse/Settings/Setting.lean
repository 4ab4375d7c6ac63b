import Gatehouse.Settings.Kind

/-!
# The settings

There are twenty settings in six sections. Section and name give the variable
that overrides a setting.
-/

namespace Gatehouse

/-- The sections of the settings file. -/
inductive SettingsSection where
  | app | auth | interceptor | cache | database | log
  deriving DecidableEq, Repr

namespace SettingsSection

/-- Every section. -/
def all : List SettingsSection := [.app, .auth, .interceptor, .cache, .database, .log]

/-- The name of a section. -/
def name : SettingsSection → String
  | .app => "app"
  | .auth => "auth"
  | .interceptor => "interceptor"
  | .cache => "cache"
  | .database => "database"
  | .log => "log"

end SettingsSection

/-- One of the settings. -/
inductive Setting where
  | appName
  | host
  | port
  /-- The secret that credentials are signed with. -/
  | secret
  | accessTtl
  | refreshTtl
  | leeway
  | trackSessions
  | order
  | onLookupFailure
  | singleFlight
  | audit
  | auditCapacity
  | cacheBackend
  | redisUrl
  | permissionsTtl
  | storeTimeout
  | databaseUrl
  | logFilter
  | logJson
  deriving DecidableEq, Repr

namespace Setting

/-- Every setting, in the order in which overrides are applied. -/
def all : List Setting :=
  [.appName, .host, .port, .secret, .accessTtl, .refreshTtl, .leeway, .trackSessions, .order,
    .onLookupFailure, .singleFlight, .audit, .auditCapacity, .cacheBackend, .redisUrl,
    .permissionsTtl, .storeTimeout, .databaseUrl, .logFilter, .logJson]

/-- The section of a setting. -/
def group : Setting → SettingsSection
  | .appName | .host | .port | .secret => .app
  | .accessTtl | .refreshTtl | .leeway | .trackSessions => .auth
  | .order | .onLookupFailure | .singleFlight | .audit | .auditCapacity => .interceptor
  | .cacheBackend | .redisUrl | .permissionsTtl | .storeTimeout => .cache
  | .databaseUrl => .database
  | .logFilter | .logJson => .log

/-- The name of a setting in its section. -/
def name : Setting → String
  | .appName => "name"
  | .host => "host"
  | .port => "port"
  | .secret => "secret"
  | .accessTtl => "access_ttl_secs"
  | .refreshTtl => "refresh_ttl_secs"
  | .leeway => "leeway_secs"
  | .trackSessions => "track_sessions"
  | .order => "order"
  | .onLookupFailure => "on_lookup_failure"
  | .singleFlight => "single_flight"
  | .audit => "audit"
  | .auditCapacity => "audit_queue_capacity"
  | .cacheBackend => "backend"
  | .redisUrl => "redis_url"
  | .permissionsTtl => "permissions_ttl_secs"
  | .storeTimeout => "store_timeout_ms"
  | .databaseUrl => "url"
  | .logFilter => "filter"
  | .logJson => "json"

/-- The settings of a section in their order. -/
def ofGroup (group : SettingsSection) : List Setting :=
  all.filter fun setting => setting.group == group

/-- The name of a setting with its section. -/
def path (setting : Setting) : String := setting.group.name ++ "." ++ setting.name

/-- What the names of all variables begin with. -/
def variableMark : String := "WARDEN_"

/-- The variable that overrides a setting. -/
def variableName (setting : Setting) : String :=
  variableMark ++ (setting.group.name ++ "_" ++ setting.name).toUpper

/-- The values of a setting. -/
abbrev Value : Setting → Type
  | .appName | .host | .secret | .redisUrl | .logFilter => String
  | .databaseUrl => Option String
  | .port => Fin UInt16.size
  | .accessTtl | .refreshTtl | .leeway | .auditCapacity | .permissionsTtl | .storeTimeout =>
      Fin UInt64.size
  | .trackSessions | .singleFlight | .audit | .logJson => Bool
  | .order => ExecutionOrder
  | .onLookupFailure => LookupFailurePolicy
  | .cacheBackend => CacheBackend

/-- How a setting is read and shown. -/
def kind : (setting : Setting) → SettingKind setting.Value
  | .appName | .host | .secret | .redisUrl | .logFilter => .text
  | .databaseUrl => .optionalText
  | .port => .number UInt16.size (by decide)
  | .accessTtl | .refreshTtl | .leeway | .auditCapacity | .permissionsTtl | .storeTimeout =>
      .number UInt64.size (by decide)
  | .trackSessions | .singleFlight | .audit | .logJson => .flag
  | .order => .named ExecutionOrder.choice
  | .onLookupFailure => .named LookupFailurePolicy.choice
  | .cacheBackend => .named CacheBackend.choice

/-- The secret that stands where none is set; it is only fit for development. -/
def developmentSecret : String := "warden-insecure-dev-secret"

/-- The value of a setting that is given nowhere. -/
def default : (setting : Setting) → setting.Value
  | .appName => "warden"
  | .host => "0.0.0.0"
  | .port => ⟨8000, by decide⟩
  | .secret => developmentSecret
  | .accessTtl => ⟨3600, by decide⟩
  | .refreshTtl => ⟨86400, by decide⟩
  | .leeway => ⟨0, by decide⟩
  | .trackSessions => false
  | .order => ExecutionOrder.executeThenAuthorize
  | .onLookupFailure => LookupFailurePolicy.failOpen
  | .singleFlight => false
  | .audit => true
  | .auditCapacity => ⟨1024, by decide⟩
  | .cacheBackend => CacheBackend.memory
  | .redisUrl => "redis://localhost:6379"
  | .permissionsTtl => ⟨604800, by decide⟩
  | .storeTimeout => ⟨2000, by decide⟩
  | .databaseUrl => none
  | .logFilter => "info"
  | .logJson => true

theorem mem_all (setting : Setting) : setting ∈ all := by cases setting <;> decide

end Setting

end Gatehouse
