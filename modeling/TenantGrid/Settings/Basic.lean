import TenantGrid.Sql.DataType
/-!
# Settings

Where the store is, the limits of a page, and how counts are cached. Every setting has a value to
start from.
-/
namespace TenantGrid

structure StoreSettings where
  dialect : Sql.Dialect := .sqlite
  /-- The path of the database, with references to environment variables. -/
  path : Option String := none
  deriving DecidableEq

structure QuerySettings where
  defaultPageSize : UInt64 := 25
  maxPageSize : UInt64 := 500
  /-- Wildcards in the value of `doesNotContain` stand for themselves. -/
  escapeNegated : Bool := false
  deriving DecidableEq

structure CacheSettings where
  enabled : Bool := true
  lifetimeSeconds : UInt64 := 120
  maxEntries : UInt64 := 10000
  deriving DecidableEq

structure Settings where
  store : StoreSettings := {}
  query : QuerySettings := {}
  cache : CacheSettings := {}
  deriving DecidableEq

/-- What is wrong with settings that can be read. -/
inductive SettingsFault where
  | noPageAllowed
  | defaultPageSize (maxPageSize : UInt64)
  | noCacheEntries
  deriving DecidableEq

def SettingsFault.message : SettingsFault → String
  | noPageAllowed => "query.max_page_size must be greater than 0"
  | defaultPageSize maxPageSize =>
    "query.default_page_size must be between 1 and " ++ maxPageSize.toNat.repr
  | noCacheEntries => "cache.max_entries must be greater than 0 when the cache is enabled"

namespace Settings

def fault? (settings : Settings) : Option SettingsFault :=
  let query := settings.query
  if query.maxPageSize = 0 then some .noPageAllowed
  else if query.defaultPageSize = 0 ∨ query.maxPageSize < query.defaultPageSize then
    some (.defaultPageSize query.maxPageSize)
  else if settings.cache.enabled ∧ settings.cache.maxEntries = 0 then some .noCacheEntries
  else none

end Settings

/-- Why there are no settings. -/
inductive SettingsError where
  | notFound (path : String)
  | unreadable (reason : String)
  | malformed
  | missingVariable (name : String)
  | invalid (fault : SettingsFault)
  deriving DecidableEq

def SettingsError.message : SettingsError → String
  | notFound path => "Config file not found: " ++ path
  | unreadable reason => "Failed to read config file: " ++ reason
  | malformed => "Failed to parse config file"
  | missingVariable name => "Missing environment variable: " ++ name
  | invalid fault => "Invalid configuration: " ++ fault.message

/-- What an error comes from, where that has a message of its own. -/
def SettingsError.cause? : SettingsError → Option String
  | unreadable reason => some reason
  | _ => none

end TenantGrid
