import TenantGrid.Settings.Basic
import TenantGrid.Toml.Reader
/-!
# Reading settings

Settings in TOML. What a document leaves out keeps its first value, and names that are not known
are passed over. A group of settings may also be a list of its values in order.
-/
namespace TenantGrid

namespace Toml

/-- The values of a group by their names, from a table or a list. A date or time is a group that
gives none of its names. -/
def fields? (names : List String) : Toml → Option TomlEntries
  | table _ entries => some entries
  | array items => some (names.zip items)
  | tables reversed => some (names.zip (reversed.reverse.map (table .headed)))
  | moment _ => some []
  | _ => none

def toBool? : Toml → Option Bool
  | bool b => some b
  | _ => none

def toText? : Toml → Option String
  | string s => some s
  | _ => none

/-- A whole number from 0 to 2 ^ 64 - 1. -/
def toCount? : Toml → Option UInt64
  | integer n => if 0 ≤ n ∧ n < UInt64.size then some (.ofNat n.toNat) else none
  | _ => none

/-- An array or table without a value in it. -/
def isEmpty : Toml → Bool
  | array [] | tables [] | table _ [] => true
  | _ => false

/-- The name of a choice, or a table that has only this name and nothing under it. -/
def toName? : Toml → Option String
  | string s => some s
  | table _ [(name, value)] => if value.isEmpty then some name else none
  | _ => none

end Toml

namespace TomlEntries

/-- The value of a name, or what stands for it when it is not given. -/
def field {α : Type} (entries : TomlEntries) (name : String) (read : Toml → Option α) (absent : α) :
    Option α :=
  match entries.lookup name with
  | some value => read value
  | none => some absent

end TomlEntries

namespace Settings

private def readDialect? (value : Toml) : Option Sql.Dialect :=
  value.toName? >>= fun name => [("postgres", .postgres), ("sqlite", .sqlite)].lookup name

private def readStore? (value : Toml) : Option StoreSettings := do
  let fields ← value.fields? ["dialect", "path"]
  let dialect ← fields.field "dialect" readDialect? .sqlite
  let path ← fields.field "path" (fun v => v.toText?.map some) none
  some { dialect, path }

private def readQuery? (value : Toml) : Option QuerySettings := do
  let fields ← value.fields? ["default_page_size", "max_page_size", "escape_does_not_contain"]
  let standard : QuerySettings := {}
  let defaultPageSize ← fields.field "default_page_size" Toml.toCount? standard.defaultPageSize
  let maxPageSize ← fields.field "max_page_size" Toml.toCount? standard.maxPageSize
  let escapeNegated ← fields.field "escape_does_not_contain" Toml.toBool? standard.escapeNegated
  some { defaultPageSize, maxPageSize, escapeNegated }

private def readCache? (value : Toml) : Option CacheSettings := do
  let fields ← value.fields? ["enabled", "ttl_seconds", "max_entries"]
  let standard : CacheSettings := {}
  let enabled ← fields.field "enabled" Toml.toBool? standard.enabled
  let lifetimeSeconds ← fields.field "ttl_seconds" Toml.toCount? standard.lifetimeSeconds
  let maxEntries ← fields.field "max_entries" Toml.toCount? standard.maxEntries
  some { enabled, lifetimeSeconds, maxEntries }

private def ofEntries? (entries : TomlEntries) : Option Settings := do
  let store ← entries.field "database" readStore? {}
  let query ← entries.field "query" readQuery? {}
  let cache ← entries.field "cache" readCache? {}
  some { store, query, cache }

/-- The settings of a TOML text. -/
def ofText (text : String) : Except SettingsError Settings :=
  match Toml.ofText? text >>= ofEntries? with
  | none => .error .malformed
  | some settings =>
    match settings.fault? with
    | some fault => .error (.invalid fault)
    | none => .ok settings

end Settings

end TenantGrid
