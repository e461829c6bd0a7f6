import TenantGrid.Number.Double
/-!
# Cached counts

How many artists match is remembered for a while under a key. The number of entries is bounded:
a new key that finds no room makes it, first by dropping the entries that are too old to be used,
then the oldest ones. Times are readings of one clock, in nanoseconds.
-/
namespace TenantGrid

/-- A count, the tenant it was made for and the time it was made. -/
structure CachedCount where
  key : String
  tenant : String
  count : Nat
  computedAt : Nat
  deriving DecidableEq, Repr

structure CountCache where
  /-- How long an entry can be used. -/
  lifetime : Nat
  maxEntries : Nat
  entries : List CachedCount := []
  hits : Nat := 0
  misses : Nat := 0
  evictions : Nat := 0
  deriving DecidableEq, Repr

namespace CachedCount

/-- Made less than a lifetime ago. -/
def isFresh (lifetime now : Nat) (entry : CachedCount) : Bool :=
  now - entry.computedAt < lifetime

/-- The first of the entries that were made earliest. -/
def oldest? : List CachedCount → Option CachedCount
  | [] => none
  | entry :: rest =>
    match oldest? rest with
    | none => some entry
    | some other => some (if entry.computedAt ≤ other.computedAt then entry else other)

def without (key : String) (entries : List CachedCount) : List CachedCount :=
  entries.filter fun entry => entry.key != key

/-- The entries less so many of the oldest. -/
def dropOldest : Nat → List CachedCount → List CachedCount
  | 0, entries => entries
  | n + 1, entries =>
    match oldest? entries with
    | none => entries
    | some entry => dropOldest n (without entry.key entries)

end CachedCount

namespace CountCache

def secondsToTicks (seconds : Nat) : Nat :=
  seconds * 1000000000

def find? (cache : CountCache) (key : String) : Option CachedCount :=
  cache.entries.find? fun entry => entry.key == key

/-- The count under a key that can still be used, and the cache with the attempt counted. -/
def get (cache : CountCache) (now : Nat) (key : String) : Option Nat × CountCache :=
  match (cache.find? key).filter (CachedCount.isFresh cache.lifetime now) with
  | some entry => (some entry.count, { cache with hits := cache.hits + 1 })
  | none => (none, { cache with misses := cache.misses + 1 })

/-- The cache with room for one entry, if it may hold any. -/
def evict (cache : CountCache) (now : Nat) : CountCache :=
  let fresh := cache.entries.filter (CachedCount.isFresh cache.lifetime now)
  let kept := CachedCount.dropOldest (fresh.length + 1 - cache.maxEntries) fresh
  { cache with
    entries := kept
    evictions := cache.evictions + (cache.entries.length - kept.length) }

/-- The cache with a count under a key, in place of an earlier one. -/
def insert (cache : CountCache) (now : Nat) (key tenant : String) (count : Nat) : CountCache :=
  let roomy :=
    if cache.maxEntries ≤ cache.entries.length ∧ (cache.find? key).isNone then cache.evict now
    else cache
  { roomy with
    entries := CachedCount.without key roomy.entries ++ [⟨key, tenant, count, now⟩] }

/-- The cache without the counts of one tenant. -/
def invalidate (cache : CountCache) (tenant : String) : CountCache :=
  { cache with entries := cache.entries.filter fun entry => entry.tenant != tenant }

/-- The share of attempts that found a count, zero if there were none. -/
def hitRate (cache : CountCache) : Double :=
  let attempts := cache.hits + cache.misses
  if attempts = 0 then .ofNat 0 else .ofNat cache.hits / .ofNat attempts

end CountCache

end TenantGrid
