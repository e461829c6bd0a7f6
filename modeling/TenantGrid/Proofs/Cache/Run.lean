import TenantGrid.Proofs.Cache.Eviction
/-!
# Runs of a cache

A run is a list of calls, each at a reading of the clock, that starts with nothing cached. What is
cached after it was put there by calls that no later call took back, there is never more of it than
there may be, and the counters account for every entry.
-/
namespace TenantGrid

open CachedCount

/-- What a cache is asked to do. -/
inductive CacheCall
  | get (key : String)
  | insert (key tenant : String) (count : Nat)
  | invalidate (tenant : String)
  deriving DecidableEq, Repr

namespace CountCache

def apply (cache : CountCache) (now : Nat) : CacheCall → CountCache
  | .get key => (cache.get now key).2
  | .insert key tenant count => cache.insert now key tenant count
  | .invalidate tenant => cache.invalidate tenant

def run (cache : CountCache) (calls : List (Nat × CacheCall)) : CountCache :=
  calls.foldl (fun cache call => cache.apply call.1 call.2) cache

/-- Whether an entry under the key takes a new place. -/
def isNew (cache : CountCache) (key : String) : Bool :=
  (cache.find? key).isNone

/-- An entry that was put by the last insertion under its key and that no invalidation took back. -/
def PutLast (calls : List (Nat × CacheCall)) (entry : CachedCount) : Prop :=
  ∃ earlier later, calls =
      earlier ++ (entry.computedAt, .insert entry.key entry.tenant entry.count) :: later ∧
    (∀ time tenant count, (time, CacheCall.insert entry.key tenant count) ∉ later) ∧
    ∀ time, (time, CacheCall.invalidate entry.tenant) ∉ later

variable {cache : CountCache} {now : Nat} {key tenant : String} {count : Nat} {call : CacheCall}
  {calls : List (Nat × CacheCall)}

private theorem isNew_iff : cache.isNew key = true ↔ ∀ entry ∈ cache.entries, entry.key ≠ key := by
  simp [isNew, find?]

private theorem insert_cases (cache : CountCache) (now : Nat) (key tenant : String) (count : Nat) :
    (cache.isNew key = true ∧ cache.maxEntries ≤ cache.entries.length ∧
      cache.insert now key tenant count = { cache.evict now with
        entries := (cache.evict now).entries ++ [⟨key, tenant, count, now⟩] }) ∨
    (¬ (cache.isNew key = true ∧ cache.maxEntries ≤ cache.entries.length) ∧
      cache.insert now key tenant count = { cache with
        entries := without key cache.entries ++ [⟨key, tenant, count, now⟩] }) := by
  by_cases hroom : cache.maxEntries ≤ cache.entries.length ∧ (cache.find? key).isNone = true
  · left
    refine ⟨hroom.2, hroom.1, ?_⟩
    have hkept : without key (cache.evict now).entries = (cache.evict now).entries := by
      apply without_eq_self
      intro entry hentry
      exact isNew_iff.mp hroom.2 entry (mem_of_mem_evict hentry)
    simp only [insert, if_pos hroom, hkept]
  · right
    refine ⟨fun h => hroom ⟨h.2, h.1⟩, ?_⟩
    simp only [insert, if_neg hroom]

private theorem apply_settings (cache : CountCache) (now : Nat) (call : CacheCall) :
    (cache.apply now call).lifetime = cache.lifetime ∧
      (cache.apply now call).maxEntries = cache.maxEntries := by
  cases call with
  | get key =>
    simp only [apply, get]
    split <;> exact ⟨rfl, rfl⟩
  | insert key tenant count =>
    rcases insert_cases cache now key tenant count with ⟨_, _, h⟩ | ⟨_, h⟩
    · rw [apply, h]
      exact ⟨rfl, rfl⟩
    · rw [apply, h]
      exact ⟨rfl, rfl⟩
  | invalidate tenant => exact ⟨rfl, rfl⟩

private theorem length_without_of_not_isNew (h : UniqueKeys cache.entries)
    (hnew : ¬ cache.isNew key = true) :
    (without key cache.entries).length + 1 = cache.entries.length := by
  obtain ⟨entry, hentry, hkey⟩ : ∃ entry ∈ cache.entries, entry.key = key := by
    by_contra hnone
    exact hnew (isNew_iff.mpr fun entry hentry hkey => hnone ⟨entry, hentry, hkey⟩)
  rw [← hkey]
  exact length_without h hentry

private theorem unique_append_new {entries : List CachedCount} {entry : CachedCount}
    (h : UniqueKeys entries) (hnew : ∀ other ∈ entries, other.key ≠ entry.key) :
    UniqueKeys (entries ++ [entry]) := by
  unfold UniqueKeys
  rw [List.map_append, List.nodup_append]
  refine ⟨h, by simp, ?_⟩
  intro key hkey other hother heq
  obtain ⟨found, hfound, rfl⟩ := List.mem_map.mp hkey
  have hother : other = entry.key := by simpa using hother
  exact hnew found hfound (heq.trans hother)

private theorem apply_unique (h : UniqueKeys cache.entries) (now : Nat) (call : CacheCall) :
    UniqueKeys (cache.apply now call).entries := by
  cases call with
  | get key => simpa [apply] using h
  | insert key tenant count =>
    rcases insert_cases cache now key tenant count with ⟨hnew, _, heq⟩ | ⟨_, heq⟩
    · rw [apply, heq]
      apply unique_append_new (h.sublist (evict_sublist cache now))
      intro other hother
      exact isNew_iff.mp hnew other (mem_of_mem_evict hother)
    · rw [apply, heq]
      apply unique_append_new (h.sublist (without_sublist key _))
      intro other hother
      exact (mem_without.mp hother).2
  | invalidate tenant => exact h.sublist List.filter_sublist

private theorem apply_length_le (h : UniqueKeys cache.entries) (hmax : 1 ≤ cache.maxEntries)
    (hlength : cache.entries.length ≤ cache.maxEntries) (now : Nat) (call : CacheCall) :
    (cache.apply now call).entries.length ≤ cache.maxEntries := by
  cases call with
  | get key => simpa [apply] using hlength
  | insert key tenant count =>
    rcases insert_cases cache now key tenant count with ⟨_, _, heq⟩ | ⟨hroom, heq⟩
    · have hkept := length_evict h now
      rw [apply, heq, List.length_append, List.length_singleton]
      omega
    · rw [apply, heq, List.length_append, List.length_singleton]
      by_cases hnew : cache.isNew key = true
      · have hshort : ¬ cache.maxEntries ≤ cache.entries.length := fun hfull => hroom ⟨hnew, hfull⟩
        have hle := (without_sublist key cache.entries).length_le
        omega
      · have hone := length_without_of_not_isNew h hnew
        omega
  | invalidate tenant => exact Nat.le_trans (List.length_filter_le _ _) hlength

private theorem PutLast.append {entry : CachedCount} (h : PutLast calls entry)
    (hinsert : ∀ tenant count, call ≠ .insert entry.key tenant count)
    (hinvalidate : call ≠ .invalidate entry.tenant) : PutLast (calls ++ [(now, call)]) entry := by
  obtain ⟨earlier, later, hcalls, hno, hkept⟩ := h
  refine ⟨earlier, later ++ [(now, call)], by simp [hcalls], ?_, ?_⟩
  · intro time tenant count hmem
    rcases List.mem_append.mp hmem with hmem | hmem
    · exact hno time tenant count hmem
    · have heq := List.mem_singleton.mp hmem
      exact hinsert tenant count (congrArg Prod.snd heq).symm
  · intro time hmem
    rcases List.mem_append.mp hmem with hmem | hmem
    · exact hkept time hmem
    · have heq := List.mem_singleton.mp hmem
      exact hinvalidate (congrArg Prod.snd heq).symm

private theorem apply_putLast (h : ∀ entry ∈ cache.entries, PutLast calls entry)
    {entry : CachedCount} (hentry : entry ∈ (cache.apply now call).entries) :
    PutLast (calls ++ [(now, call)]) entry := by
  cases call with
  | get key =>
    have hold : entry ∈ cache.entries := by simpa [apply] using hentry
    exact (h entry hold).append (by simp) (by simp)
  | insert key tenant count =>
    have hput : (entry ∈ cache.entries ∧ entry.key ≠ key) ∨ entry = ⟨key, tenant, count, now⟩ := by
      rcases insert_cases cache now key tenant count with ⟨hnew, _, heq⟩ | ⟨_, heq⟩
      · rw [apply, heq] at hentry
        rcases List.mem_append.mp hentry with hkept | hput
        · have hold := mem_of_mem_evict hkept
          exact Or.inl ⟨hold, isNew_iff.mp hnew entry hold⟩
        · exact Or.inr (List.mem_singleton.mp hput)
      · rw [apply, heq] at hentry
        rcases List.mem_append.mp hentry with hkept | hput
        · exact Or.inl (mem_without.mp hkept)
        · exact Or.inr (List.mem_singleton.mp hput)
    rcases hput with ⟨hold, hkey⟩ | rfl
    · apply (h entry hold).append
      · intro _ _ heq
        injection heq with hsame
        exact hkey hsame.symm
      · simp
    · exact ⟨calls, [], rfl, by simp, by simp⟩
  | invalidate tenant =>
    have hold := mem_invalidate.mp hentry
    apply (h entry hold.1).append
    · simp
    · intro heq
      injection heq with hsame
      exact hold.2 hsame.symm

/-- The sum of a number for each call of a run, in the cache that the call meets. -/
def total (number : CountCache → CacheCall → Nat) : CountCache → List (Nat × CacheCall) → Nat
  | _, [] => 0
  | cache, (now, call) :: rest => number cache call + total number (cache.apply now call) rest

def looksUp (_ : CountCache) : CacheCall → Nat
  | .get _ => 1
  | _ => 0

/-- The new places that a call takes. -/
def takes (cache : CountCache) : CacheCall → Nat
  | .insert key _ _ => if cache.isNew key then 1 else 0
  | _ => 0

/-- The entries that a call drops because their tenant is invalidated. -/
def drops (cache : CountCache) : CacheCall → Nat
  | .invalidate tenant => cache.entries.countP fun entry => entry.tenant = tenant
  | _ => 0

private theorem apply_attempts (cache : CountCache) (now : Nat) (call : CacheCall) :
    (cache.apply now call).hits + (cache.apply now call).misses =
      cache.hits + cache.misses + looksUp cache call := by
  cases call with
  | get key =>
    simp only [apply, get, looksUp]
    split <;> (simp only; omega)
  | insert key tenant count =>
    rcases insert_cases cache now key tenant count with ⟨_, _, h⟩ | ⟨_, h⟩
    · rw [apply, h]; rfl
    · rw [apply, h]; rfl
  | invalidate tenant => rfl

private theorem apply_places (h : UniqueKeys cache.entries) (now : Nat) (call : CacheCall) :
    (cache.apply now call).entries.length + (cache.apply now call).evictions +
        drops cache call =
      cache.entries.length + cache.evictions + takes cache call := by
  cases call with
  | get key =>
    simp only [apply, get, drops, takes]
    split <;> rfl
  | insert key tenant count =>
    rcases insert_cases cache now key tenant count with ⟨hnew, _, heq⟩ | ⟨_, heq⟩
    · have hle := (evict_sublist cache now).length_le
      have hevictions : (cache.evict now).evictions =
          cache.evictions + (cache.entries.length - (cache.evict now).entries.length) := rfl
      simp only [apply, heq, drops, takes, hnew, List.length_append, List.length_singleton]
      simp only [if_true, hevictions]
      omega
    · simp only [apply, heq, drops, takes, List.length_append, List.length_singleton]
      by_cases hnew : cache.isNew key = true
      · rw [if_pos hnew, without_eq_self (isNew_iff.mp hnew)]
        omega
      · have hone := length_without_of_not_isNew h hnew
        rw [if_neg hnew]
        omega
  | invalidate tenant =>
    have hsplit := List.length_eq_countP_add_countP (fun entry : CachedCount => entry.tenant = tenant)
      (l := cache.entries)
    simp only [apply, invalidate, drops, takes, ← List.countP_eq_length_filter]
    have hsame : List.countP (fun entry => entry.tenant != tenant) cache.entries =
        List.countP (fun entry => ¬ decide (entry.tenant = tenant) = true) cache.entries := by
      apply List.countP_congr
      simp
    omega

/-- What holds of a cache after the calls that it has had. -/
structure Tracks (lifetime maxEntries : Nat) (calls : List (Nat × CacheCall))
    (cache : CountCache) : Prop where
  lifetime_eq : cache.lifetime = lifetime
  maxEntries_eq : cache.maxEntries = maxEntries
  unique : UniqueKeys cache.entries
  length_le : cache.entries.length ≤ maxEntries
  putLast : ∀ entry ∈ cache.entries, PutLast calls entry

variable {lifetime maxEntries : Nat}

private theorem Tracks.apply (hmax : 1 ≤ maxEntries) (h : Tracks lifetime maxEntries calls cache)
    (now : Nat) (call : CacheCall) :
    Tracks lifetime maxEntries (calls ++ [(now, call)]) (cache.apply now call) where
  lifetime_eq := (apply_settings cache now call).1.trans h.lifetime_eq
  maxEntries_eq := (apply_settings cache now call).2.trans h.maxEntries_eq
  unique := apply_unique h.unique now call
  length_le := by
    have hle := apply_length_le h.unique
    rw [h.maxEntries_eq] at hle
    exact hle hmax h.length_le now call
  putLast := fun _ => apply_putLast h.putLast

private theorem Tracks.run (hmax : 1 ≤ maxEntries) {past : List (Nat × CacheCall)}
    (h : Tracks lifetime maxEntries past cache) (calls : List (Nat × CacheCall)) :
    Tracks lifetime maxEntries (past ++ calls) (cache.run calls) := by
  induction calls generalizing cache past with
  | nil => simpa [CountCache.run] using h
  | cons call rest ih =>
    have hrest := ih (h.apply hmax call.1 call.2)
    rwa [List.append_assoc] at hrest

private theorem tracks_empty (lifetime maxEntries : Nat) :
    Tracks lifetime maxEntries [] { lifetime, maxEntries } :=
  ⟨rfl, rfl, List.nodup_nil, Nat.zero_le _, by simp⟩

private theorem total_zero (cache : CountCache) (calls : List (Nat × CacheCall)) :
    total (fun _ _ => 0) cache calls = 0 := by
  induction calls generalizing cache with
  | nil => rfl
  | cons call rest ih => simp [total, ih]

private theorem run_total (measure : CountCache → Nat) (less : CountCache → CacheCall → Nat)
    {more : CountCache → CacheCall → Nat}
    (hstep : ∀ cache now call, UniqueKeys cache.entries →
      measure (cache.apply now call) + less cache call = measure cache + more cache call)
    (calls : List (Nat × CacheCall)) (cache : CountCache) (h : UniqueKeys cache.entries) :
    measure (cache.run calls) + total less cache calls =
      measure cache + total more cache calls := by
  induction calls generalizing cache with
  | nil => rfl
  | cons call rest ih =>
    have hone := hstep cache call.1 call.2 h
    have hrest := ih (cache.apply call.1 call.2) (apply_unique h call.1 call.2)
    have hrun : cache.run (call :: rest) = (cache.apply call.1 call.2).run rest := rfl
    rw [hrun]
    simp only [total]
    omega

/-- What an insertion leaves: the entry itself, and of the others all for which there is room. -/
structure Places (cache : CountCache) (now : Nat) (entry : CachedCount) (after : CountCache) :
    Prop where
  found : after.find? entry.key = some entry
  makes_room : cache.isNew entry.key = true → cache.maxEntries ≤ cache.entries.length →
    ∃ kept, after.entries = kept ++ [entry] ∧
      Relation.ReflTransGen (Round cache.maxEntries) (cache.fresh now) kept ∧
      kept.length = min (cache.fresh now).length (cache.maxEntries - 1)
  removes_nothing : ¬ (cache.isNew entry.key = true ∧ cache.maxEntries ≤ cache.entries.length) →
    ∀ other, other.key ≠ entry.key → (other ∈ after.entries ↔ other ∈ cache.entries)

private theorem insert_places (h : UniqueKeys cache.entries) (now : Nat) (key tenant : String)
    (count : Nat) :
    cache.Places now ⟨key, tenant, count, now⟩ (cache.insert now key tenant count) where
  found := find?_insert cache now key tenant count
  makes_room hnew hfull := by
    rcases insert_cases cache now key tenant count with ⟨_, _, heq⟩ | ⟨hroom, _⟩
    · refine ⟨(cache.evict now).entries, by rw [heq], (evict_rounds h now).1, length_evict h now⟩
    · exact absurd ⟨hnew, hfull⟩ hroom
  removes_nothing hroom other hother := by
    rcases insert_cases cache now key tenant count with ⟨hnew, hfull, _⟩ | ⟨_, heq⟩
    · exact absurd ⟨hnew, hfull⟩ hroom
    · rw [heq, List.mem_append, mem_without]
      have hne : other ≠ ⟨key, tenant, count, now⟩ := fun hsame => hother (by rw [hsame])
      simp [hne, hother]

/-- The cache after any run, and what the next call does with it. -/
theorem run_invariant (lifetime maxEntries : Nat) (calls : List (Nat × CacheCall))
    (hmax : 1 ≤ maxEntries) :
    let empty : CountCache := { lifetime, maxEntries }
    let cache := empty.run calls
    UniqueKeys cache.entries ∧ cache.entries.length ≤ maxEntries ∧
      (∀ now key count, (cache.get now key).1 = some count →
        ∃ entry, PutLast calls entry ∧ entry.key = key ∧ entry.count = count ∧
          now < entry.computedAt + lifetime) ∧
      (∀ now key tenant count,
        cache.Places now ⟨key, tenant, count, now⟩ (cache.insert now key tenant count)) ∧
      (∀ tenant entry, entry ∈ (cache.invalidate tenant).entries ↔
        entry ∈ cache.entries ∧ entry.tenant ≠ tenant) ∧
      cache.hits + cache.misses = total looksUp empty calls ∧
      total takes empty calls =
        cache.entries.length + cache.evictions + total drops empty calls ∧
      ∀ (state : CountCache) (now : Nat), UniqueKeys state.entries →
        (WellFounded fun next entries => Round state.maxEntries entries next) ∧
        Relation.ReflTransGen (Round state.maxEntries) (state.fresh now)
          (state.evict now).entries ∧
        ∀ next, ¬ Round state.maxEntries (state.evict now).entries next := by
  intro empty cache
  have htracks : Tracks lifetime maxEntries calls cache :=
    (tracks_empty lifetime maxEntries).run hmax calls
  refine ⟨htracks.unique, htracks.length_le, ?_, ?_, fun _ _ => mem_invalidate, ?_, ?_, ?_⟩
  · intro now key count hhit
    obtain ⟨entry, hentry, hkey, hcount, hfresh⟩ := get_hit hhit
    refine ⟨entry, htracks.putLast entry hentry, hkey, hcount, ?_⟩
    rw [htracks.lifetime_eq] at hfresh
    have hage : now - entry.computedAt < lifetime := by simpa [isFresh] using hfresh
    omega
  · intro now key tenant count
    exact insert_places htracks.unique now key tenant count
  · have hall := run_total (fun cache => cache.hits + cache.misses) (fun _ _ => 0)
      (fun cache now call _ => apply_attempts cache now call) calls empty List.nodup_nil
    rw [total_zero] at hall
    simpa [empty, cache] using hall
  · have hall := run_total (fun cache => cache.entries.length + cache.evictions) drops
      (fun cache now call h => apply_places h now call) calls empty List.nodup_nil
    simpa [empty, cache] using hall.symm
  · intro state now hstate
    exact ⟨Round.wellFounded state.maxEntries, evict_rounds hstate now⟩

def sampleCalls : List (Nat × CacheCall) :=
  [(0, .insert "a" "s" 1), (1, .insert "b" "t" 2), (2, .get "a"), (3, .insert "c" "t" 3),
    (4, .invalidate "s"), (5, .get "a")]

theorem run_invariant_sample :
    let cache := run { lifetime := 10, maxEntries := 2 } sampleCalls
    cache.entries.length ≤ 2 ∧ (cache.get 6 "b").1 = some 2 ∧
      (∃ entry, PutLast sampleCalls entry ∧ entry.key = "b" ∧ entry.count = 2 ∧
        6 < entry.computedAt + 10) ∧ cache.hits + cache.misses = 2 ∧ cache.evictions = 1 := by
  intro cache
  have hhit : (cache.get 6 "b").1 = some 2 := by decide
  obtain ⟨_, hlength, hget, _, _, hlookups, _, _⟩ := run_invariant 10 2 sampleCalls (by decide)
  exact ⟨hlength, hhit, hget 6 "b" 2 hhit, hlookups, by decide⟩

end CountCache

end TenantGrid
