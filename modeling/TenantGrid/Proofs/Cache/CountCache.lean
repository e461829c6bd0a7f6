import Mathlib.Data.List.Basic
import TenantGrid.Cache.CountCache
/-!
# What a cache holds

Every entry of a cache was put there: no operation makes up a count, and a lookup finds one that was
put under its key.
-/
namespace TenantGrid

namespace CachedCount

theorem mem_without {key : String} {entries : List CachedCount} {entry : CachedCount} :
    entry ∈ without key entries ↔ entry ∈ entries ∧ entry.key ≠ key := by
  simp [without]

private theorem mem_of_mem_dropOldest {n : Nat} {entries : List CachedCount} {entry : CachedCount}
    (h : entry ∈ dropOldest n entries) : entry ∈ entries := by
  induction n generalizing entries with
  | zero => exact h
  | succ n ih =>
    rw [dropOldest] at h
    split at h
    · exact h
    · exact (mem_without.mp (ih h)).1

end CachedCount

namespace CountCache

variable {cache : CountCache} {now : Nat} {key : String}

@[simp] theorem get_entries : (cache.get now key).2.entries = cache.entries := by
  unfold get
  split <;> rfl

/-- A hit is the count of an entry under the key that can still be used. -/
theorem get_hit {count : Nat} (h : (cache.get now key).1 = some count) :
    ∃ entry ∈ cache.entries, entry.key = key ∧ entry.count = count ∧
      entry.isFresh cache.lifetime now = true := by
  unfold get at h
  split at h
  · rename_i entry hfound
    obtain ⟨hfound, hfresh⟩ := Option.filter_eq_some_iff.mp hfound
    unfold find? at hfound
    have hkey : (entry.key == key) = true := by
      simpa using List.find?_some hfound
    exact ⟨entry, List.mem_of_find?_eq_some hfound, by simpa using hkey, Option.some.inj h, hfresh⟩
  · simp at h

theorem mem_of_mem_evict {entry : CachedCount} (h : entry ∈ (cache.evict now).entries) :
    entry ∈ cache.entries :=
  List.mem_of_mem_filter (CachedCount.mem_of_mem_dropOldest h)

/-- An insertion puts one entry, which may cost others their place. -/
theorem mem_insert {tenant : String} {count : Nat} {entry : CachedCount}
    (h : entry ∈ (cache.insert now key tenant count).entries) :
    entry = ⟨key, tenant, count, now⟩ ∨ entry ∈ cache.entries := by
  unfold insert at h
  rcases List.mem_append.mp h with h | h
  · have hmem := (CachedCount.mem_without.mp h).1
    split at hmem
    · exact Or.inr (mem_of_mem_evict hmem)
    · exact Or.inr hmem
  · exact Or.inl (List.mem_singleton.mp h)

theorem find?_insert (cache : CountCache) (now : Nat) (key tenant : String) (count : Nat) :
    (cache.insert now key tenant count).find? key = some ⟨key, tenant, count, now⟩ := by
  unfold find? insert
  rw [List.find?_append, List.find?_eq_none.mpr]
  · simp
  · intro entry hentry
    simpa using (CachedCount.mem_without.mp hentry).2

/-- What was just inserted is found as long as it can be used. -/
theorem get_insert {tenant : String} {count later : Nat} (h : later - now < cache.lifetime) :
    ((cache.insert now key tenant count).get later key).1 = some count := by
  have hfound := find?_insert cache now key tenant count
  have hlifetime : (cache.insert now key tenant count).lifetime = cache.lifetime := by
    unfold insert
    split <;> rfl
  have hfresh : CachedCount.isFresh cache.lifetime later ⟨key, tenant, count, now⟩ = true := by
    simpa [CachedCount.isFresh] using h
  unfold get
  rw [hfound, hlifetime, Option.filter_some, if_pos hfresh]

/-- An invalidation drops the entries of its tenant and keeps all others. -/
theorem mem_invalidate {tenant : String} {entry : CachedCount} :
    entry ∈ (cache.invalidate tenant).entries ↔ entry ∈ cache.entries ∧ entry.tenant ≠ tenant := by
  simp [invalidate]

end CountCache

end TenantGrid
