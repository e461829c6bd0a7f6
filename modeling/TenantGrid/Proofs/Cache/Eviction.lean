import Mathlib.Data.List.Nodup
import Mathlib.Logic.Relation
import TenantGrid.Proofs.Cache.CountCache
/-!
# Making room in a cache

Room is made by rounds: as long as there are too many entries, one that was made earliest goes. The
rounds come to an end whatever the bound is, and the entries that are kept are those left at that end.
-/
namespace TenantGrid

namespace CachedCount

/-- No two entries are under one key, as in any map. -/
def UniqueKeys (entries : List CachedCount) : Prop :=
  (entries.map key).Nodup

theorem UniqueKeys.sublist {entries others : List CachedCount} (h : UniqueKeys entries)
    (hsub : others.Sublist entries) : UniqueKeys others :=
  List.Nodup.sublist (hsub.map key) h

theorem without_sublist (key : String) (entries : List CachedCount) :
    (without key entries).Sublist entries :=
  List.filter_sublist

theorem without_eq_self {key : String} {entries : List CachedCount}
    (h : ∀ entry ∈ entries, entry.key ≠ key) : without key entries = entries := by
  apply List.filter_eq_self.mpr
  intro entry hentry
  simpa using h entry hentry

theorem length_without {entries : List CachedCount} {entry : CachedCount} (h : UniqueKeys entries)
    (hmem : entry ∈ entries) : (without entry.key entries).length + 1 = entries.length := by
  induction entries with
  | nil => simp at hmem
  | cons first rest ih =>
    have hnodup : first.key ∉ rest.map key ∧ (rest.map key).Nodup := List.nodup_cons.mp h
    by_cases hfirst : first.key = entry.key
    · have hrest : without entry.key rest = rest := by
        apply without_eq_self
        intro other hother heq
        exact hnodup.1 (hfirst.trans heq.symm ▸ List.mem_map_of_mem hother)
      have hcons : without entry.key (first :: rest) = without entry.key rest := by
        simp [without, hfirst]
      rw [hcons, hrest, List.length_cons]
    · have hin : entry ∈ rest := by
        rcases List.mem_cons.mp hmem with heq | hin
        · exact absurd (congrArg key heq).symm hfirst
        · exact hin
      have hcons : without entry.key (first :: rest) = first :: without entry.key rest := by
        simp [without, hfirst]
      rw [hcons, List.length_cons, List.length_cons, ih hnodup.2 hin]

private theorem oldest?_eq_none {entries : List CachedCount} :
    oldest? entries = none ↔ entries = [] := by
  cases entries with
  | nil => simp [oldest?]
  | cons first rest => cases hrest : oldest? rest <;> simp [oldest?, hrest]

private theorem oldest?_spec {entries : List CachedCount} {entry : CachedCount}
    (h : oldest? entries = some entry) :
    entry ∈ entries ∧ ∀ other ∈ entries, entry.computedAt ≤ other.computedAt := by
  induction entries generalizing entry with
  | nil => simp [oldest?] at h
  | cons first rest ih =>
    cases hrest : oldest? rest with
    | none =>
      have hnil : rest = [] := oldest?_eq_none.mp hrest
      have heq : first = entry := by simpa [oldest?, hrest] using h
      simp [hnil, heq]
    | some least =>
      have hleast := ih hrest
      by_cases hle : first.computedAt ≤ least.computedAt
      · have heq : first = entry := by simpa [oldest?, hrest, hle] using h
        rw [← heq]
        refine ⟨List.mem_cons_self, ?_⟩
        intro other hother
        rcases List.mem_cons.mp hother with hother | hother
        · simp [hother]
        · exact Nat.le_trans hle (hleast.2 other hother)
      · have heq : least = entry := by simpa [oldest?, hrest, hle] using h
        rw [← heq]
        refine ⟨List.mem_cons_of_mem _ hleast.1, ?_⟩
        intro other hother
        rcases List.mem_cons.mp hother with hother | hother
        · rw [hother]
          omega
        · exact hleast.2 other hother

private theorem dropOldest_sublist (n : Nat) (entries : List CachedCount) :
    (dropOldest n entries).Sublist entries := by
  induction n generalizing entries with
  | zero => exact List.Sublist.refl entries
  | succ n ih =>
    rw [dropOldest]
    split
    · exact List.Sublist.refl entries
    · exact (ih _).trans (without_sublist _ entries)

private theorem length_dropOldest {entries : List CachedCount} (h : UniqueKeys entries) (n : Nat) :
    (dropOldest n entries).length = entries.length - n := by
  induction n generalizing entries with
  | zero => rfl
  | succ n ih =>
    rw [dropOldest]
    split
    · rename_i hnone
      simp [oldest?_eq_none.mp hnone]
    · rename_i entry hsome
      have hone := length_without h (oldest?_spec hsome).1
      rw [ih (h.sublist (without_sublist _ _))]
      omega

/-- One round: where there are as many entries as there may be, one that was made earliest goes. -/
inductive Round (maxEntries : Nat) : List CachedCount → List CachedCount → Prop
  | drop {entries : List CachedCount} {entry : CachedCount} (hfull : maxEntries ≤ entries.length)
      (hmem : entry ∈ entries) (hold : ∀ other ∈ entries, entry.computedAt ≤ other.computedAt) :
      Round maxEntries entries (without entry.key entries)

variable {maxEntries : Nat} {entries next : List CachedCount}

private theorem Round.length_lt (h : Round maxEntries entries next) :
    next.length < entries.length := by
  cases h with
  | @drop entry _ hmem _ =>
    apply List.length_filter_lt_length_iff_exists.mpr
    exact ⟨entry, hmem, by simp⟩

/-- No run of rounds goes on for ever, whatever the bound. -/
theorem Round.wellFounded (maxEntries : Nat) :
    WellFounded fun next entries => Round maxEntries entries next := by
  apply Subrelation.wf _ (measure List.length).wf
  intro next entries h
  exact h.length_lt

private theorem not_round (h : entries.length < maxEntries ∨ entries = []) :
    ¬ Round maxEntries entries next := by
  intro hround
  cases hround with
  | @drop entry hfull hmem _ =>
    rcases h with h | h
    · omega
    · rw [h] at hmem
      exact List.not_mem_nil hmem

private theorem dropOldest_rounds (h : UniqueKeys entries) {n : Nat}
    (hn : n ≤ entries.length + 1 - maxEntries) :
    Relation.ReflTransGen (Round maxEntries) entries (dropOldest n entries) := by
  induction n generalizing entries with
  | zero => exact Relation.ReflTransGen.refl
  | succ n ih =>
    rw [dropOldest]
    split
    · exact Relation.ReflTransGen.refl
    · rename_i entry hsome
      have hspec := oldest?_spec hsome
      have hone := length_without h hspec.1
      have hround : Round maxEntries entries (without entry.key entries) :=
        Round.drop (by omega) hspec.1 hspec.2
      have hrest := ih (h.sublist (without_sublist entry.key entries)) (by omega)
      exact Relation.ReflTransGen.head hround hrest

end CachedCount

namespace CountCache

open CachedCount

/-- The entries that can still be used. -/
def fresh (cache : CountCache) (now : Nat) : List CachedCount :=
  cache.entries.filter (isFresh cache.lifetime now)

variable {cache : CountCache} {now : Nat}

private theorem fresh_unique (h : UniqueKeys cache.entries) : UniqueKeys (cache.fresh now) :=
  h.sublist List.filter_sublist

private theorem evict_entries : (cache.evict now).entries =
    dropOldest ((cache.fresh now).length + 1 - cache.maxEntries) (cache.fresh now) :=
  rfl

theorem evict_sublist (cache : CountCache) (now : Nat) :
    (cache.evict now).entries.Sublist cache.entries :=
  (dropOldest_sublist _ _).trans List.filter_sublist

theorem length_evict (h : UniqueKeys cache.entries) (now : Nat) :
    (cache.evict now).entries.length = min (cache.fresh now).length (cache.maxEntries - 1) := by
  rw [evict_entries, length_dropOldest (fresh_unique h)]
  omega

/-- Room is made by rounds from the entries that can still be used, and they stop there. -/
theorem evict_rounds (h : UniqueKeys cache.entries) (now : Nat) :
    Relation.ReflTransGen (Round cache.maxEntries) (cache.fresh now) (cache.evict now).entries ∧
      ∀ next, ¬ Round cache.maxEntries (cache.evict now).entries next := by
  constructor
  · exact dropOldest_rounds (fresh_unique h) (Nat.le_refl _)
  · intro next
    apply not_round
    have hlength := length_evict h now
    by_cases hmax : cache.maxEntries = 0
    · right
      apply List.length_eq_zero_iff.mp
      omega
    · left
      omega

end CountCache

end TenantGrid
