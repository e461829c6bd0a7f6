import TenantGrid.Filter.Joins
import TenantGrid.Proofs.Number.Written
/-!
# Aliases of joins

Joins that are only ever allocated are numbered without gaps within their word, so that the next
alias is that of no join before it.
-/
namespace TenantGrid

/-- The alias with the given number. -/
def JoinTarget.numbered (target : JoinTarget) (number : Nat) : String :=
  target.aliasWord ++ "_" ++ number.repr

private theorem JoinTarget.numbered_inj {s t : JoinTarget} {m n : Nat}
    (h : s.numbered m = t.numbered n) : s.aliasWord = t.aliasWord ∧ m = n := by
  have hsplit : s.aliasWord = t.aliasWord ∧ m.repr = n.repr := by
    unfold numbered at h
    cases s <;> cases t <;> simp_all [aliasWord, ← String.toList_inj]
  exact ⟨hsplit.1, natRepr_injective hsplit.2⟩

private theorem JoinTarget.numbered_ne_artists (target : JoinTarget) (number : Nat) :
    target.numbered number ≠ Schema.artists.name := by
  cases target <;> simp [numbered, aliasWord, Schema.artists, ← String.toList_inj]

namespace JoinSet

/-- Joins that were allocated one after another, beginning with those of a start. -/
inductive AllocatedFrom (start : JoinSet) : JoinSet → Prop
  | start : AllocatedFrom start start
  | allocate {joins : JoinSet} (target : JoinTarget) :
    AllocatedFrom start joins → AllocatedFrom start (joins.allocate target)

/-- Joins that were allocated one after another, beginning with none. -/
abbrev Allocated : JoinSet → Prop :=
  AllocatedFrom []

theorem AllocatedFrom.trans {start middle joins : JoinSet} (h : AllocatedFrom start middle)
    (h' : AllocatedFrom middle joins) : AllocatedFrom start joins := by
  induction h' with
  | start => exact h
  | allocate target _ ih => exact .allocate target ih

theorem AllocatedFrom.exists_append {start joins : JoinSet} (h : AllocatedFrom start joins) :
    ∃ more, joins = start ++ more := by
  induction h with
  | start => exact ⟨[], (List.append_nil start).symm⟩
  | @allocate joins target _ ih =>
    obtain ⟨more, rfl⟩ := ih
    exact ⟨more ++ [⟨target, JoinSet.nextAlias _ target⟩], List.append_assoc _ _ _⟩

/-- How many joins have aliases of the target's word. -/
def countWord (joins : JoinSet) (target : JoinTarget) : Nat :=
  joins.countP fun j => j.target.aliasWord == target.aliasWord

theorem nextAlias_eq (joins : JoinSet) (target : JoinTarget) :
    joins.nextAlias target = target.numbered (joins.countWord target + 1) :=
  rfl

private theorem countWord_allocate (joins : JoinSet) (s t : JoinTarget) :
    (joins.allocate s).countWord t =
      joins.countWord t + if s.aliasWord = t.aliasWord then 1 else 0 := by
  simp [allocate, countWord, List.countP_append, List.countP_singleton]

/-- No alias has a number beyond the joins of its word. -/
theorem AllocatedFrom.numbered {joins : JoinSet} (h : joins.Allocated) :
    ∀ j ∈ joins, ∃ n ≤ joins.countWord j.target, j.aliasName = j.target.numbered n := by
  induction h with
  | start => simp
  | @allocate joins target _ ih =>
    intro j hj
    rcases List.mem_append.mp hj with hj | hj
    · obtain ⟨n, hn, heq⟩ := ih j hj
      refine ⟨n, ?_, heq⟩
      rw [countWord_allocate]
      omega
    · obtain rfl := List.mem_singleton.mp hj
      refine ⟨joins.countWord target + 1, ?_, nextAlias_eq joins target⟩
      simp [countWord_allocate]

theorem AllocatedFrom.nextAlias_fresh {joins : JoinSet} (h : joins.Allocated) (target : JoinTarget) :
    ∀ j ∈ joins, j.aliasName ≠ joins.nextAlias target := by
  intro j hj heq
  obtain ⟨n, hn, hname⟩ := h.numbered j hj
  rw [hname, nextAlias_eq] at heq
  obtain ⟨hword, hnumber⟩ := JoinTarget.numbered_inj heq
  have hcount : joins.countWord j.target = joins.countWord target := by
    unfold countWord
    rw [hword]
  omega

theorem nextAlias_ne_artists (joins : JoinSet) (target : JoinTarget) :
    joins.nextAlias target ≠ Schema.artists.name :=
  target.numbered_ne_artists _

/-- No two rows of a query go by one name. -/
theorem AllocatedFrom.nodup {joins : JoinSet} (h : joins.Allocated) :
    (Schema.artists.name :: joins.map JoinedTable.aliasName).Nodup := by
  induction h with
  | start => simp
  | @allocate joins target hjoins ih =>
    have hfresh : joins.nextAlias target ∉ Schema.artists.name :: joins.map JoinedTable.aliasName := by
      intro hmem
      rcases List.mem_cons.mp hmem with heq | hmem
      · exact joins.nextAlias_ne_artists target heq
      · obtain ⟨j, hj, heq⟩ := List.mem_map.mp hmem
        exact hjoins.nextAlias_fresh target j hj heq
    rw [JoinSet.allocate, List.map_append, ← List.cons_append]
    refine List.nodup_append.mpr ⟨ih, by simp, fun name hname other hother => ?_⟩
    obtain rfl : other = joins.nextAlias target := by simpa using hother
    exact fun heq => hfresh (heq ▸ hname)

end JoinSet

end TenantGrid
