import Mathlib.Data.List.Induction
import TenantGrid.Proofs.Filter.Aliases
/-!
# Calls for joins

Joins change only by calls for an alias, each of which leaves the joins before it where they are. So the
joins of one word are numbered in the order in which they came, and a target keeps its first join.
-/
namespace TenantGrid.JoinSet

/-- What is asked of joins: the alias to come, a join of its own, or one that may be there already. -/
inductive Call where
  | next (target : JoinTarget)
  | allocate (target : JoinTarget)
  | reuse (target : JoinTarget)

/-- The alias that a call is answered with, and the joins that it leaves. -/
def answer (joins : JoinSet) : Call → String × JoinSet
  | .next target => (joins.nextAlias target, joins)
  | .allocate target => (joins.nextAlias target, joins.allocate target)
  | .reuse target => joins.reuseOrAllocate target

/-- The joins after calls one after another. -/
def after (joins : JoinSet) (calls : List Call) : JoinSet :=
  calls.foldl (fun joins call => (joins.answer call).2) joins

/-- Whether a join is the first one of its target. -/
def IsFirst (joins : JoinSet) (target : JoinTarget) (j : JoinedTable) : Prop :=
  j.target = target ∧ ∃ earlier later, joins = earlier ++ j :: later ∧ ∀ k ∈ earlier, k.target ≠ target

/-- Whether aliases are different, and those of one word numbered from one in the order of the joins. -/
structure IsNumbered (joins : JoinSet) : Prop where
  nodup : (joins.map JoinedTable.aliasName).Nodup
  numbered : ∀ word k j, (joins.filter fun j => j.target.aliasWord == word)[k]? = some j →
    j.aliasName = word ++ "_" ++ (k + 1).repr

@[simp] theorem after_nil (joins : JoinSet) : joins.after [] = joins :=
  rfl

theorem after_append (joins : JoinSet) (calls more : List Call) :
    joins.after (calls ++ more) = (joins.after calls).after more :=
  List.foldl_append

theorem find?_eq_some_iff {joins : JoinSet} {target : JoinTarget} {j : JoinedTable} :
    joins.find? (fun k => k.target == target) = some j ↔ joins.IsFirst target j := by
  rw [List.find?_eq_some_iff_append, IsFirst]
  simp

private theorem find?_eq_none_iff {joins : JoinSet} {target : JoinTarget} :
    joins.find? (fun k => k.target == target) = none ↔ ∀ j ∈ joins, j.target ≠ target := by
  simp [List.find?_eq_none]

theorem IsFirst.append {joins : JoinSet} {target : JoinTarget} {j : JoinedTable}
    (h : joins.IsFirst target j) (more : JoinSet) : IsFirst (joins ++ more) target j := by
  obtain ⟨htarget, earlier, later, rfl, hearlier⟩ := h
  exact ⟨htarget, earlier, later ++ more, by simp, hearlier⟩

/-- A target that has a join keeps it. -/
theorem IsFirst.reuseOrAllocate {joins : JoinSet} {target : JoinTarget} {j : JoinedTable}
    (h : joins.IsFirst target j) : joins.reuseOrAllocate target = (j.aliasName, joins) := by
  rw [JoinSet.reuseOrAllocate, find?_eq_some_iff.mpr h]

/-- A target without a join gets one of its own. -/
theorem reuseOrAllocate_of_new {joins : JoinSet} {target : JoinTarget}
    (h : ∀ j ∈ joins, j.target ≠ target) :
    joins.reuseOrAllocate target = (joins.nextAlias target, joins.allocate target) := by
  rw [reuseOrAllocate, find?_eq_none_iff.mpr h]

/-- In either case the alias is that of the first join of the target from then on. -/
theorem exists_isFirst_reuseOrAllocate (joins : JoinSet) (target : JoinTarget) :
    ∃ j, (joins.reuseOrAllocate target).2.IsFirst target j ∧
      (joins.reuseOrAllocate target).1 = j.aliasName := by
  cases hfound : joins.find? fun k => k.target == target with
  | some j =>
    have hfirst := find?_eq_some_iff.mp hfound
    rw [hfirst.reuseOrAllocate]
    exact ⟨j, hfirst, rfl⟩
  | none =>
    have hnew := find?_eq_none_iff.mp hfound
    rw [reuseOrAllocate_of_new hnew]
    exact ⟨⟨target, joins.nextAlias target⟩, ⟨rfl, joins, [], rfl, hnew⟩, rfl⟩

theorem reuseOrAllocate_allocatedFrom (joins : JoinSet) (target : JoinTarget) :
    joins.AllocatedFrom (joins.reuseOrAllocate target).2 := by
  unfold reuseOrAllocate
  split
  · exact .start
  · exact .allocate target .start

private theorem answer_allocatedFrom (joins : JoinSet) (call : Call) :
    joins.AllocatedFrom (joins.answer call).2 := by
  cases call with
  | next target => exact .start
  | allocate target => exact .allocate target .start
  | reuse target => exact joins.reuseOrAllocate_allocatedFrom target

/-- Calls only ever allocate. -/
theorem after_allocatedFrom (joins : JoinSet) (calls : List Call) :
    joins.AllocatedFrom (joins.after calls) := by
  induction calls generalizing joins with
  | nil => exact .start
  | cons call rest ih => exact (joins.answer_allocatedFrom call).trans (ih _)

theorem AllocatedFrom.exists_calls {start joins : JoinSet} (h : start.AllocatedFrom joins) :
    ∃ calls, joins = start.after calls := by
  induction h with
  | start => exact ⟨[], rfl⟩
  | @allocate joins target _ ih =>
    obtain ⟨calls, hcalls⟩ := ih
    exact ⟨calls ++ [.allocate target], by rw [after_append, ← hcalls]; rfl⟩

/-- Joins stay where they are. -/
theorem isPrefix_after (joins : JoinSet) (calls : List Call) : joins <+: joins.after calls := by
  obtain ⟨more, hmore⟩ := (joins.after_allocatedFrom calls).exists_append
  exact ⟨more, hmore.symm⟩

theorem AllocatedFrom.isNumbered {joins : JoinSet} (h : joins.Allocated) : joins.IsNumbered where
  nodup := (List.nodup_cons.mp h.nodup).2
  numbered := by
    intro word
    induction h with
    | start => simp
    | @allocate joins target _ ih =>
      intro k j hj
      rw [JoinSet.allocate, List.filter_append, List.getElem?_append] at hj
      split at hj
      · exact ih k j hj
      rename_i hlength
      -- What is not among the joins before is the new one, whose number is how many these are.
      have hword : target.aliasWord = word := by
        by_contra hother
        simp [hother] at hj
      simp only [hword, List.filter_singleton, beq_self_eq_true, cond_true,
        List.getElem?_singleton] at hj
      split at hj
      · rename_i hk
        have hcount : joins.countWord target =
            (joins.filter fun j => j.target.aliasWord == word).length := by
          rw [countWord, List.countP_eq_length_filter, hword]
        have hnumber : joins.countWord target = k := by omega
        rw [← Option.some.inj hj, nextAlias_eq, hnumber, JoinTarget.numbered, hword]
      · cases hj

/-- The targets that are not known, each once, in the order in which they first come. -/
def newTargets (known targets : List JoinTarget) : List JoinTarget :=
  targets.eraseDups.filter (· ∉ known)

private theorem mem_newTargets {known targets : List JoinTarget} {target : JoinTarget} :
    target ∈ newTargets known targets ↔ target ∈ targets ∧ target ∉ known := by
  simp [newTargets]

private theorem newTargets_concat (known targets : List JoinTarget) (target : JoinTarget) :
    newTargets known (targets ++ [target]) =
      newTargets known targets ++ if target ∈ known ∨ target ∈ targets then [] else [target] := by
  have hsingle : [target].eraseDups = [target] := rfl
  rw [newTargets, newTargets, List.eraseDups_append, List.filter_append]
  by_cases hbefore : target ∈ targets
  · simp [List.removeAll, hbefore]
  · by_cases hknown : target ∈ known <;> simp [List.removeAll, hbefore, hknown, hsingle]

theorem newTargets_nodup (known targets : List JoinTarget) : (newTargets known targets).Nodup := by
  induction targets using List.reverseRecOn with
  | nil => exact List.nodup_nil
  | append_singleton targets target ih =>
    rw [newTargets_concat]
    split
    · rwa [List.append_nil]
    · rename_i hnew
      have hfresh : target ∉ newTargets known targets :=
        fun hmem => hnew (Or.inr (mem_newTargets.mp hmem).1)
      refine List.nodup_append.mpr ⟨ih, by simp, ?_⟩
      intro other hother last hlast heq
      rw [List.mem_singleton.mp hlast] at heq
      exact hfresh (heq ▸ hother)

private theorem exists_reuseOrAllocate_append (joins : JoinSet) (target : JoinTarget) :
    ∃ added : JoinSet, (joins.reuseOrAllocate target).2 = joins ++ added ∧
      added.map JoinedTable.target =
        if target ∈ joins.map JoinedTable.target then [] else [target] := by
  cases hfound : joins.find? fun k => k.target == target with
  | some j =>
    have hfirst := find?_eq_some_iff.mp hfound
    have hknown := List.mem_map.mpr ⟨j, List.mem_of_find?_eq_some hfound, hfirst.1⟩
    exact ⟨[], by rw [hfirst.reuseOrAllocate, List.append_nil], by rw [if_pos hknown]; rfl⟩
  | none =>
    have hnew := find?_eq_none_iff.mp hfound
    have hunknown : target ∉ joins.map JoinedTable.target := by
      rw [List.mem_map]
      rintro ⟨j, hj, htarget⟩
      exact hnew j hj htarget
    rw [if_neg hunknown]
    exact ⟨[⟨target, joins.nextAlias target⟩], by rw [reuseOrAllocate_of_new hnew, allocate], rfl⟩

/-- Sharing joins for targets one after another adds one for each that has none. -/
theorem after_reuse (start : JoinSet) (targets : List JoinTarget) :
    ∃ added : JoinSet, start.after (targets.map .reuse) = start ++ added ∧
      added.map JoinedTable.target = newTargets (start.map JoinedTable.target) targets := by
  induction targets using List.reverseRecOn with
  | nil => exact ⟨[], by simp, rfl⟩
  | append_singleton targets target ih =>
    obtain ⟨added, hadded, htargets⟩ := ih
    obtain ⟨last, hlast, hlastTarget⟩ := exists_reuseOrAllocate_append (start ++ added) target
    have hjoined : target ∈ (start ++ added).map JoinedTable.target ↔
        target ∈ start.map JoinedTable.target ∨ target ∈ targets := by
      rw [List.map_append, List.mem_append, htargets, mem_newTargets]
      tauto
    refine ⟨added ++ last, ?_, ?_⟩
    · rw [List.map_append, after_append, hadded, ← List.append_assoc, ← hlast]
      rfl
    · rw [List.map_append, newTargets_concat, htargets, hlastTarget]
      simp only [hjoined]

end TenantGrid.JoinSet
