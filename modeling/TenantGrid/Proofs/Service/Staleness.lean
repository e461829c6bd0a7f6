import TenantGrid.Proofs.Service.Preparation
import TenantGrid.Proofs.Service.Provenance
/-!
# Stale counts

A change forgets the counts of its tenant once, right after it is executed. A count that was fetched
before and is stored after that is not forgotten, and answers later requests although the store would
give another one. Only requests that overlap the change in this way bring back an old count.
-/
namespace TenantGrid

open Service (PreparedChange PreparedList)

/-- A count from the cache, found after a change of the tenant was forgotten about, was stored after
that as well. It was fetched after the change was executed, unless the request that stored it had
fetched it before: one that overlaps the change. -/
theorem hit_after_change {jobs : Nat → Job} {tenant : String} {work : Work}
    (hone : ∀ job t, (jobs job).tenant? = some t → t = tenant) (hnew : work.IsNew)
    (turns : List Work.Turn) {job n change : Nat} {later between earlier : List Event}
    (hlog : (work.run jobs turns).log =
      later ++ .looked job (some n) :: between ++ .forgot change :: earlier) :
    ∃ source mid before, earlier = mid ++ .executed change :: before ∧
      (jobs source).key? = (jobs job).key? ∧ .stored source n ∈ between ∧
      (.fetched source n ∈ between ++ mid ∨ .fetched source n ∈ before) := by
  have htraced : Traced jobs (work.run jobs turns) := hnew.traced.run turns
  have hlooked : (.looked job (some n) :: (between ++ .forgot change :: earlier)) <:+
      (work.run jobs turns).log := ⟨later, by simp [hlog]⟩
  have hforgot : (.forgot change :: earlier) <:+ (work.run jobs turns).log :=
    ⟨later ++ .looked job (some n) :: between, hlog.symm⟩
  obtain ⟨hexecuted, prepared, hprepared⟩ := htraced.justified _ _ hforgot
  obtain ⟨source, key, hsource, hkey, hkept⟩ := htraced.justified _ _ hlooked
  have htenant : (jobs change).tenant? = (jobs source).tenant? := by
    obtain ⟨t, ht⟩ := Job.tenant?_of_key? hsource
    have hchange : (jobs change).tenant? = some prepared.tenant := by rw [hprepared]; rfl
    rw [ht, hchange, hone source t ht, hone change _ hchange]
  obtain ⟨recent, more, rfl⟩ := hkept.since htenant
  have hstored : (.stored source n :: (more ++ .forgot change :: earlier)) <:+
      (work.run jobs turns).log :=
    ⟨later ++ .looked job (some n) :: recent, by simp [hlog]⟩
  have hfetched : .fetched source n ∈ more ++ .forgot change :: earlier :=
    htraced.justified _ _ hstored
  obtain ⟨mid, before, rfl⟩ := List.append_of_mem hexecuted
  refine ⟨source, mid, before, rfl, hsource.trans hkey.symm, by simp, ?_⟩
  simp only [List.mem_append, List.mem_cons, reduceCtorEq, false_or] at hfetched ⊢
  tauto

/-- Two requests for one count, and a change in between. -/
def overlapping (list : PreparedList) (change : PreparedChange) : Nat → Job
  | 1 => .change change
  | _ => .count list.tenant {} list.count

/-- A service whose store counts one artist until a change has been executed, and none after. -/
def overlappingWork (dialect : Sql.Dialect) (lifetime : Nat) : Work where
  session := { store := .ofReplies dialect [.rows [[.int 1]], .changed 1] }
  cache := { lifetime, maxEntries := 10 }

/-- The first request asks the store before the change is executed, and stores what it was told after
the change is over. -/
def overlappingTurns : List Work.Turn :=
  [⟨0, 0⟩, ⟨0, 0⟩, ⟨1, 0⟩, ⟨1, 0⟩, ⟨0, 0⟩]

theorem overlappingWork_isNew (dialect : Sql.Dialect) (lifetime : Nat) :
    (overlappingWork dialect lifetime).IsNew :=
  ⟨fun _ => rfl, rfl, rfl⟩

/-- The request that starts then is answered with the old count, and does not ask the store. -/
theorem run_overlapping (list : PreparedList) (change : PreparedChange) (dialect : Sql.Dialect)
    {lifetime : Nat} (hlifetime : 0 < lifetime) :
    let after := (overlappingWork dialect lifetime).run (overlapping list change)
      (overlappingTurns ++ [⟨2, 0⟩])
    after.log = [.looked 2 (some 1), .stored 0 1, .forgot 1, .executed 1, .fetched 0 1,
      .looked 0 none] ∧ (after.session.fetchCount list.count).1 = .ok 0 := by
  intro after
  let key := (CountKey.ofFilter list.tenant {}).digest
  let forgotten := (overlappingWork dialect lifetime).run (overlapping list change)
    [⟨0, 0⟩, ⟨0, 0⟩, ⟨1, 0⟩, ⟨1, 0⟩]
  let stored := forgotten.remember 0 0 key list.tenant 1
  have hstored : forgotten.advance (overlapping list change) ⟨0, 0⟩ = stored := by
    have hjob : overlapping list change 0 = .count list.tenant {} list.count := rfl
    have hstage : forgotten.stage 0 = .fetched 1 := rfl
    unfold Work.advance
    simp only [hjob]
    rw [hstage]
  have hlast : stored.advance (overlapping list change) ⟨2, 0⟩ = stored.lookUp 2 0 key := by
    have hjob : overlapping list change 2 = .count list.tenant {} list.count := rfl
    have hstage : stored.stage 2 = .waiting := rfl
    unfold Work.advance
    simp only [hjob]
    rw [hstage]
  have hafter : after = stored.lookUp 2 0 key := by
    calc after
        = forgotten.run (overlapping list change) [⟨0, 0⟩, ⟨2, 0⟩] :=
          Work.run_append _ _ [⟨0, 0⟩, ⟨0, 0⟩, ⟨1, 0⟩, ⟨1, 0⟩] [⟨0, 0⟩, ⟨2, 0⟩]
      _ = stored.run (overlapping list change) [⟨2, 0⟩] := by rw [Work.run_cons, hstored]
      _ = stored.lookUp 2 0 key := hlast
  have hhit : (stored.cache.get 0 key).1 = some 1 := CountCache.get_insert hlifetime
  have hlog : stored.log = [.stored 0 1, .forgot 1, .executed 1, .fetched 0 1, .looked 0 none] := rfl
  have hreply : (stored.session.fetchCount list.count).1 = .ok 0 := rfl
  rw [hafter, Work.lookUp_log, Work.lookUp_session, hhit, hlog]
  exact ⟨rfl, hreply⟩

private theorem overlapping_tenant {list : PreparedList} {change : PreparedChange}
    (htenant : change.tenant = list.tenant) (job : Nat) (t : String)
    (h : (overlapping list change job).tenant? = some t) : t = list.tenant := by
  unfold overlapping at h
  split at h
  · exact (Option.some.inj h).symm.trans htenant
  · exact (Option.some.inj h).symm

/-- A page of all artists and a change that mutes them, for one user. -/
theorem exists_overlapping :
    ∃ list change, Service.sample.prepareList "u" {} = .ok list ∧
      Service.sample.prepareChange "u" [] .standard (.mute true) = .ok change ∧
      change.tenant = list.tenant :=
  ⟨_, _, rfl, rfl, rfl⟩

theorem hit_after_change_sample :
    ∃ list change, (∀ job t, (overlapping list change job).tenant? = some t → t = list.tenant) ∧
      (overlappingWork .sqlite 1).IsNew ∧
      ((overlappingWork .sqlite 1).run (overlapping list change)
          (overlappingTurns ++ [⟨2, 0⟩])).log =
        [.looked 2 (some 1), .stored 0 1, .forgot 1, .executed 1, .fetched 0 1, .looked 0 none] ∧
      ∃ source, (overlapping list change source).key? = (overlapping list change 2).key? ∧
        .stored source 1 ∈ [Event.stored 0 1] := by
  obtain ⟨list, change, _, _, htenant⟩ := exists_overlapping
  have hone := overlapping_tenant htenant
  have hnew := overlappingWork_isNew .sqlite 1
  have hlog := (run_overlapping list change .sqlite Nat.one_pos).1
  have hsplit : ((overlappingWork .sqlite 1).run (overlapping list change)
      (overlappingTurns ++ [⟨2, 0⟩])).log = ([] : List Event) ++
        Event.looked 2 (some 1) :: [Event.stored 0 1] ++
          Event.forgot 1 :: [Event.executed 1, Event.fetched 0 1, Event.looked 0 none] := hlog
  obtain ⟨source, _, _, _, hkey, hstored, _⟩ := hit_after_change hone hnew _ hsplit
  exact ⟨list, change, hone, hnew, hlog, source, hkey, hstored⟩

/-- A request that starts after a change of its tenant has returned is answered with a count that was
fetched before the change was executed, while the store would count otherwise. -/
theorem stale_count_answered :
    ∃ list change, Service.sample.prepareList "u" {} = .ok list ∧
      Service.sample.prepareChange "u" [] .standard (.mute true) = .ok change ∧
      change.tenant = list.tenant ∧
      let after := (overlappingWork .sqlite (CountCache.secondsToTicks 3600)).run
        (overlapping list change) (overlappingTurns ++ [⟨2, 0⟩])
      after.log = [.looked 2 (some 1), .stored 0 1, .forgot 1, .executed 1, .fetched 0 1,
        .looked 0 none] ∧ (after.session.fetchCount list.count).1 = .ok 0 := by
  obtain ⟨list, change, hlist, hchange, htenant⟩ := exists_overlapping
  exact ⟨list, change, hlist, hchange, htenant, run_overlapping list change .sqlite (by decide)⟩

end TenantGrid
