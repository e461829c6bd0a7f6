import TenantGrid.Proofs.Cache.CountKey
import TenantGrid.Proofs.Service.Staleness
/-!
# Counts under one key

The key of a count leaves out the sort and the page of a request, and the catalog that it was compiled
with. None of them decides what is counted. Requests under one key run one statement, and a count from
the cache is what the store once answered to the statement that the request would have sent.
-/
namespace TenantGrid

namespace Service

/-- Whether two are one service at different times. Between them it may have read its catalog again,
sent statements and cached counts, and users may have changed their tenants. -/
structure SameSetup (service service' : Service) : Prop where
  store : service.session.store = service'.session.store
  limits : service.limits = service'.limits

private theorem SameSetup.trans {service service' service'' : Service}
    (h : service.SameSetup service') (h' : service'.SameSetup service'') :
    service.SameSetup service'' :=
  ⟨h.store.trans h'.store, h.limits.trans h'.limits⟩

private theorem SameSetup.symm {service service' : Service} (h : service.SameSetup service') :
    service'.SameSetup service :=
  ⟨h.store.symm, h.limits.symm⟩

private theorem prepareList_count {service service' : Service} (h : service.SameSetup service')
    {user user' : String} {request request' : ListRequest} {prepared prepared' : PreparedList}
    (hprepared : service.prepareList user request = .ok prepared)
    (hprepared' : service'.prepareList user' request' = .ok prepared')
    (htenant : prepared.tenant = prepared'.tenant)
    (hmuted : request.filter.muteMode = request'.filter.muteMode)
    (hitems : request.filter.items = request'.filter.items) : prepared.count = prepared'.count := by
  obtain ⟨_, _, plan, _, hplan, _, _, hcount⟩ := prepareList_cases hprepared
  obtain ⟨_, _, plan', _, hplan', _, _, hcount'⟩ := prepareList_cases hprepared'
  have hescape : service.compiler.escapeNegated = service'.compiler.escapeNegated := by
    simp only [compiler, h.limits]
  rw [← htenant, ← hmuted, ← hitems] at hplan'
  have hplans : plan = plan' := Compiler.planWithin_unique hescape hplan hplan'
  rw [hcount, hcount', hplans, queryStatement, queryStatement, h.store]

/-- Whether the service prepared a count, at one time or another. -/
def Prepares (service : Service) : Job → Prop
  | .count tenant filter statement =>
    ∃ (moment : Service) (user : String) (request : ListRequest) (prepared : PreparedList),
      service.SameSetup moment ∧ moment.prepareList user request = .ok prepared ∧
      tenant = prepared.tenant ∧ filter = request.filter ∧ statement = prepared.count
  | .change _ | .send _ => True

private theorem Prepares.statement_unique {service : Service} {tenant tenant' : String}
    {filter filter' : FilterModel} {statement statement' : Sql.Statement}
    (h : service.Prepares (.count tenant filter statement))
    (h' : service.Prepares (.count tenant' filter' statement'))
    (hkey : CountKey.ofFilter tenant filter = CountKey.ofFilter tenant' filter') :
    statement = statement' := by
  obtain ⟨moment, _, request, prepared, hsetup, hprepared, rfl, rfl, rfl⟩ := h
  obtain ⟨moment', _, request', prepared', hsetup', hprepared', rfl, rfl, rfl⟩ := h'
  have hmoments : moment.SameSetup moment' := hsetup.symm.trans hsetup'
  simp only [CountKey.ofFilter, CountKey.mk.injEq] at hkey
  obtain ⟨htenant, hmuted, hitems⟩ := hkey
  exact prepareList_count hmoments hprepared hprepared' htenant hmuted hitems

end Service

private theorem Job.countKey?_of_key? {job : Job} {digest : String} (h : job.key? = some digest) :
    ∃ tenant filter statement, job = .count tenant filter statement ∧
      (CountKey.ofFilter tenant filter).digest = digest := by
  cases job with
  | count tenant filter statement => exact ⟨tenant, filter, statement, rfl, Option.some.inj h⟩
  | change prepared => simp [key?, countKey?] at h
  | send statement => simp [key?, countKey?] at h

private theorem Traced.hit_own {service : Service} {jobs : Nat → Job} {work : Work}
    (h : Traced jobs work) (hprepares : ∀ job, service.Prepares (jobs job))
    (hapart : ∀ job job' key key', (jobs job).countKey? = some key →
      (jobs job').countKey? = some key' → key.ToldApart key')
    {job n : Nat} (hhit : .looked job (some n) ∈ work.log) : Answered jobs work.session job n := by
  obtain ⟨source, digest, hsource, hjob, hanswered⟩ := h.hit_answered hhit
  obtain ⟨tenant, filter, statement, hcount, hdigest⟩ := Job.countKey?_of_key? hjob
  obtain ⟨tenant', filter', statement', later, earlier, hcount', hsent, hreply⟩ := hanswered
  rw [hcount'] at hsource
  have hdigest' : (CountKey.ofFilter tenant' filter').digest = digest := Option.some.inj hsource
  have hapart' : (CountKey.ofFilter tenant' filter').ToldApart (.ofFilter tenant filter) :=
    hapart source job _ _ (by rw [hcount']; rfl) (by rw [hcount]; rfl)
  have hkey : CountKey.ofFilter tenant' filter' = CountKey.ofFilter tenant filter :=
    CountKey.digest_unique hapart' (hdigest'.trans hdigest.symm)
  have hstatement : statement' = statement := by
    have hprepares' := hprepares source
    rw [hcount'] at hprepares'
    exact hprepares'.statement_unique (hcount ▸ hprepares job) hkey
  subst hstatement
  exact ⟨tenant, filter, statement', later, earlier, hcount, hsent, hreply⟩

/-- The key of a count is sound. Keys with one digest are equal, requests of one service under one key
count with one statement whatever else they ask for, and a hit answers with a count that the store gave
for just that statement. -/
theorem count_key_sound (service : Service) :
    (∀ key key' : CountKey, key.ToldApart key' → key.digest = key'.digest → key = key') ∧
    (∀ (later : Service) (user user' : String) (request request' : ListRequest)
      (prepared prepared' : Service.PreparedList), service.SameSetup later →
      service.prepareList user request = .ok prepared →
      later.prepareList user' request' = .ok prepared' → prepared.tenant = prepared'.tenant →
      request.filter.muteMode = request'.filter.muteMode →
      request.filter.items = request'.filter.items → prepared.count = prepared'.count) ∧
    ∀ (jobs : Nat → Job) (work : Work) (turns : List Work.Turn), work.IsNew →
      (∀ job, service.Prepares (jobs job)) →
      (∀ job job' key key', (jobs job).countKey? = some key → (jobs job').countKey? = some key' →
        key.ToldApart key') →
      ∀ job n, .looked job (some n) ∈ (work.run jobs turns).log →
        Answered jobs (work.run jobs turns).session job n := by
  refine ⟨fun key key' hapart hdigest => CountKey.digest_unique hapart hdigest, ?_, ?_⟩
  · intro later user user' request request' prepared prepared' hsetup hprepared hprepared' htenant
      hmuted hitems
    exact Service.prepareList_count hsetup hprepared hprepared' htenant hmuted hitems
  · intro jobs work turns hnew hprepares hapart job n hhit
    exact (hnew.traced.run turns).hit_own hprepares hapart hhit

/-- A later moment of the sample service, at which it knows of a statistic. -/
def Service.sampleLater : Service :=
  { sample with catalog := { statisticTypes := [⟨1, "plays", "total", "Plays", "integer", none⟩] } }

private theorem Service.exists_pages :
    ∃ prepared prepared', sample.prepareList "u" { filter := sampleFilter } = .ok prepared ∧
      sampleLater.prepareList "u" {
        filter := { sampleFilter with muted := some .hide }
        sort := [⟨"statistic.1-latest", .desc⟩], page := 2, pageSize := some 5 } = .ok prepared' ∧
      prepared.tenant = prepared'.tenant :=
  ⟨_, _, rfl, rfl, rfl⟩

private theorem overlapping_prepares {list : Service.PreparedList} {change : Service.PreparedChange}
    (hlist : Service.sample.prepareList "u" {} = .ok list) (job : Nat) :
    Service.sample.Prepares (overlapping list change job) := by
  unfold overlapping
  split
  · trivial
  · exact ⟨.sample, "u", {}, list, ⟨rfl, rfl⟩, hlist, rfl, rfl, rfl⟩

private theorem sample_not_hasReal (tenant : String) (x : Double) :
    ¬ Json.HasReal x (CountKey.ofFilter tenant sampleFilter).json := by
  simp [CountKey.json, CountKey.ofFilter, MuteMode.json, FilterItem.json, sampleFilter]

private theorem empty_not_hasReal (tenant : String) (x : Double) :
    ¬ Json.HasReal x (CountKey.ofFilter tenant {}).json := by
  simp [CountKey.json, CountKey.ofFilter, MuteMode.json]

private theorem overlapping_toldApart {list : Service.PreparedList}
    {change : Service.PreparedChange} {job job' : Nat} {key key' : CountKey}
    (h : (overlapping list change job).countKey? = some key)
    (h' : (overlapping list change job').countKey? = some key') : key.ToldApart key' := by
  have hkey : ∀ job key, (overlapping list change job).countKey? = some key →
      key = .ofFilter list.tenant {} := by
    intro job key h
    unfold overlapping at h
    split at h
    · cases h
    · exact (Option.some.inj h).symm
  rw [hkey job key h, hkey job' key' h']
  exact .refl (empty_not_hasReal list.tenant)

theorem count_key_sound_sample :
    (CountKey.ToldApart (.ofFilter "t" sampleFilter)
        (.ofFilter "t" { sampleFilter with muted := some .hide }) ∧
      CountKey.ofFilter "t" sampleFilter =
        .ofFilter "t" { sampleFilter with muted := some .hide }) ∧
    (∃ prepared prepared', Service.sample.prepareList "u" { filter := sampleFilter } = .ok prepared ∧
      Service.sampleLater.prepareList "u" {
        filter := { sampleFilter with muted := some .hide }
        sort := [⟨"statistic.1-latest", .desc⟩], page := 2, pageSize := some 5 } = .ok prepared' ∧
      prepared.count = prepared'.count) ∧
    ∃ list change, .looked 2 (some 1) ∈ ((overlappingWork .sqlite 1).run (overlapping list change)
        (overlappingTurns ++ [⟨2, 0⟩])).log ∧
      Answered (overlapping list change) ((overlappingWork .sqlite 1).run (overlapping list change)
        (overlappingTurns ++ [⟨2, 0⟩])).session 2 1 := by
  obtain ⟨hkeys, hcounts, hhits⟩ := count_key_sound .sample
  obtain ⟨prepared, prepared', hprepared, hprepared', htenant⟩ := Service.exists_pages
  obtain ⟨list, change, hlist, _, _⟩ := exists_overlapping
  have hapart : CountKey.ToldApart (.ofFilter "t" sampleFilter)
      (.ofFilter "t" { sampleFilter with muted := some .hide }) := .refl (sample_not_hasReal "t")
  have hhit : .looked 2 (some 1) ∈ ((overlappingWork .sqlite 1).run (overlapping list change)
      (overlappingTurns ++ [⟨2, 0⟩])).log := by
    rw [(run_overlapping list change .sqlite Nat.one_pos).1]
    simp
  refine ⟨⟨hapart, hkeys _ _ hapart rfl⟩, ⟨prepared, prepared', hprepared, hprepared', ?_⟩,
    list, change, hhit, ?_⟩
  · exact hcounts .sampleLater _ _ _ _ _ _ ⟨rfl, rfl⟩ hprepared hprepared' htenant rfl rfl
  · exact hhits _ _ _ (overlappingWork_isNew .sqlite 1) (overlapping_prepares hlist)
      (fun _ _ _ _ h h' => overlapping_toldApart h h') 2 1 hhit

end TenantGrid
