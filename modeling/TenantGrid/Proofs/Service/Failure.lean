import Mathlib.Data.Option.Defs
import TenantGrid.Proofs.Cache.CountCache
import TenantGrid.Proofs.Service.Refusal
/-!
# Failures of requests

A list request passes through the checks, the ids of its page, the count and the artists' relations, and
its response tells of the first of them that fails. A change that fails keeps the cached counts, and one
that succeeds forgets those of its tenant.
-/
namespace TenantGrid

namespace Service

variable {service : Service} {user : String}

/-- The cached entry that a count can be answered from. -/
def usableEntry? (service : Service) (now : Nat) (tenant : String) (filter : FilterModel) :
    Option CachedCount :=
  service.cache.bind fun cache =>
    (cache.find? (CountKey.ofFilter tenant filter).digest).filter
      (CachedCount.isFresh cache.lifetime now)

/-- A count, and the session after it. -/
def counted (service : Service) (now : Nat) (tenant : String) (filter : FilterModel)
    (statement : Sql.Statement) : Except StoreError Nat × Session :=
  match service.usableEntry? now tenant filter with
  | some entry => (.ok entry.count, service.session)
  | none => service.session.fetchCount statement

private theorem fetchCount_eq (service : Service) (now : Nat) (key tenant : String)
    (statement : Sql.Statement) :
    ∃ cache, service.fetchCount now key tenant statement =
      ((service.session.fetchCount statement).1,
        { service with session := (service.session.fetchCount statement).2, cache }) := by
  rcases hfetched : service.session.fetchCount statement with ⟨_ | n, session⟩
  · exact ⟨service.cache, by simp only [fetchCount, hfetched]⟩
  · exact ⟨service.cache.map fun c => c.insert now key tenant n, by simp only [fetchCount, hfetched]⟩

private theorem count_eq (service : Service) (now : Nat) (tenant : String) (filter : FilterModel)
    (statement : Sql.Statement) :
    ∃ cache, service.count now tenant filter statement =
      ((service.counted now tenant filter statement).1,
        { service with session := (service.counted now tenant filter statement).2, cache }) := by
  let key := (CountKey.ofFilter tenant filter).digest
  unfold count counted usableEntry?
  cases hcache : service.cache with
  | none => exact fetchCount_eq service now key tenant statement
  | some cache =>
    simp only [Option.bind_some, CountCache.get]
    cases (cache.find? key).filter (CachedCount.isFresh cache.lifetime now) with
    | some entry => exact ⟨_, rfl⟩
    | none => exact fetchCount_eq { service with cache := some _ } now key tenant statement

private theorem counted_sent (service : Service) (now : Nat) (tenant : String)
    (filter : FilterModel) (statement : Sql.Statement) :
    service.session.sent <:+ (service.counted now tenant filter statement).2.sent := by
  unfold counted
  split
  · exact List.suffix_refl _
  · exact List.suffix_cons _ _

/-- Whether a list request is allowed and compiled to a plan and the query of its page. -/
structure IsPlanned (service : Service) (user : String) (request : ListRequest) (tenant : String)
    (plan : FilterPlan) (query : Sql.Query) : Prop where
  resolved : service.tenantOf user = some tenant
  admitted : service.AdmitsPage (service.listDemand request)
  planned : service.compiler.planWithin tenant (.visible request.filter.muteMode)
    request.filter.items = .ok plan
  sorted : service.compiler.pageQuery plan request.sort (service.pageOf request) = .ok query

/-- What a list request comes to. Of its stages the first that fails decides. -/
inductive ListOutcome (service : Service) (now : Nat) (user : String) (request : ListRequest) :
    Except ServiceError (List ArtistView × Nat) → Prop
  | refused {error : ServiceError}
    (hrefused : service.Refused user (service.listDemand request) error) :
    ListOutcome service now user request (.error error)
  | ids {tenant : String} {plan : FilterPlan} {query : Sql.Query} {error : StoreError}
    (hplanned : service.IsPlanned user request tenant plan query)
    (hids : (service.session.fetchIds (service.queryStatement query)).1 = .error error) :
    ListOutcome service now user request (.error (.store error))
  | count {tenant : String} {plan : FilterPlan} {query : Sql.Query} {ids : List Uuid}
    {session : Session} {error : StoreError}
    (hplanned : service.IsPlanned user request tenant plan query)
    (hids : service.session.fetchIds (service.queryStatement query) = (.ok ids, session))
    (hcount : ({ service with session }.counted now tenant request.filter
      (service.queryStatement plan.countQuery)).1 = .error error) :
    ListOutcome service now user request (.error (.store error))
  | relations {tenant : String} {plan : FilterPlan} {query : Sql.Query} {ids : List Uuid}
    {session after : Session} {count : Nat} {error : StoreError}
    (hplanned : service.IsPlanned user request tenant plan query)
    (hids : service.session.fetchIds (service.queryStatement query) = (.ok ids, session))
    (hcount : { service with session }.counted now tenant request.filter
      (service.queryStatement plan.countQuery) = (.ok count, after))
    (hrows : (after.hydrate service.catalog tenant ids Relation.forLists).1 = .error error) :
    ListOutcome service now user request (.error (.store error))
  | listed {tenant : String} {plan : FilterPlan} {query : Sql.Query} {ids : List Uuid}
    {session after : Session} {count : Nat} {rows : List ArtistView}
    (hplanned : service.IsPlanned user request tenant plan query)
    (hids : service.session.fetchIds (service.queryStatement query) = (.ok ids, session))
    (hcount : { service with session }.counted now tenant request.filter
      (service.queryStatement plan.countQuery) = (.ok count, after))
    (hrows : (after.hydrate service.catalog tenant ids Relation.forLists).1 = .ok rows) :
    ListOutcome service now user request (.ok (rows, count))

/-- The artists of a page and the count, stage by stage. -/
def staged (service : Service) (now : Nat) (filter : FilterModel) (prepared : PreparedList) :
    Except StoreError (List ArtistView × Nat) :=
  match service.session.fetchIds prepared.page with
  | (.error error, _) => .error error
  | (.ok ids, session) =>
    match ({ service with session } : Service).counted now prepared.tenant filter prepared.count with
    | (.error error, _) => .error error
    | (.ok count, after) =>
      (after.hydrate service.catalog prepared.tenant ids Relation.forLists).1.map fun rows =>
        (rows, count)

private theorem runList_fst (now : Nat) (filter : FilterModel) (prepared : PreparedList) :
    (service.runList now filter prepared).1 = service.staged now filter prepared := by
  rcases hids : service.session.fetchIds prepared.page with ⟨ids, session⟩
  -- The count is fetched even if the ids could not be, but then it does not show in the outcome.
  obtain ⟨cache, hcount⟩ := count_eq { service with session } now prepared.tenant filter prepared.count
  simp only [runList, staged, hids, hcount]
  cases ids with
  | error e => rfl
  | ok ids =>
    dsimp only
    rcases ({ service with session } : Service).counted now prepared.tenant filter
      prepared.count with ⟨_ | count, after⟩ <;> rfl

private theorem runList_sent (service : Service) (now : Nat) (filter : FilterModel)
    (prepared : PreparedList) :
    AskedSince service.session (service.runList now filter prepared).2.session := by
  let asked : Service := { service with session := service.session.sending prepared.page }
  have hids : service.session.fetchIds prepared.page =
      ((service.session.fetchIds prepared.page).1, asked.session) := rfl
  obtain ⟨cache, hcount⟩ := count_eq asked now prepared.tenant filter prepared.count
  have hcounted : prepared.page :: service.session.sent <:+ _ :=
    counted_sent asked now prepared.tenant filter prepared.count
  refine ⟨prepared.page, hcounted.trans ?_⟩
  rw [runList, hids]
  simp only [asked] at hcount ⊢
  rw [hcount]
  cases (service.session.fetchIds prepared.page).1 with
  | error e => exact List.suffix_refl _
  | ok ids =>
    rcases ({ service with session := service.session.sending prepared.page } : Service).counted now
      prepared.tenant filter prepared.count with ⟨_ | count, after⟩
    · exact List.suffix_refl _
    · exact hydrate_sent after service.catalog prepared.tenant ids Relation.forLists

/-- The rows and the count of a list request, or its failure. -/
def listResult (service : Service) (now : Nat) (user : String) (request : ListRequest) :
    Except ServiceError (List ArtistView × Nat) :=
  match service.prepareList user request with
  | .error error => .error error
  | .ok prepared => (service.staged now request.filter prepared).mapError .store

variable {now : Nat} {request : ListRequest} {tenant : String} {plan : FilterPlan} {query : Sql.Query}

private theorem IsPlanned.prepareList (h : service.IsPlanned user request tenant plan query) :
    service.prepareList user request = .ok {
      tenant
      page := service.queryStatement query
      count := service.queryStatement plan.countQuery } :=
  prepareList_eq h.resolved ((checkPage_eq_ok _).mpr (h.admitted _ rfl)) h.planned h.sorted

private theorem isPlanned_of_prepareList {prepared : PreparedList}
    (h : service.prepareList user request = .ok prepared) :
    ∃ tenant plan query, service.IsPlanned user request tenant plan query := by
  obtain ⟨htenant, hcheck, plan, query, hplan, hquery, _, _⟩ := prepareList_cases h
  refine ⟨prepared.tenant, plan, query, htenant, ?_, hplan, hquery⟩
  intro page hpage
  obtain rfl := Option.mem_some.mp hpage
  exact (checkPage_eq_ok _).mp hcheck

private theorem ListOutcome.eq_listResult {outcome : Except ServiceError (List ArtistView × Nat)}
    (h : service.ListOutcome now user request outcome) :
    outcome = service.listResult now user request := by
  cases h with
  | refused hrefused =>
    have hfailed := (check_prepareList request).eq_error_iff.mp hrefused.check
    rw [listResult, hfailed]
  | @ids tenant plan query error hplanned hids =>
    rw [listResult, hplanned.prepareList]
    rcases hfetched : service.session.fetchIds (service.queryStatement query) with ⟨found, session⟩
    rw [hfetched] at hids
    obtain rfl : found = .error error := hids
    simp only [staged, hfetched, Except.mapError]
  | @count tenant plan query ids session error hplanned hids hcount =>
    rw [listResult, hplanned.prepareList]
    rcases hcounted : ({ service with session } : Service).counted now tenant request.filter
      (service.queryStatement plan.countQuery) with ⟨found, after⟩
    rw [hcounted] at hcount
    obtain rfl : found = .error error := hcount
    simp only [staged, hids, hcounted, Except.mapError]
  | relations hplanned hids hcount hrows =>
    rw [listResult, hplanned.prepareList]
    simp only [staged, hids, hcount, hrows, Except.map, Except.mapError]
  | listed hplanned hids hcount hrows =>
    rw [listResult, hplanned.prepareList]
    simp only [staged, hids, hcount, hrows, Except.map, Except.mapError]

private theorem listOutcome_listResult (service : Service) (now : Nat) (user : String)
    (request : ListRequest) :
    service.ListOutcome now user request (service.listResult now user request) := by
  cases hprepared : service.prepareList user request with
  | error e =>
    have hrefused := refused_of_check ((check_prepareList request).eq_error_iff.mpr hprepared)
    rw [listResult, hprepared]
    exact .refused hrefused
  | ok prepared =>
    obtain ⟨tenant, plan, query, hplanned⟩ := isPlanned_of_prepareList hprepared
    rw [listResult, hplanned.prepareList]
    rcases hids : service.session.fetchIds (service.queryStatement query) with ⟨_ | ids, session⟩
    · simp only [staged, hids, Except.mapError]
      exact .ids hplanned (by rw [hids])
    rcases hcount : ({ service with session } : Service).counted now tenant request.filter
      (service.queryStatement plan.countQuery) with ⟨_ | count, after⟩
    · simp only [staged, hids, hcount, Except.mapError]
      exact .count hplanned hids (by rw [hcount])
    cases hrows : (after.hydrate service.catalog tenant ids Relation.forLists).1 with
    | error e =>
      simp only [staged, hids, hcount, hrows, Except.map, Except.mapError]
      exact .relations hplanned hids hcount hrows
    | ok rows =>
      simp only [staged, hids, hcount, hrows, Except.map, Except.mapError]
      exact .listed hplanned hids hcount hrows

/-- How a list request is responded to that is refused. -/
def refusedList (service : Service) (request : ListRequest) (error : ServiceError) : ListResponse :=
  { page := service.pageOf request, filter := request.filter, sort := request.sort,
    error := some error.publicMessage }

private theorem list_fst (service : Service) (now : Nat) (user : String) (request : ListRequest) :
    (service.list now user request).1 = match service.listResult now user request with
      | .ok (rows, rowCount) =>
        { rows, rowCount, page := service.pageOf request, filter := request.filter,
          sort := request.sort }
      | .error error => service.refusedList request error := by
  unfold list listResult
  cases service.prepareList user request with
  | error e => rfl
  | ok prepared =>
    dsimp only
    rw [← runList_fst]
    rcases service.runList now request.filter prepared with ⟨_ | ⟨rows, count⟩, after⟩ <;> rfl

private theorem list_failsCleanly (now : Nat) (request : ListRequest) :
    service.FailsCleanly user (service.listDemand request) (service.refusedList request)
      (service.list now user request) := by
  refine .of_prepared (check_prepareList request) (fun error h => ?_) fun prepared h => ?_
  · unfold list
    rw [h]
    rfl
  · have hsent := runList_sent service now request.filter prepared
    unfold list
    rw [h]
    exact hsent

/-- Whether a response to a list request repeats what was asked for and tells what it came to. -/
structure Reports (service : Service) (now : Nat) (user : String) (request : ListRequest)
    (response : ListResponse) : Prop where
  number : response.page.number = request.page
  size : response.page.size = request.pageSize.getD service.limits.defaultPageSize
  filter : response.filter = request.filter
  sort : response.sort = request.sort
  outcome : ∃! outcome, service.ListOutcome now user request outcome
  error_eq_none : response.error = none ↔
    ∃ rows count, service.ListOutcome now user request (.ok (rows, count))
  listed : ∀ rows count, service.ListOutcome now user request (.ok (rows, count)) →
    response.rows = rows ∧ response.rowCount = count
  failed : ∀ error, service.ListOutcome now user request (.error error) →
    response.rows = [] ∧ response.rowCount = 0 ∧ response.error = some error.publicMessage
  hidden : ∀ error, service.ListOutcome now user request (.error (.store error)) →
    response.error = some "Failed to load artists"

private theorem list_reports (service : Service) (now : Nat) (user : String)
    (request : ListRequest) :
    service.Reports now user request (service.list now user request).1 := by
  have hexists := listOutcome_listResult service now user request
  have hunique : ∀ outcome, service.ListOutcome now user request outcome →
      outcome = service.listResult now user request := fun outcome h => h.eq_listResult
  rw [list_fst]
  generalize service.listResult now user request = result at hexists hunique
  cases result with
  | ok result =>
    obtain ⟨rows, count⟩ := result
    refine ⟨rfl, rfl, rfl, rfl, ⟨_, hexists, hunique⟩, ⟨fun _ => ⟨rows, count, hexists⟩, fun _ => rfl⟩,
      fun rows' count' h => ?_, fun error h => ?_, fun error h => ?_⟩
    · obtain ⟨rfl, rfl⟩ := Prod.mk.inj (Except.ok.inj (hunique _ h))
      exact ⟨rfl, rfl⟩
    · exact nomatch hunique _ h
    · exact nomatch hunique _ h
  | error result =>
    refine ⟨rfl, rfl, rfl, rfl, ⟨_, hexists, hunique⟩, ⟨nofun, ?_⟩, fun rows count h => ?_,
      fun error h => ?_, fun error h => ?_⟩
    · rintro ⟨rows, count, h⟩
      exact nomatch hunique _ h
    · exact nomatch hunique _ h
    · obtain rfl := Except.error.inj (hunique _ h)
      exact ⟨rfl, rfl, rfl⟩
    · obtain rfl := Except.error.inj (hunique _ h)
      rfl

/-- Whether a cache has no entry of a tenant left, and otherwise is as before. -/
structure Forgets (tenant : String) (before after : CountCache) : Prop where
  entries : ∀ entry, entry ∈ after.entries ↔ entry ∈ before.entries ∧ entry.tenant ≠ tenant
  rest : after = { before with entries := after.entries }

/-- What a change of memberships does to the cache, in each way that the store can answer. -/
structure ChangesCleanly (service : Service) (user : String) (items : List FilterItem)
    (scope : Scope) (change : MembershipChange) (result : Except ServiceError Nat × Service) :
    Prop where
  failed : ∀ tenant plan error, service.tenantOf user = some tenant →
    service.compiler.planWithin tenant scope items = .ok plan →
    (service.session.execute ((plan.membershipUpdate change).statement
      service.session.store.dialect)).1 = .error error →
    result.1 = .error (.store error) ∧ result.2.cache = service.cache
  changed : ∀ tenant plan count, service.tenantOf user = some tenant →
    service.compiler.planWithin tenant scope items = .ok plan →
    (service.session.execute ((plan.membershipUpdate change).statement
      service.session.store.dialect)).1 = .ok count →
    result.1 = .ok count ∧ Option.Rel (Forgets tenant) service.cache result.2.cache

private theorem prepareChange_eq {items : List FilterItem} {scope : Scope}
    {change : MembershipChange} (htenant : service.tenantOf user = some tenant)
    (hplan : service.compiler.planWithin tenant scope items = .ok plan) :
    service.prepareChange user items scope change = .ok {
      tenant
      statement := (plan.membershipUpdate change).statement service.session.store.dialect } := by
  simp only [prepareChange, resolveTenant_of_some htenant, hplan, bind, Except.bind, Except.mapError]

private theorem runChange_of_error (prepared : PreparedChange) {error : StoreError}
    (h : (service.session.execute prepared.statement).1 = .error error) :
    (service.runChange prepared).1 = .error error ∧
      (service.runChange prepared).2.cache = service.cache := by
  rcases hexecuted : service.session.execute prepared.statement with ⟨result, session⟩
  rw [hexecuted] at h
  obtain rfl : result = .error error := h
  rw [runChange, hexecuted]
  exact ⟨rfl, rfl⟩

private theorem runChange_of_ok (prepared : PreparedChange) {count : Nat}
    (h : (service.session.execute prepared.statement).1 = .ok count) :
    (service.runChange prepared).1 = .ok count ∧ (service.runChange prepared).2.cache =
      service.cache.map fun cache => cache.invalidate prepared.tenant := by
  rcases hexecuted : service.session.execute prepared.statement with ⟨result, session⟩
  rw [hexecuted] at h
  obtain rfl : result = .ok count := h
  rw [runChange, hexecuted]
  exact ⟨rfl, rfl⟩

private theorem forgets_invalidate (tenant : String) (cache? : Option CountCache) :
    Option.Rel (Forgets tenant) cache? (cache?.map fun cache => cache.invalidate tenant) := by
  cases cache? with
  | none => exact .none
  | some cache => exact .some ⟨fun _ => CountCache.mem_invalidate, rfl⟩

private theorem changeResult_changesCleanly (items : List FilterItem) (scope : Scope)
    (change : MembershipChange) :
    service.ChangesCleanly user items scope change
      (service.changeResult (service.prepareChange user items scope change)) where
  failed tenant plan error htenant hplan hexecuted := by
    obtain ⟨hresult, hcache⟩ := runChange_of_error ⟨tenant, _⟩ hexecuted
    rw [prepareChange_eq htenant hplan]
    exact ⟨congrArg (Except.mapError ServiceError.store) hresult, hcache⟩
  changed tenant plan count htenant hplan hexecuted := by
    obtain ⟨hresult, hcache⟩ := runChange_of_ok ⟨tenant, _⟩ hexecuted
    rw [prepareChange_eq htenant hplan]
    refine ⟨congrArg (Except.mapError ServiceError.store) hresult, ?_⟩
    have hforgets := forgets_invalidate tenant service.cache
    rwa [← hcache] at hforgets

/-- Requests fail cleanly. The response to a list request repeats what was asked for and reports the
first stage that fails, and whatever a request asks for, one that is refused leaves the store and the
cache as they were. A change that fails keeps all counts, and one that succeeds forgets those of its
tenant alone. -/
theorem requests_fail_cleanly (service : Service) (user : String) :
    (∀ now request, service.Reports now user request (service.list now user request).1 ∧
      service.FailsCleanly user (service.listDemand request) (service.refusedList request)
        (service.list now user request)) ∧
    (∀ scope id, service.FailsCleanly user { scope, items := [] }
      (fun error => { error := some error.publicMessage }) (service.artist user id)) ∧
    (∀ filter sort, service.FailsCleanly user { Demand.ofFilter filter with sort } .error
      (service.exportIds user filter sort)) ∧
    (∀ filter, service.FailsCleanly user (.ofFilter filter) .error
      (service.labelDistribution user filter)) ∧
    (∀ filter muted,
      let result := service.setMuted user filter muted
      service.FailsCleanly user (.ofFilter filter) .error result ∧
        service.ChangesCleanly user filter.items (.visible filter.muteMode) (.mute muted) result) ∧
    (∀ now filter,
      let result := service.archive now user filter
      service.FailsCleanly user (.ofFilter filter) .error result ∧
        service.ChangesCleanly user filter.items (.visible filter.muteMode) (.archive user now)
          result) ∧
    ∀ filter,
      let result := service.unarchive user filter
      service.FailsCleanly user { scope := .archived, items := filter.items } .error result ∧
        service.ChangesCleanly user filter.items .archived .unarchive result := by
  have hchanges : ∀ items scope change,
      service.FailsCleanly user { scope, items } .error
          (service.changeResult (service.prepareChange user items scope change)) ∧
        service.ChangesCleanly user items scope change
          (service.changeResult (service.prepareChange user items scope change)) :=
    fun items scope change => ⟨changeResult_failsCleanly items scope change,
      changeResult_changesCleanly items scope change⟩
  refine ⟨fun now request => ⟨list_reports service now user request, list_failsCleanly now request⟩,
    artist_failsCleanly, exportIds_failsCleanly, labelDistribution_failsCleanly, ?_, ?_, ?_⟩
  · intro filter muted
    rw [setMuted_eq]
    exact hchanges _ _ _
  · intro now filter
    rw [archive_eq]
    exact hchanges _ _ _
  · intro filter
    rw [unarchive_eq]
    exact hchanges _ _ _

/-- The sample service with a store that gives one reply, and with counts of two tenants. -/
def sampleReplying (reply : Reply) : Service :=
  { sample with
    session := { store := .ofReplies .sqlite [reply] }
    cache := some { lifetime := 1, maxEntries := 10,
                    entries := [⟨"k", "t", 3, 0⟩, ⟨"l", "s", 4, 0⟩] } }

theorem requests_fail_cleanly_sample :
    let failing := sampleReplying (.failed .lockPoisoned)
    let changing := sampleReplying (.changed 2)
    (failing.Refused "v" (failing.listDemand {}) (.noTenant "v") ∧
      failing.list 0 "v" {} = (failing.refusedList {} (.noTenant "v"), failing)) ∧
    (failing.ListOutcome 0 "u" {} (.error (.store .lockPoisoned)) ∧
      (failing.list 0 "u" {}).1.error = some "Failed to load artists") ∧
    (failing.setMuted "u" {} true).2.cache = failing.cache ∧
    Option.Rel (Forgets "t") changing.cache (changing.setMuted "u" {} true).2.cache := by
  intro failing changing
  have hlist := (requests_fail_cleanly failing "v").1
  have hrefused : failing.Refused "v" (failing.listDemand {}) (.noTenant "v") := .noTenant rfl
  have houtcome : failing.ListOutcome 0 "u" {} (.error (.store .lockPoisoned)) :=
    listOutcome_listResult failing 0 "u" {}
  obtain ⟨plan, hplan⟩ : ∃ plan, failing.compiler.planWithin "t" .standard [] = .ok plan := ⟨_, rfl⟩
  refine ⟨⟨hrefused, (hlist 0 {}).2.refused _ hrefused⟩, ⟨houtcome, ?_⟩, ?_, ?_⟩
  · exact ((requests_fail_cleanly failing "u").1 0 {}).1.hidden _ houtcome
  · exact (((requests_fail_cleanly failing "u").2.2.2.2.1 {} true).2.failed "t" plan .lockPoisoned
      rfl hplan rfl).2
  · exact (((requests_fail_cleanly changing "u").2.2.2.2.1 {} true).2.changed "t" plan 2
      rfl hplan rfl).2

end Service

end TenantGrid
