import TenantGrid.Proofs.Service.Preparation
import TenantGrid.Service.Single
/-!
# Refused requests

Every request is checked before the store is asked. One that is refused is refused for its first
fault, and leaves the store and the cache as they were. Every other one comes to ask the store.
-/
namespace TenantGrid

open Sql (Expr OrderKey)

/-- What a request asks for, as far as it can be refused. -/
structure Demand where
  page? : Option Page := none
  scope : Scope
  items : List FilterItem
  sort : List SortItem := []

/-- What is asked for by a filter. -/
def Demand.ofFilter (filter : FilterModel) : Demand :=
  { scope := .visible filter.muteMode, items := filter.items }

namespace Service

/-- What is asked for by a list request. -/
def listDemand (service : Service) (request : ListRequest) : Demand :=
  { Demand.ofFilter request.filter with
    page? := some (service.pageOf request)
    sort := request.sort }

/-- Whether the page of a request, if it asks for one, has a size that is allowed. -/
def AdmitsPage (service : Service) (demand : Demand) : Prop :=
  ∀ page ∈ demand.page?, 0 < page.size ∧ page.size ≤ service.limits.maxPageSize

/-- Why a request is refused. Its tenant comes first, then its page, the items of its filter, and those
of its sort. -/
inductive Refused (service : Service) (user : String) (demand : Demand) : ServiceError → Prop
  | noTenant (htenant : service.tenantOf user = none) : Refused service user demand (.noTenant user)
  | emptyPage {tenant : String} {page : Page} (htenant : service.tenantOf user = some tenant)
    (hpage : demand.page? = some page) (hempty : page.size = 0) :
    Refused service user demand (.invalidPage .empty)
  | largePage {tenant : String} {page : Page} (htenant : service.tenantOf user = some tenant)
    (hpage : demand.page? = some page) (hsize : page.size ≠ 0)
    (hlarge : service.limits.maxPageSize < page.size) :
    Refused service user demand (.invalidPage (.tooLarge service.limits.maxPageSize))
  | filter {tenant : String} {error : RequestError} (htenant : service.tenantOf user = some tenant)
    (hpage : service.AdmitsPage demand)
    (hitems : FailsWith service.compiler.addItem { tenant, scope := demand.scope } demand.items
      error) :
    Refused service user demand (.request error)
  | sort {tenant : String} {plan : FilterPlan} {error : RequestError}
    (htenant : service.tenantOf user = some tenant) (hpage : service.AdmitsPage demand)
    (hplan : service.compiler.planWithin tenant demand.scope demand.items = .ok plan)
    (hsort : FailsWith service.compiler.addSort (plan.joins, []) demand.sort error) :
    Refused service user demand (.request error)

/-- What a request is compiled to that is not refused. -/
structure Admitted where
  tenant : String
  plan : FilterPlan
  joins : JoinSet
  keys : List (OrderKey Expr)

def checkDemandedPage (service : Service) (demand : Demand) : Except ServiceError Unit :=
  match demand.page? with
  | some page => service.checkPage page
  | none => .ok ()

/-- The checks of every request. -/
def check (service : Service) (user : String) (demand : Demand) : Except ServiceError Admitted := do
  let tenant ← service.resolveTenant user
  service.checkDemandedPage demand
  let plan ← (service.compiler.planWithin tenant demand.scope demand.items).mapError .request
  let (joins, keys) ← (service.compiler.orderKeys plan.joins demand.sort).mapError .request
  .ok { tenant, plan, joins, keys }

variable {service : Service} {user : String} {demand : Demand}

private theorem resolveTenant_eq_error {error : ServiceError} :
    service.resolveTenant user = .error error ↔
      service.tenantOf user = none ∧ error = .noTenant user := by
  unfold resolveTenant
  cases service.tenantOf user with
  | none => simp [eq_comm]
  | some tenant => simp

theorem resolveTenant_of_some {tenant : String} (h : service.tenantOf user = some tenant) :
    service.resolveTenant user = .ok tenant := by
  simp [resolveTenant, h]

private theorem checkDemandedPage_eq_ok :
    service.checkDemandedPage demand = .ok () ↔ service.AdmitsPage demand := by
  unfold checkDemandedPage AdmitsPage
  cases demand.page? with
  | none => simp
  | some page => simp [checkPage_eq_ok]

private theorem checkDemandedPage_eq_error {error : ServiceError} :
    service.checkDemandedPage demand = .error error ↔ ∃ page, demand.page? = some page ∧
      (page.size = 0 ∧ error = .invalidPage .empty ∨
        page.size ≠ 0 ∧ service.limits.maxPageSize < page.size ∧
          error = .invalidPage (.tooLarge service.limits.maxPageSize)) := by
  unfold checkDemandedPage
  cases demand.page? with
  | none => simp
  | some page =>
    by_cases hempty : page.size = 0
    · simp [checkPage, hempty, eq_comm]
    · by_cases hlarge : service.limits.maxPageSize < page.size
      · simp [checkPage, hempty, hlarge, eq_comm]
      · simp [checkPage, hempty, hlarge]

private theorem orderKeys_eq_error {compiler : Compiler} {joins : JoinSet} {sort : List SortItem}
    {error : RequestError} :
    compiler.orderKeys joins sort = .error error ↔ FailsWith compiler.addSort (joins, []) sort error := by
  rw [← foldlM_eq_error, Compiler.orderKeys]
  cases sort.foldlM compiler.addSort (joins, []) with
  | error e => exact Iff.rfl
  | ok sorted => exact ⟨nofun, nofun⟩

/-- A request whose checks fail is refused for what they find: the checks are made in the order of its
faults. -/
theorem refused_of_check {error : ServiceError} (h : service.check user demand = .error error) :
    service.Refused user demand error := by
  rcases bind_eq_error.mp h with htenant | ⟨tenant, htenant, h⟩
  · obtain ⟨hnone, rfl⟩ := resolveTenant_eq_error.mp htenant
    exact .noTenant hnone
  have hsome := resolveTenant_eq_ok htenant
  rcases bind_eq_error.mp h with hfault | ⟨_, hchecked, h⟩
  · obtain ⟨page, hpage, hfault⟩ := checkDemandedPage_eq_error.mp hfault
    rcases hfault with ⟨hempty, rfl⟩ | ⟨hsize, hlarge, rfl⟩
    · exact .emptyPage hsome hpage hempty
    · exact .largePage hsome hpage hsize hlarge
  have hadmits := checkDemandedPage_eq_ok.mp hchecked
  rcases bind_eq_error.mp h with hfault | ⟨plan, hplanned, h⟩
  · obtain ⟨e, hitems, rfl⟩ := mapError_eq_error.mp hfault
    exact .filter hsome hadmits (foldlM_eq_error.mp hitems)
  have hplan := mapError_eq_ok.mp hplanned
  rcases bind_eq_error.mp h with hfault | ⟨_, _, h⟩
  · obtain ⟨e, hkeys, rfl⟩ := mapError_eq_error.mp hfault
    exact .sort hsome hadmits hplan (orderKeys_eq_error.mp hkeys)
  cases h

/-- The checks of a refused request fail, and find what it is refused for. -/
theorem Refused.check {error : ServiceError} (h : service.Refused user demand error) :
    service.check user demand = .error error := by
  cases h with
  | noTenant hnone => exact bind_eq_error.mpr (.inl (resolveTenant_eq_error.mpr ⟨hnone, rfl⟩))
  | emptyPage htenant hpage hempty =>
    refine bind_eq_error.mpr (.inr ⟨_, resolveTenant_of_some htenant, ?_⟩)
    refine bind_eq_error.mpr (.inl (checkDemandedPage_eq_error.mpr ⟨_, hpage, ?_⟩))
    exact .inl ⟨hempty, rfl⟩
  | largePage htenant hpage hsize hlarge =>
    refine bind_eq_error.mpr (.inr ⟨_, resolveTenant_of_some htenant, ?_⟩)
    refine bind_eq_error.mpr (.inl (checkDemandedPage_eq_error.mpr ⟨_, hpage, ?_⟩))
    exact .inr ⟨hsize, hlarge, rfl⟩
  | filter htenant hpage hitems =>
    refine bind_eq_error.mpr (.inr ⟨_, resolveTenant_of_some htenant, ?_⟩)
    refine bind_eq_error.mpr (.inr ⟨(), checkDemandedPage_eq_ok.mpr hpage, ?_⟩)
    exact bind_eq_error.mpr (.inl (mapError_eq_error.mpr ⟨_, foldlM_eq_error.mpr hitems, rfl⟩))
  | sort htenant hpage hplan hsort =>
    refine bind_eq_error.mpr (.inr ⟨_, resolveTenant_of_some htenant, ?_⟩)
    refine bind_eq_error.mpr (.inr ⟨(), checkDemandedPage_eq_ok.mpr hpage, ?_⟩)
    refine bind_eq_error.mpr (.inr ⟨_, mapError_eq_ok.mpr hplan, ?_⟩)
    exact bind_eq_error.mpr (.inl (mapError_eq_error.mpr ⟨_, orderKeys_eq_error.mpr hsort, rfl⟩))

/-- Whether two runs fail alike, whatever they come to otherwise. -/
abbrev FailAlike {ε α β : Type} : Except ε α → Except ε β → Prop :=
  SameOutcome fun _ _ => True

private theorem orderKeys_pageQuery (compiler : Compiler) (plan : FilterPlan) (sort : List SortItem)
    (page : Page) :
    FailAlike (compiler.orderKeys plan.joins sort) (compiler.pageQuery plan sort page) := by
  unfold Compiler.pageQuery Compiler.sortedQuery
  cases compiler.orderKeys plan.joins sort with
  | error e => exact .error e
  | ok sorted => exact .ok trivial

private theorem orderKeys_idsQuery (compiler : Compiler) (plan : FilterPlan)
    (sort : List SortItem) :
    FailAlike (compiler.orderKeys plan.joins sort) (compiler.idsQuery plan sort) := by
  unfold Compiler.idsQuery
  cases sort with
  | nil => exact .ok trivial
  | cons item rest =>
    change FailAlike _ (compiler.sortedQuery plan (item :: rest))
    unfold Compiler.sortedQuery
    cases compiler.orderKeys plan.joins (item :: rest) with
    | error e => exact .error e
    | ok sorted => exact .ok trivial

theorem check_prepareList (request : ListRequest) :
    FailAlike (service.check user (service.listDemand request))
      (service.prepareList user request) := by
  refine (SameOutcome.refl (service.resolveTenant user)).bind ?_
  rintro tenant _ - - rfl
  refine (SameOutcome.refl (service.checkPage (service.pageOf request))).bind fun _ _ _ _ _ => ?_
  refine (SameOutcome.refl (service.planFor tenant request.filter)).bind ?_
  rintro plan _ - - rfl
  exact ((orderKeys_pageQuery service.compiler plan request.sort
    (service.pageOf request)).mapError ServiceError.request).bind fun _ _ _ _ _ => .ok trivial

private theorem check_prepareExport (filter : FilterModel) (sort : List SortItem) :
    FailAlike (service.check user { Demand.ofFilter filter with sort })
      (service.prepareExport user filter sort) := by
  refine (SameOutcome.refl (service.resolveTenant user)).bind ?_
  rintro tenant _ - - rfl
  refine (SameOutcome.refl (service.planFor tenant filter)).bind ?_
  rintro plan _ - - rfl
  exact ((orderKeys_idsQuery service.compiler plan sort).mapError ServiceError.request).bind
    fun _ _ _ _ _ => .ok trivial

private theorem check_prepareChange (items : List FilterItem) (scope : Scope)
    (change : MembershipChange) :
    FailAlike (service.check user { scope, items })
      (service.prepareChange user items scope change) := by
  refine (SameOutcome.refl (service.resolveTenant user)).bind ?_
  rintro tenant _ - - rfl
  refine (SameOutcome.refl ((service.compiler.planWithin tenant scope items).mapError
    ServiceError.request)).bind ?_
  rintro plan _ - - rfl
  exact .ok trivial

private theorem check_prepareLabels (filter : FilterModel) :
    FailAlike (service.check user (.ofFilter filter)) (service.prepareLabels user filter) := by
  refine (SameOutcome.refl (service.resolveTenant user)).bind ?_
  rintro tenant _ - - rfl
  refine (SameOutcome.refl (service.planFor tenant filter)).bind ?_
  rintro plan _ - - rfl
  exact .ok trivial

private theorem check_resolveTenant (scope : Scope) :
    FailAlike (service.check user { scope, items := [] }) (service.resolveTenant user) := by
  unfold check
  cases service.resolveTenant user with
  | error e => exact .error e
  | ok tenant => exact .ok trivial

/-- Whether the store has been asked since a session. -/
def AskedSince (session after : Session) : Prop :=
  ∃ statement, (statement :: session.sent) <:+ after.sent

private theorem fetchRelations_sent (session : Session) (tenant : String) (ids : List Uuid)
    (relations : List Relation) :
    session.sent <:+ (session.fetchRelations tenant ids relations).2.sent := by
  induction relations generalizing session with
  | nil => exact List.suffix_refl _
  | cons relation rest ih =>
    let statement := (relation.query tenant ids).statement session.store.dialect
    have hsent : session.sent <:+ (session.sending statement).sent := List.suffix_cons _ _
    have hfetched : session.fetchRows statement =
        ((session.fetchRows statement).1, session.sending statement) := rfl
    rw [Session.fetchRelations, hfetched]
    cases (session.fetchRows statement).1 with
    | error e => exact hsent
    | ok rows => exact hsent.trans (ih _)

theorem hydrate_sent (session : Session) (catalog : Catalog) (tenant : String) (ids : List Uuid)
    (relations : List Relation) :
    session.sent <:+ (session.hydrate catalog tenant ids relations).2.sent := by
  unfold Session.hydrate
  split
  · exact List.suffix_refl _
  · exact fetchRelations_sent session tenant ids relations

/-- Whether a request that is refused comes to nothing but its failure, and any other one asks the
store. -/
structure FailsCleanly {α : Type} (service : Service) (user : String) (demand : Demand)
    (failed : ServiceError → α) (result : α × Service) : Prop where
  refused : ∀ error, service.Refused user demand error → result = (failed error, service)
  asked : (∀ error, ¬ service.Refused user demand error) →
    AskedSince service.session result.2.session

/-- A request fails cleanly if it is prepared first, and asks the store only then. -/
theorem FailsCleanly.of_prepared {α β : Type} {failed : ServiceError → α} {result : α × Service}
    {prepared : Except ServiceError β} (halike : FailAlike (service.check user demand) prepared)
    (hfailed : ∀ error, prepared = .error error → result = (failed error, service))
    (hasked : ∀ b, prepared = .ok b → AskedSince service.session result.2.session) :
    service.FailsCleanly user demand failed result where
  refused error hrefused := hfailed error (halike.eq_error_iff.mp hrefused.check)
  asked hpassed := by
    cases hprepared : prepared with
    | error e => exact absurd (refused_of_check (halike.eq_error_iff.mpr hprepared)) (hpassed e)
    | ok b => exact hasked b hprepared

private theorem askedSince_sending (session : Session) (statement : Sql.Statement) :
    AskedSince session (session.sending statement) :=
  ⟨statement, List.suffix_refl _⟩

theorem exportIds_failsCleanly (filter : FilterModel) (sort : List SortItem) :
    service.FailsCleanly user { Demand.ofFilter filter with sort } .error
      (service.exportIds user filter sort) := by
  refine .of_prepared (check_prepareExport filter sort) (fun error h => ?_) fun statement h => ?_
  · simp only [exportIds, h]
  · simp only [exportIds, h]
    exact askedSince_sending service.session statement

theorem labelDistribution_failsCleanly (filter : FilterModel) :
    service.FailsCleanly user (.ofFilter filter) .error (service.labelDistribution user filter) := by
  refine .of_prepared (check_prepareLabels filter) (fun error h => ?_) fun statement h => ?_
  · simp only [labelDistribution, h]
  · simp only [labelDistribution, h]
    exact askedSince_sending service.session statement

/-- The result of a change of memberships, once it is prepared. -/
def changeResult (service : Service) :
    Except ServiceError PreparedChange → Except ServiceError Nat × Service
  | .error error => (.error error, service)
  | .ok prepared =>
    ((service.runChange prepared).1.mapError .store, (service.runChange prepared).2)

theorem setMuted_eq (filter : FilterModel) (muted : Bool) :
    service.setMuted user filter muted = service.changeResult
      (service.prepareChange user filter.items (.visible filter.muteMode) (.mute muted)) := by
  rfl

theorem archive_eq (now : Timestamp) (filter : FilterModel) :
    service.archive now user filter = service.changeResult
      (service.prepareChange user filter.items (.visible filter.muteMode) (.archive user now)) := by
  rfl

theorem unarchive_eq (filter : FilterModel) :
    service.unarchive user filter = service.changeResult
      (service.prepareChange user filter.items .archived .unarchive) := by
  rfl

private theorem runChange_session (prepared : PreparedChange) :
    (service.runChange prepared).2.session = service.session.sending prepared.statement := by
  have hexecuted : service.session.execute prepared.statement =
      ((service.session.execute prepared.statement).1, service.session.sending prepared.statement) :=
    rfl
  rw [runChange, hexecuted]
  cases (service.session.execute prepared.statement).1 <;> rfl

theorem changeResult_failsCleanly (items : List FilterItem) (scope : Scope)
    (change : MembershipChange) :
    service.FailsCleanly user { scope, items } .error
      (service.changeResult (service.prepareChange user items scope change)) := by
  refine .of_prepared (check_prepareChange items scope change) (fun error h => ?_)
    fun prepared h => ?_
  · rw [h]
    rfl
  · rw [h]
    change AskedSince _ (service.runChange prepared).2.session
    rw [runChange_session]
    exact askedSince_sending service.session prepared.statement

private theorem runLookup_sent (service : Service) (tenant : String) (id : Uuid) :
    AskedSince service.session (service.runLookup tenant id).2.session := by
  let statement := service.queryStatement (lookupQuery tenant id)
  have hfetched : service.session.fetchIds statement =
      ((service.session.fetchIds statement).1, service.session.sending statement) := rfl
  rw [runLookup, hfetched]
  cases (service.session.fetchIds statement).1 with
  | error e => exact askedSince_sending service.session statement
  | ok ids =>
    cases ids with
    | nil => exact askedSince_sending service.session statement
    | cons first _ =>
      exact ⟨statement, hydrate_sent (service.session.sending statement) service.catalog tenant
        [first] Relation.forOne⟩

theorem artist_failsCleanly (scope : Scope) (id : Uuid) :
    service.FailsCleanly user { scope, items := [] }
      (fun error => { error := some error.publicMessage }) (service.artist user id) := by
  refine .of_prepared (check_resolveTenant scope) (fun error h => ?_) fun tenant h => ?_
  · simp only [artist, h]
  · have hsent := runLookup_sent service tenant id
    simp only [artist, h]
    rcases hrun : service.runLookup tenant id with ⟨_ | view, after⟩ <;> rw [hrun] at hsent <;>
      exact hsent

end Service

end TenantGrid
