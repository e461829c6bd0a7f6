import TenantGrid.Plan.Change
import TenantGrid.Service.Basic
import TenantGrid.Store.View
/-!
# Bulk operations

Operations on all artists that a filter matches: their ids, their labels, and changes of the
tenant's membership rows. A change that succeeds forgets the tenant's counts.
-/
namespace TenantGrid

namespace Service

def prepareExport (service : Service) (user : String) (filter : FilterModel)
    (sort : List SortItem) : Except ServiceError Sql.Statement := do
  let tenant ← service.resolveTenant user
  let plan ← service.planFor tenant filter
  let query ← (service.compiler.idsQuery plan sort).mapError .request
  .ok (service.queryStatement query)

/-- Every matching id, in the order of the sort if there is one. -/
def exportIds (service : Service) (user : String) (filter : FilterModel) (sort : List SortItem) :
    Except ServiceError (List Uuid) × Service :=
  match service.prepareExport user filter sort with
  | .error error => (.error error, service)
  | .ok statement =>
    let (ids, session) := service.session.fetchIds statement
    (ids.mapError .store, { service with session })

/-- A change of memberships that can be run. -/
structure PreparedChange where
  tenant : String
  statement : Sql.Statement

def prepareChange (service : Service) (user : String) (items : List FilterItem) (scope : Scope)
    (change : MembershipChange) : Except ServiceError PreparedChange := do
  let tenant ← service.resolveTenant user
  let plan ← (service.compiler.planWithin tenant scope items).mapError .request
  .ok {
    tenant
    statement := (plan.membershipUpdate change).statement service.session.store.dialect }

/-- The number of rows that a change applies to. -/
def runChange (service : Service) (prepared : PreparedChange) :
    Except StoreError Nat × Service :=
  match service.session.execute prepared.statement with
  | (.error error, session) => (.error error, { service with session })
  | (.ok changed, session) =>
    (.ok changed, { service with
      session
      cache := service.cache.map fun cache => cache.invalidate prepared.tenant })

private def change (service : Service) (user : String) (items : List FilterItem) (scope : Scope)
    (change : MembershipChange) : Except ServiceError Nat × Service :=
  match service.prepareChange user items scope change with
  | .error error => (.error error, service)
  | .ok prepared =>
    let (changed, service) := service.runChange prepared
    (changed.mapError .store, service)

/-- Mutes the matching memberships, or takes the mute off them. -/
def setMuted (service : Service) (user : String) (filter : FilterModel) (muted : Bool) :
    Except ServiceError Nat × Service :=
  service.change user filter.items (.visible filter.muteMode) (.mute muted)

/-- Archives the matching memberships in the name of the caller. -/
def archive (service : Service) (now : Timestamp) (user : String) (filter : FilterModel) :
    Except ServiceError Nat × Service :=
  service.change user filter.items (.visible filter.muteMode) (.archive user now)

/-- Restores the archived memberships that the filter items match. -/
def unarchive (service : Service) (user : String) (filter : FilterModel) :
    Except ServiceError Nat × Service :=
  service.change user filter.items .archived .unarchive

def prepareLabels (service : Service) (user : String) (filter : FilterModel) :
    Except ServiceError Sql.Statement := do
  let tenant ← service.resolveTenant user
  let plan ← service.planFor tenant filter
  .ok (service.queryStatement plan.labelQuery)

/-- Matching artists counted by label, the largest count first. -/
def labelDistribution (service : Service) (user : String) (filter : FilterModel) :
    Except ServiceError (List LabelCount) × Service :=
  match service.prepareLabels user filter with
  | .error error => (.error error, service)
  | .ok statement =>
    let (rows, session) := service.session.fetchRows statement
    ((rows >>= fun rows => rows.mapM LabelCount.ofRow).mapError .store, { service with session })

end Service

end TenantGrid
