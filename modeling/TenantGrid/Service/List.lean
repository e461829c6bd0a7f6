import TenantGrid.Cache.CountKey
import TenantGrid.Plan.Queries
import TenantGrid.Service.Basic
import TenantGrid.Store.Hydration
/-!
# Listing artists

One page of artists together with the number of all that match. Both queries are sent, the page
first, unless the count is in the cache. The response has the form of a page also when the request
fails; it then holds no artists and says why.
-/
namespace TenantGrid

structure ListResponse where
  rows : List ArtistView := []
  rowCount : Nat := 0
  page : Page
  filter : FilterModel
  sort : List SortItem
  /-- What the caller is told of a failure. -/
  error : Option String := none

def ListResponse.json (response : ListResponse) : Json :=
  .object [("rows", .array (response.rows.map ArtistView.listJson)),
    ("rowCount", .ofNat response.rowCount),
    ("page", .ofNat response.page.number.toNat),
    ("pageSize", .ofNat response.page.size.toNat),
    ("filterModel", response.filter.json),
    ("sortModel", .array (response.sort.map SortItem.json)),
    ("error", .nullableString response.error)]

namespace Service

/-- A list request that can be run. -/
structure PreparedList where
  tenant : String
  page : Sql.Statement
  count : Sql.Statement

def pageOf (service : Service) (request : ListRequest) : Page :=
  request.pageOf service.limits.defaultPageSize

def checkPage (service : Service) (page : Page) : Except ServiceError Unit :=
  if page.size = 0 then .error (.invalidPage .empty)
  else if service.limits.maxPageSize < page.size then
    .error (.invalidPage (.tooLarge service.limits.maxPageSize))
  else .ok ()

def prepareList (service : Service) (user : String) (request : ListRequest) :
    Except ServiceError PreparedList := do
  let tenant ← service.resolveTenant user
  service.checkPage (service.pageOf request)
  let plan ← service.planFor tenant request.filter
  let query ← (service.compiler.pageQuery plan request.sort (service.pageOf request)).mapError
    .request
  .ok {
    tenant
    page := service.queryStatement query
    count := service.queryStatement plan.countQuery }

/-- The count that a statement selects, remembered under a key if there is a cache. -/
def fetchCount (service : Service) (now : Nat) (key tenant : String) (statement : Sql.Statement) :
    Except StoreError Nat × Service :=
  let (count, session) := service.session.fetchCount statement
  let service := { service with session }
  match count with
  | .ok n =>
    (.ok n, { service with cache := service.cache.map fun c => c.insert now key tenant n })
  | .error error => (.error error, service)

/-- The count from the cache, or else from the store. -/
def count (service : Service) (now : Nat) (tenant : String) (filter : FilterModel)
    (statement : Sql.Statement) : Except StoreError Nat × Service :=
  let key := (CountKey.ofFilter tenant filter).digest
  match service.cache with
  | none => service.fetchCount now key tenant statement
  | some cache =>
    match cache.get now key with
    | (some n, cache) => (.ok n, { service with cache := some cache })
    | (none, cache) => { service with cache := some cache }.fetchCount now key tenant statement

/-- The artists of a page and the count. Of two failures that of the page is reported. -/
def runList (service : Service) (now : Nat) (filter : FilterModel) (prepared : PreparedList) :
    Except StoreError (List ArtistView × Nat) × Service :=
  let (ids, session) := service.session.fetchIds prepared.page
  let (count, service) :=
    { service with session }.count now prepared.tenant filter prepared.count
  match ids, count with
  | .error error, _ => (.error error, service)
  | .ok _, .error error => (.error error, service)
  | .ok ids, .ok count =>
    let (rows, session) :=
      service.session.hydrate service.catalog prepared.tenant ids Relation.forLists
    (rows.map fun rows => (rows, count), { service with session })

private def listResponse (service : Service) (request : ListRequest) :
    Except ServiceError (List ArtistView × Nat) → ListResponse
  | .ok (rows, rowCount) =>
    { rows, rowCount, page := service.pageOf request, filter := request.filter,
      sort := request.sort }
  | .error error =>
    { page := service.pageOf request, filter := request.filter, sort := request.sort,
      error := some error.publicMessage }

/-- One page of the caller's artists. -/
def list (service : Service) (now : Nat) (user : String) (request : ListRequest) :
    ListResponse × Service :=
  match service.prepareList user request with
  | .error error => (service.listResponse request (.error error), service)
  | .ok prepared =>
    let (result, after) := service.runList now request.filter prepared
    (service.listResponse request (result.mapError .store), after)

end Service

end TenantGrid
