import TenantGrid.Cache.CountCache
import TenantGrid.Plan.Basic
import TenantGrid.Service.Error
import TenantGrid.Settings.Basic
import TenantGrid.Store.ReferenceData
/-!
# The service

A service answers the requests of callers, each within the caller's tenant. A request is first
prepared, which takes neither the store nor the cache, and only then run.
-/
namespace TenantGrid

structure Service where
  session : Session
  /-- The tenant of a user. -/
  tenantOf : String → Option String
  catalog : Catalog := {}
  /-- Counts are cached only if there is a cache. -/
  cache : Option CountCache := none
  limits : QuerySettings := {}

namespace Service

/-- The service with the limits of the settings and, if they ask for it, a new cache. -/
def withSettings (service : Service) (settings : Settings) : Service :=
  let lifetime := CountCache.secondsToTicks settings.cache.lifetimeSeconds.toNat
  { service with
    limits := settings.query
    cache := if settings.cache.enabled then
        some { lifetime, maxEntries := settings.cache.maxEntries.toNat }
      else none }

def withCache (service : Service) (cache : CountCache) : Service :=
  { service with cache := some cache }

/-- Requests are compiled in the dialect of the store. -/
def compiler (service : Service) : Compiler where
  catalog := service.catalog
  dialect := service.session.store.dialect
  escapeNegated := service.limits.escapeNegated

def queryStatement (service : Service) (query : Sql.Query) : Sql.Statement :=
  query.statement service.session.store.dialect

def resolveTenant (service : Service) (user : String) : Except ServiceError String :=
  match service.tenantOf user with
  | some tenant => .ok tenant
  | none => .error (.noTenant user)

def planFor (service : Service) (tenant : String) (filter : FilterModel) :
    Except ServiceError FilterPlan :=
  (service.compiler.plan tenant filter).mapError .request

/-- The catalog read again from the store; it is kept as it was if that fails. -/
def reloadCatalog (service : Service) : Except ServiceError Catalog × Service :=
  match service.session.loadCatalog with
  | (.ok catalog, session) => (.ok catalog, { service with session, catalog })
  | (.error error, session) => (.error (.store error), { service with session })

end Service

end TenantGrid
