import TenantGrid.Plan.Queries
import TenantGrid.Service.Basic
import TenantGrid.Store.Hydration
/-!
# A single artist

One artist with all its relations, if it is visible to the caller's tenant. Muted artists are,
archived ones are not.
-/
namespace TenantGrid

structure SingleResponse where
  artist : Option ArtistView := none
  /-- What the caller is told of a failure. -/
  error : Option String := none

def SingleResponse.json (response : SingleResponse) : Json :=
  .object [("artist", .ofOption ArtistView.json response.artist),
    ("error", .nullableString response.error)]

namespace Service

private def firstOrMissing (id : Uuid) : List ArtistView → Except ServiceError ArtistView
  | [] => .error (.notFound id)
  | view :: _ => .ok view

/-- The artist of the first id that the lookup gives. -/
def runLookup (service : Service) (tenant : String) (id : Uuid) :
    Except ServiceError ArtistView × Service :=
  match service.session.fetchIds (service.queryStatement (lookupQuery tenant id)) with
  | (.error error, session) => (.error (.store error), { service with session })
  | (.ok [], session) => (.error (.notFound id), { service with session })
  | (.ok (first :: _), session) =>
    let (views, session) := session.hydrate service.catalog tenant [first] Relation.forOne
    (views.mapError .store >>= firstOrMissing id, { service with session })

def artist (service : Service) (user : String) (id : Uuid) : SingleResponse × Service :=
  match service.resolveTenant user with
  | .error error => ({ error := some error.publicMessage }, service)
  | .ok tenant =>
    match service.runLookup tenant id with
    | (.ok view, service) => ({ artist := some view }, service)
    | (.error error, service) => ({ error := some error.publicMessage }, service)

end Service

end TenantGrid
