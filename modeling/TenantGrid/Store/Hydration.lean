import TenantGrid.Relation.Basic
import TenantGrid.Store.Session
import TenantGrid.Store.View
/-!
# Hydration

The artists of a list of ids are loaded with one query for each relation, and the rows find their
artist by the id they begin with. Rows of the artists themselves are taken first, so that all
others have an artist to go to. An id without an artist gives nothing.
-/
namespace TenantGrid

namespace ArtistView

/-- The artist with one more row of a relation. -/
def attach (catalog : Catalog) (view : ArtistView) (row : Row) :
    Relation → Except StoreError ArtistView
  | .artists => .ok view
  | .currentEvaluation =>
    (EvaluationView.ofRow row).map fun e => { view with evaluation := some e }
  | .evaluationHistory =>
    (EvaluationView.ofRow row).map fun e => { view with evaluations := view.evaluations ++ [e] }
  | .statistics | .statisticWindows =>
    (StatisticView.ofRow catalog row).map fun s =>
      { view with statistics := view.statistics ++ [s] }
  | .links => .ok { view with links := view.links ++ [.ofRow row] }
  | .tags => .ok { view with tags := view.tags ++ [.ofRow row] }
  | .memberships => .ok { view with memberships := view.memberships ++ [.ofRow row] }
  | .attributions => .ok { view with users := view.users ++ [.ofRow row] }

end ArtistView

namespace Hydration

/-- Rows together with the relation they were loaded for. -/
abbrev Loaded := List (Relation × List Row)

/-- The artists with one of them in place of an earlier one with its id. -/
def put (view : ArtistView) : List ArtistView → List ArtistView
  | [] => [view]
  | other :: rest => if other.id = view.id then view :: rest else other :: put view rest

/-- The artists with a row attached to the one it belongs to, if there is one. -/
def attachTo (catalog : Catalog) (relation : Relation) (row : Row) (id : Uuid) :
    List ArtistView → Except StoreError (List ArtistView)
  | [] => .ok []
  | view :: rest =>
    if view.id = id then (view.attach catalog row relation).map (· :: rest)
    else (attachTo catalog relation row id rest).map (view :: ·)

/-- The artists with one more row of a relation. -/
def addRow (catalog : Catalog) (relation : Relation) (views : List ArtistView) (row : Row) :
    Except StoreError (List ArtistView) :=
  if relation = .artists then (ArtistView.ofRow row).map fun view => put view views
  else row.uuid 0 >>= fun id => attachTo catalog relation row id views

def addRows (catalog : Catalog) (views : List ArtistView) (loaded : Relation × List Row) :
    Except StoreError (List ArtistView) :=
  loaded.2.foldlM (addRow catalog loaded.1) views

/-- The rows of artists before all others. -/
def artistsFirst (loaded : Loaded) : Loaded :=
  loaded.filter (fun l => l.1 = .artists) ++ loaded.filter fun l => l.1 ≠ .artists

/-- The artists of the ids, each at the first place of its id. -/
def assemble (catalog : Catalog) (ids : List Uuid) (loaded : Loaded) :
    Except StoreError (List ArtistView) := do
  let views ← (artistsFirst loaded).foldlM (addRows catalog) []
  .ok (ids.eraseDups.filterMap fun id => views.find? fun view => view.id == id)

end Hydration

namespace Session

/-- The rows of every relation, up to the first that cannot be loaded. -/
def fetchRelations (session : Session) (tenant : String) (ids : List Uuid) :
    List Relation → Except StoreError Hydration.Loaded × Session
  | [] => (.ok [], session)
  | relation :: rest =>
    match session.fetchRows ((relation.query tenant ids).statement session.store.dialect) with
    | (.error error, session) => (.error error, session)
    | (.ok rows, session) =>
      let (loaded, session) := session.fetchRelations tenant ids rest
      (loaded.map ((relation, rows) :: ·), session)

/-- The artists of the ids with their relations. No ids need no query. -/
def hydrate (session : Session) (catalog : Catalog) (tenant : String) (ids : List Uuid)
    (relations : List Relation) : Except StoreError (List ArtistView) × Session :=
  if ids.isEmpty then (.ok [], session)
  else
    let (loaded, session) := session.fetchRelations tenant ids relations
    (loaded >>= Hydration.assemble catalog ids, session)

end Session

end TenantGrid
