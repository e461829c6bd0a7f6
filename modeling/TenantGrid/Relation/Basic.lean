import TenantGrid.Catalog.Schema
import TenantGrid.Plan.Basic
/-!
# Relations

What is loaded for a list of artists, with one query for each relation. Every query selects the
artist's id first, by which its rows find their artist again.
-/
namespace TenantGrid

open Sql (Expr Query SelectItem OrderKey)

inductive Relation where
  /-- The artists themselves. -/
  | artists
  | currentEvaluation
  /-- Every evaluation, the newest first. -/
  | evaluationHistory
  | statistics
  /-- Statistics with their documents of past figures. -/
  | statisticWindows
  | links
  /-- Tags that are visible to the tenant. -/
  | tags
  /-- The tenant's membership rows that are not archived. -/
  | memberships
  /-- The tenant's users that an artist is attributed to, the oldest first. -/
  | attributions
  deriving DecidableEq, Repr

namespace Relation

/-- The relations of a list page. -/
def forLists : List Relation :=
  [artists, currentEvaluation, statistics, links, tags, memberships, attributions]

/-- The relations of a single artist. -/
def forOne : List Relation :=
  [artists, currentEvaluation, evaluationHistory, statisticWindows, links, tags, memberships,
    attributions]

def artistColumns : List String :=
  ["id", "name", "spotify_id", "avatar", "active", "evaluation_id", "created_at", "updated_at"]

def evaluationColumns : List String :=
  ["id", "status", "distributor_type", "distributor", "label", "back_catalog", "created_at",
    "updated_at"]

def statisticColumns : List String :=
  ["statistic_type_id", "latest", "previous", "min", "max", "avg", "week_over_week",
    "month_over_month", "latest_date"]

def membershipColumns : List String :=
  ["added_by", "muted", "favorite", "created_at", "last_playlist_id"]

def currentAlias : String := "current_evaluation"

def linkAlias : String := "link"

def sourceAlias : String := "source"

def among (column : Expr) (ids : List Uuid) : Expr :=
  .inList column (ids.map fun id => .param (.uuid id)) false

/-- The artist's id and further columns of a table. -/
def keyed (table : String) (names : List String) : List (SelectItem Expr) :=
  Sql.selectColumns table ("artist_id" :: names)

def ascending (table name : String) : OrderKey Expr :=
  { expr := .ofTable table name }

def descending (table name : String) : OrderKey Expr :=
  { expr := .ofTable table name, direction := some .desc }

def artistsQuery (ids : List Uuid) : Query :=
  let query : Query := {
    select := Sql.selectColumns Schema.artists.name artistColumns
    source := some { table := Schema.artists.name } }
  query.filtered (among artistId ids)

def currentEvaluationQuery (ids : List Uuid) : Query :=
  let query : Query := {
    select := { expr := artistId } :: Sql.selectColumns currentAlias evaluationColumns
    source := some { table := Schema.artists.name } }
  (query.innerJoined { table := Schema.evaluations.name, aliasName := some currentAlias }
    ((Expr.ofTable currentAlias "id").eq (.ofTable Schema.artists.name "evaluation_id"))).filtered
    (among artistId ids)

def evaluationHistoryQuery (ids : List Uuid) : Query :=
  let table := Schema.evaluations.name
  let query : Query := {
    select := keyed table evaluationColumns
    source := some { table }
    orderBy := [descending table "created_at", descending table "id"] }
  query.filtered (among (.ofTable table "artist_id") ids)

def statisticsQuery (windows : Bool) (ids : List Uuid) : Query :=
  let table := Schema.statistics.name
  let query : Query := {
    select := keyed table (statisticColumns ++ if windows then ["data"] else [])
    source := some { table }
    orderBy := [ascending table "statistic_type_id"] }
  query.filtered (among (.ofTable table "artist_id") ids)

/-- The address of a link is that of its source and the path of the link. -/
def linksQuery (ids : List Uuid) : Query :=
  let query : Query := {
    select := [
      { expr := .ofTable linkAlias "artist_id" },
      { expr := .ofTable linkAlias "link_source_id" },
      { expr := .ofTable sourceAlias "key" },
      { expr := .ofTable sourceAlias "logo" },
      { expr := (Expr.ofTable sourceAlias "url").concat (.ofTable linkAlias "path"),
        aliasName := some "url" }]
    source := some { table := Schema.artistLinks.name, aliasName := some linkAlias }
    orderBy := [ascending linkAlias "id"] }
  (query.innerJoined { table := Schema.linkSources.name, aliasName := some sourceAlias }
    ((Expr.ofTable sourceAlias "id").eq (.ofTable linkAlias "link_source_id"))).filtered
    (among (.ofTable linkAlias "artist_id") ids)

def tagsQuery (tenant : String) (ids : List Uuid) : Query :=
  let table := Schema.tags.name
  let query : Query := {
    select := keyed table ["tag", "tag_type_id"]
    source := some { table }
    orderBy := [ascending table "tag_type_id", ascending table "tag"] }
  (query.filtered (among (.ofTable table "artist_id") ids)).filtered
    (visibleTo tenant (.ofTable table "organization_id"))

def membershipsQuery (tenant : String) (ids : List Uuid) : Query :=
  let table := Schema.memberships.name
  let query : Query := {
    select := keyed table membershipColumns
    source := some { table }
    orderBy := [ascending table "created_at"] }
  ((query.filtered ((Expr.ofTable table "organization_id").eq (.param (.text tenant)))).filtered
    ((Expr.ofTable table "archived").eq (.boolLiteral false))).filtered
    (among (.ofTable table "artist_id") ids)

def attributionsQuery (tenant : String) (ids : List Uuid) : Query :=
  let table := Schema.userArtists.name
  let query : Query := {
    select := keyed table ["user_id", "created_at"]
    source := some { table }
    orderBy := [ascending table "created_at", ascending table "user_id"] }
  (query.filtered ((Expr.ofTable table "organization_id").eq (.param (.text tenant)))).filtered
    (among (.ofTable table "artist_id") ids)

/-- The query that loads a relation of the artists with the given ids. -/
def query (relation : Relation) (tenant : String) (ids : List Uuid) : Query :=
  match relation with
  | artists => artistsQuery ids
  | currentEvaluation => currentEvaluationQuery ids
  | evaluationHistory => evaluationHistoryQuery ids
  | statistics => statisticsQuery false ids
  | statisticWindows => statisticsQuery true ids
  | links => linksQuery ids
  | tags => tagsQuery tenant ids
  | memberships => membershipsQuery tenant ids
  | attributions => attributionsQuery tenant ids

end Relation

end TenantGrid
