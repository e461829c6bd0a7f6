import TenantGrid.Catalog.Column
/-!
# Schema

The tables of the store: artists with their evaluations and statistics, what an organization knows
about them, and the reference data that names statistics and links.
-/
namespace TenantGrid.Schema

def evaluationStatus : List Choice :=
  [⟨"unknown", 0⟩, ⟨"unsigned", 1⟩, ⟨"signed", 2⟩]

def distributorType : List Choice :=
  [⟨"unknown", 0⟩, ⟨"diy", 1⟩, ⟨"indie", 2⟩, ⟨"major", 3⟩]

def backCatalog : List Choice :=
  [⟨"clean", 0⟩, ⟨"dirty", 1⟩]

private def artistId : Column :=
  (Column.uuid "artist_id").required.referring "artists" "id"

def artists : Table where
  name := "artists"
  columns := [
    { Column.uuid "id" with primaryKey := true },
    .varchar "name" 256,
    { Column.varchar "spotify_id" 22 with unique := true },
    .text "avatar",
    .flag "active" true,
    .int "evaluation_id",
    .timestamp "created_at",
    .timestamp "updated_at"]

def evaluations : Table where
  name := "evaluations"
  columns := [
    .serial "id",
    artistId,
    .coded "status" evaluationStatus,
    .coded "distributor_type" distributorType,
    .varchar "distributor" 256,
    .varchar "label" 256,
    .coded "back_catalog" backCatalog,
    .timestamp "created_at",
    .timestamp "updated_at"]
  indexes := [["artist_id"]]

def statisticTypes : Table where
  name := "statistic_types"
  columns := [
    .serial "id",
    (Column.varchar "source" 256).required,
    (Column.varchar "key" 128).required,
    (Column.text "name").required,
    (Column.varchar "format" 8).required,
    .int "display_order"]

def statistics : Table where
  name := "statistics"
  columns := [
    artistId,
    (Column.int "statistic_type_id").required.referring "statistic_types" "id",
    .real "latest",
    .real "previous",
    .real "min",
    .real "max",
    .real "avg",
    .real "week_over_week",
    .real "month_over_month",
    .document "data",
    .timestamp "latest_date",
    .timestamp "created_at",
    .timestamp "updated_at"]
  compositeKey := ["artist_id", "statistic_type_id"]

/-- The artists that an organization keeps, one row for every user who added one. -/
def memberships : Table where
  name := "organizations_artists"
  columns := [
    (Column.varchar "organization_id" 28).required,
    artistId,
    (Column.varchar "added_by" 28).required,
    .flag "muted" false,
    .flag "archived" false,
    .timestamp "archived_at",
    .varchar "archived_by" 28,
    .flag "favorite" false,
    .timestamp "created_at",
    .text "last_playlist_id"]
  compositeKey := ["organization_id", "artist_id", "added_by"]
  indexes := [["organization_id", "archived", "muted"], ["artist_id"]]

def tags : Table where
  name := "tags"
  columns := [
    .serial "id",
    artistId,
    (Column.text "tag").required,
    (Column.int "tag_type_id").required,
    .varchar "organization_id" 28,
    .timestamp "created_at"]
  indexes := [["artist_id", "tag_type_id"]]

/-- The users of an organization that an artist is attributed to. -/
def userArtists : Table where
  name := "user_artists"
  columns := [
    (Column.varchar "user_id" 28).required,
    (Column.varchar "organization_id" 28).required,
    artistId,
    .timestamp "created_at"]
  compositeKey := ["user_id", "organization_id", "artist_id"]
  indexes := [["organization_id", "artist_id"]]

def linkSources : Table where
  name := "link_sources"
  columns := [
    .serial "id",
    (Column.varchar "key" 32).required,
    .text "logo",
    (Column.text "url").required]

def artistLinks : Table where
  name := "artist_links"
  columns := [
    .serial "id",
    artistId,
    (Column.int "link_source_id").required.referring "link_sources" "id",
    (Column.text "path").required]
  indexes := [["artist_id"]]

/-- All tables, each after those it refers to. -/
def tables : List Table :=
  [artists, evaluations, statisticTypes, statistics, memberships, tags, userArtists, linkSources,
    artistLinks]

def table? (name : String) : Option Table :=
  tables.find? fun t => t.name == name

def definitions : List Sql.Definition :=
  tables.flatMap Table.definitions

end TenantGrid.Schema
