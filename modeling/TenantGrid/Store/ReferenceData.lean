import TenantGrid.Catalog.Reference
import TenantGrid.Sql.Rendering
import TenantGrid.Store.Session
/-!
# Loading reference data

The catalog is read from its two tables, statistics before link sources, each in the order of ids.
-/
namespace TenantGrid

open Sql (Expr Query)

namespace Catalog

private def allRows (table : Table) (columns : List String) : Query where
  select := Sql.selectColumns table.name columns
  source := some { table := table.name }
  orderBy := [{ expr := Expr.ofTable table.name "id" }]

def statisticTypesQuery : Query :=
  allRows Schema.statisticTypes ["id", "source", "key", "name", "format", "display_order"]

def linkSourcesQuery : Query :=
  allRows Schema.linkSources ["id", "key", "logo", "url"]

private def statisticTypeOfRow (row : Row) : Except StoreError StatisticType :=
  (row.requiredInt 0).map fun id => {
    id
    source := row.text 1
    key := row.text 2
    name := row.text 3
    format := row.text 4
    displayOrder := row.int? 5 }

private def linkSourceOfRow (row : Row) : Except StoreError LinkSource :=
  (row.requiredInt 0).map fun id => {
    id
    key := row.text 1
    logo := row.text? 2
    url := row.text 3 }

/-- The statistic types that rows hold. -/
def typesOfRows (rows : List Row) : Except StoreError (List StatisticType) :=
  rows.mapM statisticTypeOfRow

/-- The link sources that rows hold. -/
def sourcesOfRows (rows : List Row) : Except StoreError (List LinkSource) :=
  rows.mapM linkSourceOfRow

end Catalog

/-- The catalog as it is in the store. -/
def Session.loadCatalog (session : Session) : Except StoreError Catalog × Session :=
  let dialect := session.store.dialect
  let (rows, session) := session.fetchRows (Catalog.statisticTypesQuery.statement dialect)
  match rows >>= Catalog.typesOfRows with
  | .error error => (.error error, session)
  | .ok types =>
    let (rows, session) := session.fetchRows (Catalog.linkSourcesQuery.statement dialect)
    ((rows >>= Catalog.sourcesOfRows).map (Catalog.ofLists types), session)

end TenantGrid
