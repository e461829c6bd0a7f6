import TenantGrid.Plan.Basic
/-!
# Sorting

Rows are grouped by artist, so that a sort reads the least value of an artist when it ascends and
the greatest when it descends. Artists without a value come last, and ids decide between equals.
-/
namespace TenantGrid

open Sql (Expr OrderKey)

/-- The column that a sort by a route reads, its type, and the joins with the one it needs. -/
def Route.sortColumn? (joins : JoinSet) : Route → Option (Expr × ColumnType × JoinSet)
  | .artist column => some (.ofTable Schema.artists.name column.name, column.type, joins)
  | .statistic typeId metric =>
    let (aliasName, joins) := joins.reuseOrAllocate (.statistic typeId)
    some (.ofTable aliasName metric.column, .real, joins)
  | .evaluation column =>
    let (aliasName, joins) := joins.reuseOrAllocate .evaluation
    some (.ofTable aliasName column.name, column.type, joins)
  | .membership column | .attribution column =>
    let (aliasName, joins) := joins.reuseOrAllocate .membership
    some (.ofTable aliasName column.name, column.type, joins)
  | .tags _ | .users => none

/-- Documents and ids have no order that a reader could use. -/
def ColumnType.isSortable (type : ColumnType) : Bool :=
  type != .json && type != .uuid

namespace Compiler

/-- The value of a group that a sort reads. PostgreSQL has aggregates of its own for booleans. -/
def aggregate (compiler : Compiler) (key : Expr) (type : ColumnType) :
    Sql.Direction → Expr
  | .asc =>
    if type = .bool ∧ compiler.dialect = .postgres then .call "BOOL_AND" false [key] else key.min
  | .desc =>
    if type = .bool ∧ compiler.dialect = .postgres then .call "BOOL_OR" false [key] else key.max

/-- The joins and order keys with those of one more sort item. -/
def addSort (compiler : Compiler) (before : JoinSet × List (OrderKey Expr)) (item : SortItem) :
    Except RequestError (JoinSet × List (OrderKey Expr)) := do
  let route ← compiler.catalog.route item.field
  match route.sortColumn? before.1 with
  | none => .error (.unsortableField item.field)
  | some (key, type, joins) =>
    if item.field = "id" then
      .ok (before.1, before.2 ++ [{ expr := artistId, direction := some item.direction }])
    else if !type.isSortable then .error (.unsortableField item.field)
    else
      .ok (joins, before.2 ++ [{
        expr := compiler.aggregate key type item.direction
        direction := some item.direction
        nulls := some .last }])

/-- The joins of a sorted query and its order keys, the artist's id last. -/
def orderKeys (compiler : Compiler) (joins : JoinSet) (sort : List SortItem) :
    Except RequestError (JoinSet × List (OrderKey Expr)) := do
  let (joins, keys) ← sort.foldlM compiler.addSort (joins, [])
  .ok (joins, keys ++ [{ expr := artistId }])

end Compiler

end TenantGrid
