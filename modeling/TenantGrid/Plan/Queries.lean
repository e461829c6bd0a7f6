import TenantGrid.Plan.Sorting
import TenantGrid.Relation.Basic
/-!
# Queries of a plan

One page of artist ids, their number, all ids, and the artists counted by label, each over the same
conditions.
-/
namespace TenantGrid

open Sql (Expr Query)

def currentEvaluationAlias : String := "current_evaluation"

namespace FilterPlan

/-- The number of matching artists. -/
def countQuery (plan : FilterPlan) : Query :=
  plan.baseQuery plan.joins artistId.countDistinct

/-- Every matching id, in no order. -/
def idQuery (plan : FilterPlan) : Query :=
  (plan.baseQuery plan.joins artistId).onlyDistinct

/-- Matching artists counted by the label of their current evaluation, the largest count first. -/
def labelQuery (plan : FilterPlan) : Query :=
  let label := Expr.ofTable currentEvaluationAlias "label"
  let query : Query := {
    select := [
      { expr := label, aliasName := some "label" },
      { expr := artistId.countDistinct, aliasName := some "artist_count" }]
    source := some { table := Schema.artists.name }
    groupBy := [label]
    orderBy := [
      { expr := artistId.countDistinct, direction := some .desc },
      { expr := label, nulls := some .last }] }
  (query.leftJoined
    { table := Schema.evaluations.name, aliasName := some currentEvaluationAlias }
    ((Expr.ofTable currentEvaluationAlias "id").eq
      (.ofTable Schema.artists.name "evaluation_id"))).filtered
    (.inQuery artistId plan.idQuery false)

end FilterPlan

/-- One artist by id, if it is visible to the tenant, muted or not. -/
def lookupQuery (tenant : String) (id : Uuid) : Query :=
  let query : Query := {
    select := [{ expr := artistId }]
    source := some { table := Schema.artists.name } }
  (query.filtered (artistId.eq (.param (.uuid id)))).filtered
    (tenantScope tenant (.visible .showAll))

/-- What a compiled request returns. -/
inductive Mode where
  /-- One page of ids, whose relations are loaded afterwards. -/
  | rows
  | count
  /-- Every matching id. -/
  | ids
  deriving DecidableEq, Repr

/-- A request compiled in one mode. -/
structure Compiled where
  plan : FilterPlan
  query : Query
  statement : Sql.Statement
  /-- The relations to load for the ids. -/
  relations : List Relation

namespace Compiler

def sortedQuery (compiler : Compiler) (plan : FilterPlan) (sort : List SortItem) :
    Except RequestError Query := do
  let (joins, keys) ← compiler.orderKeys plan.joins sort
  let query := plan.baseQuery joins artistId
  .ok { query with groupBy := [artistId], orderBy := keys }

def pageQuery (compiler : Compiler) (plan : FilterPlan) (sort : List SortItem) (page : Page) :
    Except RequestError Query := do
  let query ← compiler.sortedQuery plan sort
  .ok ((query.limited page.size).skipping page.offset)

/-- Every matching id, in order only if a sort is given. -/
def idsQuery (compiler : Compiler) (plan : FilterPlan) (sort : List SortItem) :
    Except RequestError Query :=
  if sort.isEmpty then .ok plan.idQuery else compiler.sortedQuery plan sort

def modeQuery (compiler : Compiler) (plan : FilterPlan) (sort : List SortItem)
    (page : Page) : Mode → Except RequestError Query
  | .rows => compiler.pageQuery plan sort page
  | .count => .ok plan.countQuery
  | .ids => compiler.idsQuery plan sort

def compile (compiler : Compiler) (tenant : String) (filter : FilterModel) (sort : List SortItem)
    (page : Page) (mode : Mode) : Except RequestError Compiled := do
  let plan ← compiler.plan tenant filter
  let query ← compiler.modeQuery plan sort page mode
  .ok { plan, query, statement := query.statement compiler.dialect,
        relations := if mode = .rows then Relation.forLists else [] }

end Compiler

end TenantGrid
