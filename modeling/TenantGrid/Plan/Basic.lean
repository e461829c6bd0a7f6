import TenantGrid.Filter.Joins
import TenantGrid.Filter.Predicate
import TenantGrid.Plan.Scope
import TenantGrid.Sql.Rendering
/-!
# Filter plans

The filter items of a request are compiled once, one after another, into the joins they read and
the conditions they put. Every query of the request is built from this plan.
-/
namespace TenantGrid

open Sql (Expr Query)

/-- How requests are compiled. -/
structure Compiler where
  catalog : Catalog := {}
  dialect : Sql.Dialect := .postgres
  /-- Wildcards in the value of `doesNotContain` stand for themselves. -/
  escapeNegated : Bool := false

structure FilterPlan where
  tenant : String
  scope : Scope
  joins : JoinSet := []
  predicates : List Expr := []

namespace FilterPlan

/-- The tenant's scope and every condition of the plan. -/
def condition (plan : FilterPlan) : Expr :=
  plan.predicates.foldl .and (tenantScope plan.tenant plan.scope)

/-- Membership rows are those in the scope's archive state. -/
def joinCondition (plan : FilterPlan) (joined : JoinedTable) : Expr :=
  let column := Expr.ofTable joined.aliasName
  match joined.target with
  | .statistic typeId =>
    ((column "artist_id").eq artistId).and ((column "statistic_type_id").eq (.param (.int typeId)))
  | .evaluation => (column "id").eq (.ofTable Schema.artists.name "evaluation_id")
  | .membership =>
    (((column "artist_id").eq artistId).and
      ((column "organization_id").eq (.param (.text plan.tenant)))).and
      ((column "archived").eq (.boolLiteral plan.scope.isArchived))

/-- A query of the artists that the plan matches, over its own joins or more. -/
def baseQuery (plan : FilterPlan) (joins : JoinSet) (select : Expr) : Query :=
  let query : Query := {
    select := [{ expr := select }]
    source := some { table := Schema.artists.name }
    joins := joins.map fun joined =>
      ⟨.left, { table := joined.target.table.name, aliasName := some joined.aliasName },
        plan.joinCondition joined⟩ }
  query.filtered plan.condition

end FilterPlan

def tagAlias : String := "tag_match"

def userAlias : String := "user_match"

/-- Rows that belong to all organizations or to the tenant. -/
def visibleTo (tenant : String) (organization : Expr) : Expr :=
  .paren ((Expr.isNull organization false).or (organization.eq (.param (.text tenant))))

def restricted (query : Query) : Option Expr → Query
  | some inner => query.filtered inner
  | none => query

/-- The artists with a tag of the type that is visible to the tenant. -/
def tagQuery (tenant : String) (type : TagType) (inner : Option Expr) : Query :=
  let column := Expr.ofTable tagAlias
  let tagged : Query := {
    select := [{ expr := column "artist_id" }]
    source := some { table := Schema.tags.name, aliasName := some tagAlias } }
  let ofType := tagged.filtered ((column "tag_type_id").eq (.param (.int type.id)))
  restricted (ofType.filtered (visibleTo tenant (column "organization_id"))) inner

/-- The artists attributed to a user of the tenant. -/
def userQuery (tenant : String) (inner : Option Expr) : Query :=
  let column := Expr.ofTable userAlias
  let attributed : Query := {
    select := [{ expr := column "artist_id" }]
    source := some { table := Schema.userArtists.name, aliasName := some userAlias } }
  restricted (attributed.filtered ((column "organization_id").eq (.param (.text tenant)))) inner

namespace Compiler

/-- The operator that an item names, for a column of the given type. -/
def operator (item : FilterItem) (type : ColumnType) : Except RequestError Operator :=
  match Operator.ofName? item.operator with
  | some op => .ok op
  | none => .error (.unsupportedOperator item.field item.operator type)

def columnPredicate (compiler : Compiler) (item : FilterItem) (table : String)
    (column : Column) : Except RequestError (Option Expr) := do
  let op ← operator item column.type
  let subject : Subject :=
    { field := item.field, column := .ofTable table column.name, type := column.type }
  subject.predicate compiler.escapeNegated op item.value

def statisticPredicate (compiler : Compiler) (item : FilterItem) (aliasName : String)
    (metric : Metric) : Except RequestError (Option Expr) := do
  let op ← operator item .real
  let subject : Subject :=
    { field := item.field, column := .ofTable aliasName metric.column, type := .real,
      percent := metric.isPercent }
  subject.predicate compiler.escapeNegated op item.value

def attributionPredicate (compiler : Compiler) (item : FilterItem) (aliasName : String)
    (column : Column) : Except RequestError (Option Expr) := do
  match ← attributionOperator item.field item.value with
  | some op =>
    let subject : Subject :=
      { field := item.field, column := .ofTable aliasName column.name, type := column.type }
    subject.predicate compiler.escapeNegated op item.value
  | none => .ok none

def relationPredicate (compiler : Compiler) (item : FilterItem) (column : Expr)
    (related : Option Expr → Query) : Except RequestError (Option Expr) := do
  let op ← operator item .text
  let membership ← Membership.ofItem compiler.escapeNegated item.field column op item.value
  .ok (membership.map fun m => .inQuery artistId (related m.inner) m.negated)

/-- The condition of one item, whose joined rows go by the next alias. -/
def itemPredicate (compiler : Compiler) (tenant : String) (joins : JoinSet) (item : FilterItem) :
    Route → Except RequestError (Option Expr)
  | .artist column => compiler.columnPredicate item Schema.artists.name column
  | .statistic typeId metric =>
    compiler.statisticPredicate item (joins.nextAlias (.statistic typeId)) metric
  | .evaluation column => compiler.columnPredicate item (joins.nextAlias .evaluation) column
  | .membership column => compiler.columnPredicate item (joins.nextAlias .membership) column
  | .attribution column => compiler.attributionPredicate item (joins.nextAlias .membership) column
  | .tags type =>
    compiler.relationPredicate item (.ofTable tagAlias "tag") (tagQuery tenant type)
  | .users =>
    compiler.relationPredicate item (.ofTable userAlias "user_id") (userQuery tenant)

def joinsAfter (joins : JoinSet) : Option JoinTarget → JoinSet
  | some target => joins.allocate target
  | none => joins

/-- The plan with one more item. An item without a condition leaves the plan as it is. -/
def addItem (compiler : Compiler) (plan : FilterPlan) (item : FilterItem) :
    Except RequestError FilterPlan := do
  let route ← compiler.catalog.route item.field
  match ← compiler.itemPredicate plan.tenant plan.joins item route with
  | some predicate =>
    .ok { plan with
      joins := joinsAfter plan.joins route.joinTarget?
      predicates := plan.predicates ++ [predicate] }
  | none => .ok plan

/-- The plan of filter items within a scope. -/
def planWithin (compiler : Compiler) (tenant : String) (scope : Scope) (items : List FilterItem) :
    Except RequestError FilterPlan :=
  items.foldlM compiler.addItem { tenant, scope }

/-- The plan of a filter within the scope that its mute mode asks for. -/
def plan (compiler : Compiler) (tenant : String) (filter : FilterModel) :
    Except RequestError FilterPlan :=
  compiler.planWithin tenant (.visible filter.muteMode) filter.items

end Compiler

end TenantGrid
