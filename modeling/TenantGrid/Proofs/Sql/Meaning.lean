import Mathlib.Data.Multiset.Bind
import TenantGrid.Proofs.Sql.Collation
/-!
# What statements mean

A database gives every table a bag of rows. A query has a bag of results, to which its joins, its
condition, its groups and its distinctness lead step by step, and is answered by any list of them
that its order keys allow. An update leaves a database behind.
-/
namespace TenantGrid.Sql

/-- A row of a table by the names of its columns. -/
abbrev Record := String → Value

/-- The rows of every table, in no order. -/
abbrev Database := String → Multiset Record

/-- The rows that an expression can read and the names they go by, those of the innermost query
first. -/
abbrev Env := List (String × Record)

/-- The row that a left join adds where none matches. -/
def nullRecord : Record := fun _ => .null

/-- A column without a table is one of the first row. A name that no row goes by reads as NULL. -/
def readColumn (env : Env) : Option String → String → Value
  | some table, name => ((env.lookup table).map fun row => row name).getD .null
  | none, name => (env.head?.map fun row => row.2 name).getD .null

/-- The values that a query selects for one result, and those that order it. -/
structure Selected where
  values : List Value
  keys : List Value
  deriving DecidableEq

def Literal.meaning : Literal → Value
  | int n => .int n
  | real x => .real x
  | string s => .text s
  | bool b => .bool b
  | null => .null

def sourceRows (db : Database) : Option TableRef → Multiset Env
  | some table => (db table.table).map fun row => [(table.referenceName, row)]
  | none => {[]}

/-- The rows joined to one row: those for which the condition holds, and in a left join the row of
NULLs if there are none. -/
def matchingRows (kind : JoinKind) (rows : Multiset Record) (holds : Record → Bool) :
    Multiset Record :=
  let found := rows.filter fun row => holds row
  if kind = .left ∧ found.card = 0 then {nullRecord} else found

/-- One result for each group of rows with the same key. -/
def groupResults (rows : Multiset Env) (key : Env → List Value)
    (select : Multiset Env → Env → Selected) : Multiset Selected :=
  (rows.map fun row => (key row, select (rows.filter fun other => key other = key row) row)).dedup.map
    Prod.snd

mutual

def Expr.hasAggregate : Expr → Bool
  | .call function _ args => (Aggregate.ofName? function).isSome || anyAggregate args
  | .binary _ left right => left.hasAggregate || right.hasAggregate
  | .not operand | .isNull operand _ | .paren operand | .inQuery operand _ _ => operand.hasAggregate
  | .inList operand values _ => operand.hasAggregate || anyAggregate values
  | .like operand pattern _ _ _ => operand.hasAggregate || pattern.hasAggregate
  | .column _ _ | .literal _ | .param _ | .star _ => false

def anyAggregate : List Expr → Bool
  | [] => false
  | e :: rest => e.hasAggregate || anyAggregate rest

end

mutual

/-- The value of an expression for one row, where aggregates sum up a group. A star stands for the
row itself, which is never NULL. -/
def Expr.value (c : Collation) (db : Database) : Expr → Multiset Env → Env → Value
  | .column table name, _, env => readColumn env table name
  | .literal l, _, _ => l.meaning
  | .param v, _, _ => v
  | .binary op left right, group, env =>
    c.binary op (left.value c db group env) (right.value c db group env)
  | .not operand, group, env => (operand.value c db group env).truth.not.value
  | .call function distinct args, group, env =>
    match Aggregate.ofName? function with
    | some a => c.aggregate a distinct (group.map fun row => valuesOfEach c db args {row} row)
    | none => c.call function (valuesOfEach c db args group env)
  | .inList operand values negated, group, env =>
    ((c.among (operand.value c db group env) (valuesOfEach c db values group env)).negatedIf
      negated).value
  | .inQuery operand query negated, group, env =>
    ((c.among (operand.value c db group env)
      ((queryResults c db query env).map fun r => r.values.headD .null)).negatedIf negated).value
  | .isNull operand negated, group, env =>
    .bool ((operand.value c db group env).isNull != negated)
  | .like operand pattern escape negated anyCase, group, env =>
    ((c.like escape anyCase (operand.value c db group env)
      (pattern.value c db group env)).negatedIf negated).value
  | .star _, _, _ => .bool true
  | .paren inner, group, env => inner.value c db group env

def valuesOfEach (c : Collation) (db : Database) : List Expr → Multiset Env → Env → List Value
  | [], _, _ => []
  | e :: rest, group, env => e.value c db group env :: valuesOfEach c db rest group env

/-- The results of a query whose expressions can read further rows as well. -/
def queryResults (c : Collation) (db : Database) : QueryOf Expr → Env → Multiset Selected
  | ⟨select, distinct, source, joins, filter, groupBy, orderBy, _⟩, outer =>
    let joined := joinedRows c db joins outer (sourceRows db source)
    let rows := (joined.map (· ++ outer)).filter fun env => meets c db filter env
    let result (group : Multiset Env) (env : Env) : Selected :=
      ⟨itemValues c db select group env, keyValues c db orderBy group env⟩
    let results :=
      if groupBy.isEmpty then
        if select.any fun item => item.expr.hasAggregate then {result rows outer}
        else rows.map fun env => result {env} env
      else groupResults rows (fun env => valuesOfEach c db groupBy {env} env) result
    if distinct then results.dedup else results

def itemValues (c : Collation) (db : Database) :
    List (SelectItem Expr) → Multiset Env → Env → List Value
  | [], _, _ => []
  | ⟨expr, _⟩ :: rest, group, env => expr.value c db group env :: itemValues c db rest group env

def keyValues (c : Collation) (db : Database) :
    List (OrderKey Expr) → Multiset Env → Env → List Value
  | [], _, _ => []
  | ⟨expr, _, _⟩ :: rest, group, env => expr.value c db group env :: keyValues c db rest group env

/-- Every row with the rows that the joins add to it, one join after the other. -/
def joinedRows (c : Collation) (db : Database) :
    List (Join Expr) → Env → Multiset Env → Multiset Env
  | [], _, rows => rows
  | ⟨kind, table, condition⟩ :: rest, outer, rows =>
    joinedRows c db rest outer (rows.bind fun row =>
      (matchingRows kind (db table.table) fun record =>
        let env := row ++ [(table.referenceName, record)] ++ outer
        condition.value c db {env} env = .bool true).map
        fun record => row ++ [(table.referenceName, record)])

/-- Whether a row meets the condition of a clause, if there is one. -/
def meets (c : Collation) (db : Database) : Option Expr → Env → Bool
  | none, _ => true
  | some condition, env => condition.value c db {env} env = .bool true

end

/-- The rows of a window. -/
def windowed {α : Type} (window : Option Window) (rows : List α) : List α :=
  match window with
  | none => rows
  | some w =>
    let rows := rows.drop ((w.offset.map UInt64.toNat).getD 0)
    match w.limit with
    | some limit => rows.take limit.toNat
    | none => rows

namespace Query

def results (c : Collation) (db : Database) (query : Query) : Multiset Selected :=
  queryResults c db query []

/-- Whether a store may answer the query with these rows: all results in an order that the keys
allow, cut to the window. -/
def IsAnswer (c : Collation) (db : Database) (query : Query) (answer : List (List Value)) : Prop :=
  ∃ ordered : List Selected, (ordered : Multiset Selected) = query.results c db ∧
    ordered.Pairwise (fun a b => c.compareKeys query.orderBy a.keys b.keys ≠ .gt) ∧
    answer = (windowed query.window ordered).map Selected.values

end Query

namespace Update

/-- Whether an update applies to a row of its table. -/
def selects (c : Collation) (db : Database) (update : Update) (row : Record) : Bool :=
  meets c db update.filter [(update.table, row)]

/-- A row of the table after the update. The assigned values read the row as it was. -/
def changed (c : Collation) (db : Database) (update : Update) (row : Record) : Record :=
  if update.selects c db row then
    update.assignments.foldl (fun r assignment => Function.update r assignment.1
      (assignment.2.value c db {[(update.table, row)]} [(update.table, row)])) row
  else row

def apply (c : Collation) (db : Database) (update : Update) : Database :=
  Function.update db update.table ((db update.table).map (update.changed c db))

end Update

end TenantGrid.Sql
