import TenantGrid.Sql.Value
/-!
# Expressions and queries

The syntax trees of expressions and SELECT queries. The parts of a query are generic in what stands
for an expression, so that expressions and queries can hold each other.
-/
namespace TenantGrid.Sql

/-- A table and the name it goes by in a query. -/
structure TableRef where
  table : String
  aliasName : Option String := none
  deriving DecidableEq, Repr

/-- The name that qualifies columns of this table. -/
def TableRef.referenceName (t : TableRef) : String :=
  t.aliasName.getD t.table

structure SelectItem (ε : Type) where
  expr : ε
  aliasName : Option String := none

inductive JoinKind where
  | inner
  | left
  deriving DecidableEq, Repr

structure Join (ε : Type) where
  kind : JoinKind
  table : TableRef
  condition : ε

inductive Direction where
  | asc
  | desc
  deriving DecidableEq, Repr

inductive NullsPlacement where
  | first
  | last
  deriving DecidableEq, Repr

structure OrderKey (ε : Type) where
  expr : ε
  direction : Option Direction := some .asc
  nulls : Option NullsPlacement := none

/-- How many rows a query returns and how many it skips first. -/
structure Window where
  limit : Option UInt64 := none
  offset : Option UInt64 := none
  deriving DecidableEq

/-- A SELECT query over expressions `ε`. -/
structure QueryOf (ε : Type) where
  select : List (SelectItem ε) := []
  distinct : Bool := false
  source : Option TableRef := none
  joins : List (Join ε) := []
  filter : Option ε := none
  groupBy : List ε := []
  orderBy : List (OrderKey ε) := []
  window : Option Window := none

inductive Literal where
  | int (n : Int)
  | real (x : Double)
  | string (s : String)
  | bool (b : Bool)
  | null
  deriving DecidableEq

inductive BinaryOp where
  | eq | ne | lt | gt | lte | gte | and | or | concat
  deriving DecidableEq, Repr

inductive Expr where
  | column (table : Option String) (name : String)
  | literal (value : Literal)
  /-- A value bound to the statement. -/
  | param (value : Value)
  | binary (op : BinaryOp) (left right : Expr)
  | not (operand : Expr)
  | call (function : String) (distinct : Bool) (args : List Expr)
  | inList (operand : Expr) (values : List Expr) (negated : Bool)
  | inQuery (operand : Expr) (query : QueryOf Expr) (negated : Bool)
  | isNull (operand : Expr) (negated : Bool)
  | like (operand pattern : Expr) (escape : Option Char) (negated anyCase : Bool)
  | star (table : Option String)
  | paren (inner : Expr)

abbrev Query := QueryOf Expr

namespace Expr

/-- A column of the table that goes by the given name. -/
def ofTable (table name : String) : Expr :=
  column (some table) name

def bare (name : String) : Expr :=
  column none name

def boolLiteral (b : Bool) : Expr :=
  literal (.bool b)

def eq (left right : Expr) : Expr := binary .eq left right
def ne (left right : Expr) : Expr := binary .ne left right
def lt (left right : Expr) : Expr := binary .lt left right
def gt (left right : Expr) : Expr := binary .gt left right
def lte (left right : Expr) : Expr := binary .lte left right
def gte (left right : Expr) : Expr := binary .gte left right
def and (left right : Expr) : Expr := binary .and left right
def or (left right : Expr) : Expr := binary .or left right
def concat (left right : Expr) : Expr := binary .concat left right

def countAll : Expr := call "COUNT" false [star none]
def countDistinct (e : Expr) : Expr := call "COUNT" true [e]
def min (e : Expr) : Expr := call "MIN" false [e]
def max (e : Expr) : Expr := call "MAX" false [e]

/-- All expressions joined by AND, the first ones innermost; nothing if there are none. -/
def conjunction? : List Expr → Option Expr
  | [] => none
  | e :: rest => some (rest.foldl and e)

/-- A condition added to those that a clause has already. -/
def conjoin (existing : Option Expr) (condition : Expr) : Expr :=
  match existing with
  | some e => e.and condition
  | none => condition

end Expr

namespace Query

/-- The query with one more condition that its rows must meet. -/
def filtered (query : Query) (condition : Expr) : Query :=
  { query with filter := some (Expr.conjoin query.filter condition) }

def joined (query : Query) (kind : JoinKind) (table : TableRef) (condition : Expr) : Query :=
  { query with joins := query.joins ++ [⟨kind, table, condition⟩] }

def leftJoined (query : Query) (table : TableRef) (condition : Expr) : Query :=
  query.joined .left table condition

def innerJoined (query : Query) (table : TableRef) (condition : Expr) : Query :=
  query.joined .inner table condition

def onlyDistinct (query : Query) : Query :=
  { query with distinct := true }

def limited (query : Query) (limit : UInt64) : Query :=
  { query with window := some { query.window.getD {} with limit := some limit } }

def skipping (query : Query) (offset : UInt64) : Query :=
  { query with window := some { query.window.getD {} with offset := some offset } }

end Query

/-- The selected columns of one table, in order. -/
def selectColumns (table : String) (names : List String) : List (SelectItem Expr) :=
  names.map fun name => { expr := .ofTable table name }

/-- An UPDATE of the rows of one table that meet a condition. -/
structure Update where
  table : String
  assignments : List (String × Expr) := []
  filter : Option Expr := none

namespace Update

def assigning (update : Update) (column : String) (value : Expr) : Update :=
  { update with assignments := update.assignments ++ [(column, value)] }

def filtered (update : Update) (condition : Expr) : Update :=
  { update with filter := some (Expr.conjoin update.filter condition) }

end Update

end TenantGrid.Sql
