import TenantGrid.Sql.Definition
/-!
# Columns

A column has a storage type, for the definition of its table, and a filter type, which says how its
values are compared. A coded column stores small numbers that stand for labels.
-/
namespace TenantGrid

/-- One label of a coded column and the number stored for it. -/
structure Choice where
  label : String
  code : Int
  deriving DecidableEq, Repr

/-- How the values of a column are compared when filtered or sorted. -/
inductive ColumnType where
  | text
  | int
  | real
  | bool
  | timestamp
  | uuid
  | choice (choices : List Choice)
  /-- A document, which is never compared. -/
  | json
  deriving DecidableEq, Repr

namespace ColumnType

def name : ColumnType → String
  | text => "text"
  | int => "integer"
  | real => "float"
  | bool => "boolean"
  | timestamp => "timestamp"
  | uuid => "uuid"
  | choice _ => "choice"
  | json => "json"

/-- The code of a label, in either case. -/
def choiceCode? (type : ColumnType) (label : String) : Option Int :=
  match type with
  | choice choices =>
    (choices.find? fun c => Text.asciiLower c.label == Text.asciiLower label).map Choice.code
  | _ => none

def choiceLabel? (type : ColumnType) (code : Int) : Option String :=
  match type with
  | choice choices => (choices.find? fun c => c.code == code).map Choice.label
  | _ => none

end ColumnType

inductive ColumnDefault where
  | bool (b : Bool)
  | int (n : Int)
  deriving DecidableEq, Repr

structure Column where
  name : String
  type : ColumnType
  storage : Sql.DataType
  notNull : Bool := false
  primaryKey : Bool := false
  unique : Bool := false
  defaultValue : Option ColumnDefault := none
  /-- The table and column that the values refer to. -/
  references : Option (String × String) := none
  deriving DecidableEq, Repr

namespace Column

def text (name : String) : Column :=
  { name, type := .text, storage := .text }

def varchar (name : String) (length : Nat) : Column :=
  { name, type := .text, storage := .varchar length }

def uuid (name : String) : Column :=
  { name, type := .uuid, storage := .uuid }

def int (name : String) : Column :=
  { name, type := .int, storage := .integer }

/-- A key that the store numbers itself. -/
def serial (name : String) : Column :=
  { name, type := .int, storage := .serial, primaryKey := true }

def real (name : String) : Column :=
  { name, type := .real, storage := .double }

def flag (name : String) (value : Bool) : Column :=
  { name, type := .bool, storage := .boolean, notNull := true, defaultValue := some (.bool value) }

def timestamp (name : String) : Column :=
  { name, type := .timestamp, storage := .timestamp }

def coded (name : String) (choices : List Choice) : Column :=
  { name, type := .choice choices, storage := .smallInt, notNull := true,
    defaultValue := some (.int 0) }

def document (name : String) : Column :=
  { name, type := .json, storage := .json }

def required (c : Column) : Column :=
  { c with notNull := true }

def referring (c : Column) (table column : String) : Column :=
  { c with references := some (table, column) }

private def defaultExpr : ColumnDefault → Sql.Expr
  | .bool b => .literal (.bool b)
  | .int n => .literal (.int n)

def definition (c : Column) : Sql.ColumnDefinition where
  name := c.name
  type := c.storage
  notNull := c.notNull
  defaultValue := c.defaultValue.map defaultExpr
  constraints :=
    (if c.primaryKey then [.primaryKey] else [])
      ++ (if c.unique then [.unique] else [])
      ++ (match c.references with
        | some (table, column) => [.references table column]
        | none => [])

end Column

structure Table where
  name : String
  columns : List Column
  /-- The columns of a key over more than one column. -/
  compositeKey : List String := []
  indexes : List (List String) := []
  deriving DecidableEq, Repr

namespace Table

def column? (t : Table) (name : String) : Option Column :=
  t.columns.find? fun c => c.name == name

private def indexDefinition (t : Table) (columns : List String) : Sql.IndexDefinition where
  name := "idx_" ++ t.name ++ "_" ++ String.intercalate "_" columns
  table := t.name
  ifAbsent := true
  columns := columns

/-- The definition of the table and of each of its indexes. -/
def definitions (t : Table) : List Sql.Definition :=
  .table {
      name := t.name
      ifAbsent := true
      columns := t.columns.map Column.definition
      primaryKeys := if t.compositeKey.isEmpty then [] else [t.compositeKey] }
    :: t.indexes.map fun columns => .index (t.indexDefinition columns)

end Table

end TenantGrid
