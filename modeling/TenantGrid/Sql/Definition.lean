import TenantGrid.Sql.Rendering
/-!
# Definitions of tables and indexes

The statements that create a table with its columns and keys, and those that create an index.
-/
namespace TenantGrid.Sql

inductive ColumnConstraint where
  | primaryKey
  | unique
  | references (table column : String)
  deriving DecidableEq, Repr

structure ColumnDefinition where
  name : String
  type : DataType
  notNull : Bool := false
  defaultValue : Option Expr := none
  constraints : List ColumnConstraint := []

structure TableDefinition where
  name : String
  ifAbsent : Bool := false
  columns : List ColumnDefinition := []
  /-- Keys over several columns. -/
  primaryKeys : List (List String) := []

structure IndexDefinition where
  name : String
  table : String
  unique : Bool := false
  ifAbsent : Bool := false
  columns : List String := []
  deriving DecidableEq, Repr

inductive Definition where
  | table (definition : TableDefinition)
  | index (definition : IndexDefinition)

private def ifAbsentTokens (ifAbsent : Bool) : List Token :=
  if ifAbsent then
    [.space, .keyword .ifSo, .space, .keyword .not, .space, .keyword .existing]
  else []

private def columnListTokens (columns : List String) : List Token :=
  .symbol .leftParen :: separated (columns.map fun c => [.identifier c]) ++ [.symbol .rightParen]

def ColumnConstraint.tokens : ColumnConstraint → List Token
  | primaryKey => [.space, .keyword .primary, .space, .keyword .key]
  | unique => [.space, .keyword .unique]
  | references table column =>
    [.space, .keyword .references, .space, .identifier table, .symbol .leftParen,
      .identifier column, .symbol .rightParen]

def ColumnDefinition.tokens (c : ColumnDefinition) : List Token :=
  [.identifier c.name, .space, .dataType c.type]
    ++ (if c.notNull then [.space, .keyword .not, .space, .keyword .null] else [])
    ++ (match c.defaultValue with
      | some value => .space :: .keyword .defaultTo :: .space :: value.tokens
      | none => [])
    ++ c.constraints.flatMap ColumnConstraint.tokens

def TableDefinition.tokens (t : TableDefinition) : List Token :=
  let keys := t.primaryKeys.map fun columns =>
    .keyword .primary :: .space :: .keyword .key :: .space :: columnListTokens columns
  [.keyword .create, .space, .keyword .table] ++ ifAbsentTokens t.ifAbsent
    ++ [.space, .identifier t.name, .space, .symbol .leftParen]
    ++ separated (t.columns.map ColumnDefinition.tokens ++ keys) ++ [.symbol .rightParen]

def IndexDefinition.tokens (i : IndexDefinition) : List Token :=
  .keyword .create :: (if i.unique then [.space, .keyword .unique] else [])
    ++ [.space, .keyword .index] ++ ifAbsentTokens i.ifAbsent
    ++ [.space, .identifier i.name, .space, .keyword .onCondition, .space, .identifier i.table,
      .space]
    ++ columnListTokens i.columns

namespace Definition

def tokens : Definition → List Token
  | table t => t.tokens
  | index i => i.tokens

/-- The statement as text; definitions have no placeholders. -/
def text (dialect : Dialect) (d : Definition) : String :=
  Token.inlined dialect d.tokens

end Definition

end TenantGrid.Sql
