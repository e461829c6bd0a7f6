/-!
# Storage types

The type a column is stored with. Both dialects name every type in their own words.
-/
namespace TenantGrid.Sql

/-- The SQL dialects that statements are written in. -/
inductive Dialect where
  | sqlite
  | postgres
  deriving DecidableEq, Repr

inductive DataType where
  | text
  | varchar (length : Nat)
  | smallInt
  | integer
  | bigInt
  /-- An integer key that the store numbers itself. -/
  | serial
  | double
  | boolean
  | timestamp
  | uuid
  | json
  deriving DecidableEq, Repr

namespace DataType

/-- The name independent of a dialect. -/
def name : DataType → String
  | text => "text"
  | varchar length => "varchar(" ++ length.repr ++ ")"
  | smallInt => "smallint"
  | integer => "integer"
  | bigInt => "bigint"
  | serial => "serial"
  | double => "double"
  | boolean => "boolean"
  | timestamp => "timestamp"
  | uuid => "uuid"
  | json => "json"

private def postgresName : DataType → String
  | text => "TEXT"
  | varchar length => "VARCHAR(" ++ length.repr ++ ")"
  | smallInt => "SMALLINT"
  | integer => "INTEGER"
  | bigInt => "BIGINT"
  | serial => "SERIAL"
  | double => "DOUBLE PRECISION"
  | boolean => "BOOLEAN"
  | timestamp => "TIMESTAMP"
  | uuid => "UUID"
  | json => "JSONB"

private def sqliteName : DataType → String
  | text | varchar _ | timestamp | uuid | json => "TEXT"
  | smallInt | integer | bigInt | serial | boolean => "INTEGER"
  | double => "REAL"

def nameIn : Dialect → DataType → String
  | .sqlite, type => type.sqliteName
  | .postgres, type => type.postgresName

end DataType

end TenantGrid.Sql
