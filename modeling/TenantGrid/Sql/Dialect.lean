import TenantGrid.Sql.DataType
import TenantGrid.Text.Basic
/-!
# Dialects

What differs between the dialects in a statement: boolean literals, placeholders and the keyword
for matching without regard to case. Identifiers and string literals are quoted alike.
-/
namespace TenantGrid.Sql.Dialect

def name : Dialect → String
  | sqlite => "sqlite"
  | postgres => "postgres"

/-- The dialect of a name in either case, with the two short names of PostgreSQL. -/
def ofName? (text : String) : Option Dialect :=
  let lower := Text.asciiLower text
  if lower = "sqlite" then some sqlite
  else if lower = "postgres" ∨ lower = "postgresql" ∨ lower = "pg" then some postgres
  else none

/-- What is said of a name that no dialect has. -/
def unknownMessage (text : String) : String :=
  "unknown dialect '" ++ Text.asciiLower text ++ "'"

def quoteIdentifier (_ : Dialect) (identifier : String) : String :=
  Text.quoted '"' identifier

def quoteString (_ : Dialect) (text : String) : String :=
  Text.quoted '\'' text

def boolText : Dialect → Bool → String
  | sqlite, b => if b then "1" else "0"
  | postgres, b => if b then "true" else "false"

/-- The mark for the parameter with the given number, counted from one. -/
def placeholder : Dialect → Nat → String
  | sqlite, index => "?" ++ index.repr
  | postgres, index => "$" ++ index.repr

/-- The keyword of a pattern match that ignores case. -/
def likeAnyCase : Dialect → String
  | sqlite => "LIKE"
  | postgres => "ILIKE"

/-- Both dialects say where NULL stands in an order. -/
def ordersNulls (_ : Dialect) : Bool := true

/-- Both dialects create a table or index only where there is none yet. -/
def createsIfAbsent (_ : Dialect) : Bool := true

end TenantGrid.Sql.Dialect
