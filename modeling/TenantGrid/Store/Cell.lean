import TenantGrid.Sql.Value
import TenantGrid.Text.Utf8
/-!
# Stored cells

An SQLite table keeps five kinds of cells. Truth values are kept as numbers, ids and timestamps as
text, and NaN as NULL; what a cell gives back is read as a value of its own kind. Bytes are read as
text.
-/
namespace TenantGrid

inductive Cell where
  | null
  | integer (n : Int)
  | real (x : Double)
  | text (s : String)
  | blob (bytes : List Nat)
  deriving DecidableEq

namespace Cell

/-- The cell that a bound value is kept in. -/
def ofValue : Sql.Value → Cell
  | .null => null
  | .int n => integer n
  | .real x => if x.isNaN then null else real x
  | .text s => text s
  | .bool b => integer b.toNat
  | .uuid id => text id.text
  | .timestamp t => text t.storedText

/-- The value that a cell gives back. -/
def value : Cell → Sql.Value
  | null => .null
  | integer n => .int n
  | real x => .real x
  | text s => .text s
  | blob bytes => .text (Text.repaired bytes)

end Cell

end TenantGrid
