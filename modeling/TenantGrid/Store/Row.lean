import TenantGrid.Sql.Value
/-!
# Rows

A row of a result, its values in the order of the selected items. A column that a row does not have
reads as NULL. Ids and counts must be there; everything else may be missing.
-/
namespace TenantGrid

abbrev Row := List Sql.Value

/-- Why the store gives no answer that can be used. -/
inductive StoreError where
  | unexpectedValue (column : Nat) (value : Sql.Value)
  /-- A document is not JSON. -/
  | malformedDocument
  | lockPoisoned
  deriving DecidableEq

def StoreError.message : StoreError → String
  | unexpectedValue column value =>
    "Unexpected value in column " ++ column.repr ++ ": " ++ value.inspected
  | malformedDocument => "JSON error"
  | lockPoisoned => "Connection lock poisoned"

namespace Row

def value (row : Row) (column : Nat) : Sql.Value :=
  row.getD column .null

private def required {α : Type} (row : Row) (column : Nat) (read : Sql.Value → Option α) :
    Except StoreError α :=
  match read (row.value column) with
  | some a => .ok a
  | none => .error (.unexpectedValue column (row.value column))

private theorem required_eq_ok {α : Type} {row : Row} {column : Nat} {read : Sql.Value → Option α}
    {a : α} : row.required column read = .ok a ↔ read (row.value column) = some a := by
  unfold required
  split <;> simp_all

def uuid (row : Row) (column : Nat) : Except StoreError Uuid :=
  row.required column Sql.Value.toUuid?

def requiredInt (row : Row) (column : Nat) : Except StoreError Int :=
  row.required column Sql.Value.toInt?

theorem uuid_eq_ok {row : Row} {column : Nat} {id : Uuid} :
    row.uuid column = .ok id ↔ (row.value column).toUuid? = some id :=
  required_eq_ok

theorem requiredInt_eq_ok {row : Row} {column : Nat} {n : Int} :
    row.requiredInt column = .ok n ↔ (row.value column).toInt? = some n :=
  required_eq_ok

/-- A whole number that counts something; a negative one counts nothing. -/
def count (row : Row) (column : Nat) : Except StoreError Nat :=
  (row.requiredInt column).map Int.toNat

def text? (row : Row) (column : Nat) : Option String :=
  (row.value column).plainText?

def text (row : Row) (column : Nat) : String :=
  (row.text? column).getD ""

def int? (row : Row) (column : Nat) : Option Int :=
  (row.value column).toInt?

def real? (row : Row) (column : Nat) : Option Double :=
  (row.value column).toReal?

def flag (row : Row) (column : Nat) : Bool :=
  (row.value column).toBool?.getD false

def timestamp? (row : Row) (column : Nat) : Option Timestamp :=
  (row.value column).toTimestamp?

/-- The ids in the first column of all rows. -/
def ids (rows : List Row) : Except StoreError (List Uuid) :=
  rows.mapM fun row => row.uuid 0

/-- The count that a query with one value returns, zero if it returns no row. -/
def total : List Row → Except StoreError Nat
  | [] => .ok 0
  | row :: _ => row.count 0

end Row

end TenantGrid
