import TenantGrid.Json.Printer
import TenantGrid.Catalog.Column
/-!
# Rejected requests

Why a request cannot be compiled. Every reason points at one field of the request.
-/
namespace TenantGrid

/-- What a value was expected to be. -/
inductive Expectation where
  | text
  | integer
  | number
  | boolean
  | uuid
  | choice
  /-- Documents are never compared. -/
  | noDocument
  | trueOrFalse
  deriving DecidableEq, Repr

def Expectation.message : Expectation → String
  | text => "expected text"
  | integer => "expected an integer"
  | number => "expected a number"
  | boolean => "expected a boolean"
  | uuid => "expected a UUID"
  | choice => "unknown choice"
  | noDocument => "documents cannot be compared"
  | trueOrFalse => "expected \"true\" or \"false\""

inductive RequestError where
  | unknownField (field : String)
  | unsupportedOperator (field operator : String) (type : ColumnType)
  | invalidDate (field value : String)
  | invalidValue (field : String) (value : Json) (expected : Expectation)
  | unsortableField (field : String)

namespace RequestError

/-- The field that the error points at. -/
def field : RequestError → String
  | unknownField field => field
  | unsupportedOperator field _ _ => field
  | invalidDate field _ => field
  | invalidValue field _ _ => field
  | unsortableField field => field

def message : RequestError → String
  | unknownField field => "Unknown field '" ++ field ++ "'"
  | unsupportedOperator field operator type =>
    "Operator '" ++ operator ++ "' is not supported for " ++ type.name ++ " field '" ++ field ++ "'"
  | invalidDate field value => "Invalid date '" ++ value ++ "' for field '" ++ field ++ "'"
  | invalidValue field value expected =>
    "Invalid value " ++ value.text ++ " for field '" ++ field ++ "': " ++ expected.message
  | unsortableField field => "Field '" ++ field ++ "' cannot be sorted"

end RequestError

end TenantGrid
