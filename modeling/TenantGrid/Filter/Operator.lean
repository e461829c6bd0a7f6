import TenantGrid.Catalog.Column
/-!
# Operators

The filter operators of the grid, the names they are asked for by, and the column types that each
of them can be used with.
-/
namespace TenantGrid

inductive Operator where
  | equals | notEquals
  | isEmpty | isNotEmpty
  | isAnyOf | isNotOf
  | gt | lt | gte | lte
  | after | before | onOrAfter | onOrBefore
  | startsWith | endsWith | contains | doesNotContain
  deriving DecidableEq, Repr

namespace Operator

def name : Operator → String
  | equals => "equals"
  | notEquals => "doesNotEqual"
  | isEmpty => "isEmpty"
  | isNotEmpty => "isNotEmpty"
  | isAnyOf => "isAnyOf"
  | isNotOf => "isNotOf"
  | gt => ">"
  | lt => "<"
  | gte => ">="
  | lte => "<="
  | after => "after"
  | before => "before"
  | onOrAfter => "onOrAfter"
  | onOrBefore => "onOrBefore"
  | startsWith => "startsWith"
  | endsWith => "endsWith"
  | contains => "contains"
  | doesNotContain => "doesNotContain"

def all : List Operator :=
  [equals, notEquals, isEmpty, isNotEmpty, isAnyOf, isNotOf, gt, lt, gte, lte, after, before,
    onOrAfter, onOrBefore, startsWith, endsWith, contains, doesNotContain]

/-- Further names of the two operators for equality. -/
def otherNames : List (String × Operator) :=
  [("=", equals), ("==", equals), ("is", equals), ("!=", notEquals), ("<>", notEquals),
    ("not", notEquals)]

def ofName? (name : String) : Option Operator :=
  match all.find? fun op => op.name == name with
  | some op => some op
  | none => otherNames.lookup name

/-- Whether the operator can be used on a column of a type. -/
def supports (op : Operator) (type : ColumnType) : Bool :=
  match op with
  | isEmpty | isNotEmpty => true
  | equals | notEquals | isAnyOf | isNotOf => type != .json
  | gt | lt | gte | lte => type == .int || type == .real || type == .timestamp
  | after | before | onOrAfter | onOrBefore => type == .timestamp
  | startsWith | endsWith | contains | doesNotContain => type == .text

end Operator

end TenantGrid
