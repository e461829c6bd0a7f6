import TenantGrid.Filter.Coercion
import TenantGrid.Filter.Operator
/-!
# Predicates

The condition that one filter item puts on a column. Values are always bound. An item without a
value to compare with, such as an empty list, puts no condition at all.
-/
namespace TenantGrid

open Sql (Expr)

/-- The character before a wildcard that stands for itself. -/
def escapeChar : Char := '\\'

/-- The pattern that matches just the given characters. -/
def escapedPattern : List Char → List Char
  | [] => []
  | c :: rest =>
    if c = '%' ∨ c = '_' ∨ c = escapeChar then escapeChar :: c :: escapedPattern rest
    else c :: escapedPattern rest

def escapeLike (text : String) : String :=
  String.ofList (escapedPattern text.toList)

/-- What an item is compared with. -/
structure Subject where
  field : String
  column : Expr
  type : ColumnType
  percent : Bool := false

namespace Subject

def coerce (s : Subject) (value : Json) : Except RequestError Sql.Value :=
  TenantGrid.coerce s.field s.type s.percent value

def compared (s : Subject) (op : Sql.BinaryOp) (value : Json) :
    Except RequestError (Option Expr) :=
  (s.coerce value).map fun v => some (.binary op s.column (.param v))

def comparedUnlessBlank (s : Subject) (op : Sql.BinaryOp) (value : Json) :
    Except RequestError (Option Expr) :=
  if value.isBlank then .ok none else s.compared op value

def comparedUnlessNull (s : Subject) (op : Sql.BinaryOp) (negated : Bool) (value : Json) :
    Except RequestError (Option Expr) :=
  if value.isNull then .ok (some (.isNull s.column negated)) else s.compared op value

def amongListed (s : Subject) (negated : Bool) (value : Json) :
    Except RequestError (Option Expr) :=
  if value.listed.isEmpty then .ok none
  else (value.listed.mapM s.coerce).map fun values =>
    some (.inList s.column (values.map .param) negated)

/-- A match without regard to case, between two wildcards where asked for. -/
def matching (s : Subject) (before after negated escaped : Bool) (value : Json) :
    Except RequestError (Option Expr) :=
  if value.isBlank then .ok none
  else (textOf s.field value).map fun text =>
    let pattern := (if before then "%" else "") ++ (if escaped then escapeLike text else text)
      ++ (if after then "%" else "")
    some (.like s.column (.param (.text pattern)) (if escaped then some escapeChar else none)
      negated true)

/-- The condition of one item. `escapeNegated` says whether wildcards in the value of
`doesNotContain` stand for themselves, as they do everywhere else. -/
def predicate (escapeNegated : Bool) (s : Subject) (op : Operator) (value : Json) :
    Except RequestError (Option Expr) :=
  if !op.supports s.type then .error (.unsupportedOperator s.field op.name s.type)
  else match op with
    | .isEmpty => .ok (some (.isNull s.column false))
    | .isNotEmpty => .ok (some (.isNull s.column true))
    | .equals => s.comparedUnlessNull .eq false value
    | .notEquals => s.comparedUnlessNull .ne true value
    | .isAnyOf => s.amongListed false value
    | .isNotOf => s.amongListed true value
    | .gt | .after => s.comparedUnlessBlank .gt value
    | .lt | .before => s.comparedUnlessBlank .lt value
    | .gte | .onOrAfter => s.comparedUnlessBlank .gte value
    | .lte | .onOrBefore => s.comparedUnlessBlank .lte value
    | .startsWith => s.matching false true false true value
    | .endsWith => s.matching true false false true value
    | .contains => s.matching true true false true value
    | .doesNotContain => s.matching true true true escapeNegated value

end Subject

/-- A test whether an artist has related rows: any row, or one that meets a condition. -/
structure Membership where
  inner : Option Expr
  negated : Bool

/-- The positive operator that a negative one is the negation of. -/
def Operator.opposite? : Operator → Option Operator
  | .notEquals => some .equals
  | .isNotOf => some .isAnyOf
  | .doesNotContain => some .contains
  | _ => none

/-- Whether the operator can be used on a relation as it is. -/
def Operator.isRelational : Operator → Bool
  | .equals | .isAnyOf | .startsWith | .endsWith | .contains => true
  | _ => false

namespace Membership

def ofInner (negated : Bool) (inner : Option Expr) : Option Membership :=
  inner.map fun e => ⟨some e, negated⟩

def positiveInner (escapeNegated : Bool) (field : String) (column : Expr) (op : Operator)
    (positive : Operator) (value : Json) : Except RequestError (Option Expr) :=
  if op = .doesNotContain ∧ escapeNegated = false then
    (textOf field value).map fun text =>
      some (.like column (.param (.text ("%" ++ text ++ "%"))) none false true)
  else ({ field, column, type := .text } : Subject).predicate escapeNegated positive value

/-- The test that one item makes of a relation with one text column. A negative operator negates
the test of its opposite, so that artists without related rows pass it. -/
def ofItem (escapeNegated : Bool) (field : String) (column : Expr) (op : Operator) (value : Json) :
    Except RequestError (Option Membership) :=
  if op = .isEmpty then .ok (some ⟨none, true⟩)
  else if op = .isNotEmpty then .ok (some ⟨none, false⟩)
  else
    let positive := op.opposite?.getD op
    if !positive.isRelational then .error (.unsupportedOperator field op.name .text)
    else if value.isBlank then .ok none
    else (positiveInner escapeNegated field column op positive value).map
      (ofInner op.opposite?.isSome)

end Membership

/-- The operator that a choice of attribution stands for: an artist came from a playlist, or was
added by hand. Nothing is chosen by null. -/
def attributionOperator (field : String) : Json → Except RequestError (Option Operator)
  | .null => .ok none
  | .bool b => .ok (some (if b then .isNotEmpty else .isEmpty))
  | value =>
    match value with
    | .string "true" => .ok (some .isNotEmpty)
    | .string "false" => .ok (some .isEmpty)
    | _ => .error (.invalidValue field value .trueOrFalse)

end TenantGrid
