import TenantGrid.Filter.Error
import TenantGrid.Text.Basic
import TenantGrid.Time.DateText
/-!
# Coercion

A JSON value becomes a value of the column's type or is rejected. Numbers may come as text, and a
coded column takes the label of a code as well as the code.
-/
namespace TenantGrid

namespace Json

/-- A number, or text that reads as a finite one. -/
def toReal? : Json → Option Double
  | number (.whole n) => some (.ofInt n)
  | number (.real x) => some x
  | string s => (Number.readDouble? (Text.trim s.toList)).filter Double.isFinite
  | _ => none

/-- A number without a fraction, or text that reads as a whole number of 64 bits. A number beyond
64 bits becomes the nearest one within them. -/
def toInt? : Json → Option Int
  | number (.whole n) => some (if Number.inInt64 n then n else Double.toInt64 (.ofInt n))
  | number (.real x) => if x.isWhole then some x.toInt64 else none
  | string s => Number.readInt? (Text.trim s.toList)
  | _ => none

/-- Text, or the JSON text of a number or a truth value. -/
def toText? : Json → Option String
  | string s => some s
  | number n => some n.text
  | bool b => some (if b then "true" else "false")
  | _ => none

/-- A truth value, its name in either case, or one or zero. -/
def toBool? : Json → Option Bool
  | bool b => some b
  | string s =>
    let word := Text.asciiLower s
    if word = "true" ∨ s = "1" then some true
    else if word = "false" ∨ s = "0" then some false
    else none
  | number (.whole n) => if n = 1 then some true else if n = 0 then some false else none
  | _ => none

def toUuid? : Json → Option Uuid
  | string s => Uuid.ofText? (String.ofList (Text.trim s.toList))
  | _ => none

/-- A code of the column, by its label or by itself. -/
def toCode? (type : ColumnType) (value : Json) : Option Int :=
  let code := match value with
    | string s =>
      let trimmed := Text.trim s.toList
      match type.choiceCode? (String.ofList trimmed) with
      | some code => some code
      | none => Number.readInt? trimmed
    | other => other.toInt?
  code.filter fun c => (type.choiceLabel? c).isSome

/-- Null, or text without a character. -/
def isBlank : Json → Bool
  | null => true
  | string s => s.isEmpty
  | _ => false

/-- The items of a list other than null; a value that is no list stands for itself. -/
def listed : Json → List Json
  | null => []
  | array items => items.filter fun item => !item.isNull
  | value => [value]

end Json

/-- One hundredth of a number. -/
def hundredth (x : Double) : Double :=
  x / .ofNat 100

private def expecting {α : Type} (field : String) (value : Json) (expected : Expectation) :
    Option α → Except RequestError α
  | some a => .ok a
  | none => .error (.invalidValue field value expected)

theorem expecting_eq_ok {α : Type} {field : String} {value : Json} {expected : Expectation}
    {found : Option α} {a : α} (h : expecting field value expected found = .ok a) : found = some a := by
  cases found with
  | none => exact nomatch h
  | some b => rw [Except.ok.inj h]

theorem expecting_error {α : Type} {field : String} {value : Json} {expected : Expectation}
    {found : Option α} {error : RequestError} (h : expecting field value expected found = .error error) :
    error = .invalidValue field value expected := by
  cases found with
  | none => exact (Except.error.inj h).symm
  | some a => exact nomatch h

def textOf (field : String) (value : Json) : Except RequestError String :=
  expecting field value .text value.toText?

theorem textOf_of_toText? {field text : String} {value : Json} (h : value.toText? = some text) :
    textOf field value = .ok text := by
  rw [textOf, h, expecting]

theorem textOf_of_none {field : String} {value : Json} (h : value.toText? = none) :
    textOf field value = .error (.invalidValue field value .text) := by
  rw [textOf, h, expecting]

/-- The moment of a date text. -/
def momentOf (field : String) : Json → Except RequestError Timestamp
  | .string s =>
    match readDate? s with
    | some t => .ok t
    | none => .error (.invalidDate field s)
  | other => .error (.invalidDate field other.text)

/-- The value to compare a column of the given type with. Percentages are stored as fractions. -/
def coerce (field : String) (type : ColumnType) (percent : Bool) (value : Json) :
    Except RequestError Sql.Value :=
  match type with
  | .text => (textOf field value).map .text
  | .int => (expecting field value .integer value.toInt?).map .int
  | .real => (expecting field value .number value.toReal?).map fun x =>
      .real (if percent then hundredth x else x)
  | .bool => (expecting field value .boolean value.toBool?).map .bool
  | .timestamp => (momentOf field value).map .timestamp
  | .uuid => (expecting field value .uuid value.toUuid?).map .uuid
  | .choice _ => (expecting field value .choice (value.toCode? type)).map .int
  | .json => .error (.invalidValue field value .noDocument)

end TenantGrid
