import TenantGrid.Number.Notation
import TenantGrid.Number.Reading
import TenantGrid.Sql.Dialect
import TenantGrid.Text.Inspected
import TenantGrid.Time.Layout
import TenantGrid.Uuid
/-!
# Values

The scalars that are bound to a statement or read from a row. A store that keeps some of them as
text or as whole numbers hands them back as such, so the readers below accept both.
-/
namespace TenantGrid.Sql

inductive Value where
  | null
  /-- A whole number of 64 signed bits. -/
  | int (n : Int)
  | real (x : Double)
  | text (s : String)
  | bool (b : Bool)
  | uuid (id : Uuid)
  | timestamp (t : Timestamp)
  deriving DecidableEq

/-- Numbers in SQL text: plain from 0.00001 up to 17 digits, and with an exponent beyond. -/
def numberStyle : NumberStyle where
  tie := .toEven
  isPlain point := -5 < point && point ≤ 16
  wholeMark := ".0"
  exponentMark := ""
  nan := "NaN"
  infinity := "inf"

/-- Numbers in error messages: plain from 0.0001 up to 16 digits, and with an exponent beyond. -/
def inspectedNumberStyle : NumberStyle :=
  { numberStyle with tie := .up, isPlain := fun point => -4 < point && point ≤ 16 }

/-- Numbers as plain text: never an exponent, and no mark on whole numbers. -/
def plainNumberStyle : NumberStyle :=
  { numberStyle with tie := .up, isPlain := fun _ => true, wholeMark := "" }

/-- Date and time to the second with one blank between, as timestamps are stored. -/
def storedLayout : Time.Layout :=
  .dateThen .gap Time.clockToSecond

/-- The layouts of a timestamp that comes back as text, in the order they are tried. -/
def timestampLayouts : List Time.Layout :=
  [storedLayout, .dateThen (.mark 'T') Time.clockToFraction, .dateThen .gap Time.clockToFraction]

namespace Value

def isNull : Value → Bool
  | null => true
  | _ => false

/-- The value as a literal inside a statement. -/
def literal (dialect : Dialect) : Value → String
  | null => "NULL"
  | int n => n.repr
  | real x => numberStyle.text x
  | text s => dialect.quoteString s
  | bool b => dialect.boolText b
  | uuid id => dialect.quoteString id.text
  | timestamp t => dialect.quoteString t.storedText

def toInt? : Value → Option Int
  | int n => some n
  | real x => some x.toInt64
  | bool b => some b.toNat
  | text s => Number.readInt? s.toList
  | _ => none

def toReal? : Value → Option Double
  | real x => some x
  | int n => some (.ofInt n)
  | text s => Number.readDouble? s.toList
  | _ => none

def toBool? : Value → Option Bool
  | bool b => some b
  | int n => some (n != 0)
  | _ => none

def toText? : Value → Option String
  | text s => some s
  | _ => none

def toUuid? : Value → Option Uuid
  | uuid id => some id
  | text s => Uuid.ofText? s
  | _ => none

def toTimestamp? : Value → Option Timestamp
  | timestamp t => some t
  | text s => timestampLayouts.findSome? fun layout => layout.read? s.toList
  | _ => none

/-- Any value as text, with nothing for NULL. -/
def plainText? : Value → Option String
  | null => none
  | text s => some s
  | uuid id => some id.text
  | int n => some n.repr
  | real x => some (plainNumberStyle.text x)
  | bool b => some (if b then "true" else "false")
  | timestamp t => some t.storedText

/-- The value with its kind, as shown in error messages. -/
def inspected : Value → String
  | null => "Null"
  | int n => "Int(" ++ n.repr ++ ")"
  | real x => "Float(" ++ inspectedNumberStyle.text x ++ ")"
  | text s => "Text(" ++ Text.inspected s ++ ")"
  | bool b => "Bool(" ++ (if b then "true" else "false") ++ ")"
  | uuid id => "Uuid(" ++ id.text ++ ")"
  | timestamp t => "Timestamp(" ++ t.text ++ ")"

end Value

end TenantGrid.Sql
