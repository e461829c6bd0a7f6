import TenantGrid.Text.Basic
import TenantGrid.Time.Timestamp
/-!
# Date and time layouts

A layout is a list of parts that are read one after another and must use up the whole text. Blanks
may stand before a number; a year has up to four digits, or any number of them after a sign.
-/
namespace TenantGrid.Time

inductive Part where
  | year | month | day | hour | minute | second
  /-- A point and digits, of which nine count; may be absent. -/
  | fraction
  | mark (c : Char)
  /-- Any run of blanks, also none. -/
  | gap
  deriving DecidableEq, Repr

abbrev Layout := List Part

/-- What has been read of a date and time. -/
structure Fields where
  year : Int := 0
  month : Nat := 0
  day : Nat := 0
  hour : Nat := 0
  minute : Nat := 0
  second : Nat := 0
  nanos : Nat := 0

/-- The number written by the first digits, between `least` and `most` of them. -/
def readNumber? (least most : Nat) (text : List Char) : Option (Nat × List Char) :=
  let digits := (text.take most).takeWhile Text.isDigit
  if digits.length < least then none
  else some (Text.decimalValue digits, text.drop digits.length)

def readSignedYear? : List Char → Option (Int × List Char)
  | '-' :: rest => (readNumber? 1 rest.length rest).map fun (n, rest) => (-n, rest)
  | '+' :: rest => (readNumber? 1 rest.length rest).map fun (n, rest) => (n, rest)
  | text => (readNumber? 1 4 text).map fun (n, rest) => (n, rest)

def readField? (text : List Char) : Option (Nat × List Char) :=
  readNumber? 1 2 (Text.trimStart text)

/-- Nanoseconds from the digits after a point; digits past the ninth are passed over. -/
def readNanos? (text : List Char) : Option (Nat × List Char) := do
  let (n, rest) ← readNumber? 1 9 text
  some (n * Nat.pow 10 (9 - (text.length - rest.length)), rest.dropWhile Text.isDigit)

def readPart? (fields : Fields) (text : List Char) : Part → Option (Fields × List Char)
  | .year => (readSignedYear? (Text.trimStart text)).map fun (n, rest) =>
      ({ fields with year := n }, rest)
  | .month => (readField? text).map fun (n, rest) => ({ fields with month := n }, rest)
  | .day => (readField? text).map fun (n, rest) => ({ fields with day := n }, rest)
  | .hour => (readField? text).map fun (n, rest) => ({ fields with hour := n }, rest)
  | .minute => (readField? text).map fun (n, rest) => ({ fields with minute := n }, rest)
  | .second => (readField? text).map fun (n, rest) => ({ fields with second := n }, rest)
  | .fraction => match text with
    | '.' :: rest => (readNanos? rest).map fun (n, rest) => ({ fields with nanos := n }, rest)
    | rest => some (fields, rest)
  | .mark c => match text with
    | x :: rest => if x = c then some (fields, rest) else none
    | [] => none
  | .gap => some (fields, Text.trimStart text)

def readParts? (fields : Fields) : Layout → List Char → Option Fields
  | [], text => if text.isEmpty then some fields else none
  | part :: layout, text => do
    let (fields, rest) ← readPart? fields text part
    readParts? fields layout rest

/-- The moment that the fields name; second 60 is the leap second after second 59. -/
def Fields.timestamp? (f : Fields) : Option Timestamp := do
  let date ← Date.ofParts? f.year f.month f.day
  if 23 < f.hour ∨ 59 < f.minute ∨ 60 < f.second then none
  else
    let leap := f.second / 60
    Timestamp.ofParts? date (3600 * f.hour + 60 * f.minute + (f.second - leap))
      (leap * 1000000000 + f.nanos)

def Layout.read? (layout : Layout) (text : List Char) : Option Timestamp :=
  readParts? {} layout text >>= Fields.timestamp?

/-- Year, month and day with hyphens. -/
def Layout.date : Layout :=
  [.year, .mark '-', .month, .mark '-', .day]

def Layout.dateThen (separator : Part) (time : List Part) : Layout :=
  Layout.date ++ separator :: time

def clockToMinute : List Part := [.hour, .mark ':', .minute]

def clockToSecond : List Part := clockToMinute ++ [.mark ':', .second]

def clockToFraction : List Part := clockToSecond ++ [.fraction]

end TenantGrid.Time
