import TenantGrid.Number.Reading
import TenantGrid.Time.DateText
import TenantGrid.Toml.Basic
/-!
# Numbers, truth values and moments of TOML

A number may have underscores between its digits, and a whole number may be written in base 16, 8
or 2. Whole numbers have up to 128 bits; a decimal that is too large for a double is refused. A
moment is a date, a time of day with or without seconds, or both, with or without an offset.
-/
namespace TenantGrid.Toml

/-- The digits of a number without the underscores, each of which stands between two digits. -/
def ungrouped? (isDigit : Char → Bool) : List Char → Option (List Char)
  | [] => none
  | [c] => if isDigit c then some [c] else none
  | c :: '_' :: rest => if isDigit c then (ungrouped? isDigit rest).map (c :: ·) else none
  | c :: rest => if isDigit c then (ungrouped? isDigit rest).map (c :: ·) else none

private def valueInBase (base : Nat) (digits : List Char) : Option Nat :=
  digits.foldlM (fun value c => (Text.hexValue? c).map fun d => base * value + d.val) 0

private def readInBase? (base : Nat) (text : List Char) : Option Int := do
  let isDigit := fun c => ((Text.hexValue? c).map fun d => decide (d.val < base)).getD false
  let digits ← ungrouped? isDigit text
  let value ← valueInBase base digits
  some value

/-- Decimal digits without a needless zero in front. -/
private def readDecimal? (text : List Char) : Option (List Char) := do
  let digits ← ungrouped? Text.isDigit text
  if digits.head? = some '0' ∧ digits.length ≠ 1 then none else some digits

private def readWholeNumber? : List Char → Option Int
  | '0' :: 'x' :: rest => readInBase? 16 rest
  | '0' :: 'o' :: rest => readInBase? 8 rest
  | '0' :: 'b' :: rest => readInBase? 2 rest
  | text =>
    let (negative, rest) := Number.splitSign text
    (readDecimal? rest).map fun digits => Number.signed negative (Text.decimalValue digits)

def readInteger? (text : List Char) : Option Int :=
  (readWholeNumber? text).filter fun n =>
    -(1 <<< 127 : Nat) ≤ n ∧ n < (1 <<< 128 : Nat)

private def isGrouped (c : Char) : Bool :=
  Text.isDigit c || c == '_'

private def readFraction? : List Char → Option (List Char × List Char)
  | '.' :: rest =>
    (ungrouped? Text.isDigit (rest.takeWhile isGrouped)).map fun digits =>
      (digits, rest.dropWhile isGrouped)
  | rest => some ([], rest)

private def readPower? : List Char → Option Int
  | [] => some 0
  | c :: rest =>
    if c ≠ 'e' ∧ c ≠ 'E' then none
    else
      let (negative, digits) := Number.splitSign rest
      (ungrouped? Text.isDigit digits).map fun digits =>
        Number.signed negative (Text.decimalValue digits)

private def readFinite? (negative : Bool) (text : List Char) : Option Double := do
  let whole ← readDecimal? (text.takeWhile isGrouped)
  let (fraction, rest) ← readFraction? (text.dropWhile isGrouped)
  let power ← readPower? rest
  let x := Number.nearestDouble negative (Text.decimalValue (whole ++ fraction))
    (power - fraction.length)
  if x.isInfinite then none else some x

def readReal? (text : List Char) : Option Double :=
  let (negative, rest) := Number.splitSign text
  if rest = "inf".toList then some (.infinite negative)
  else if rest = "nan".toList then some .nan
  else readFinite? negative rest

private def skipDate? (text : List Char) : Option (List Char) := do
  let (year, rest) ← Time.readNumber? 4 4 text
  let rest ← Time.take? '-' rest
  let (month, rest) ← Time.readNumber? 2 2 rest
  let rest ← Time.take? '-' rest
  let (day, rest) ← Time.readNumber? 2 2 rest
  let _ ← Date.ofParts? year month day
  some rest

private def skipSeconds? : List Char → Option (List Char)
  | ':' :: rest => do
    let (second, rest) ← Time.readNumber? 2 2 rest
    if 60 < second then none
    else match rest with
      | '.' :: rest => (Time.readNanos? rest).map Prod.snd
      | rest => some rest
  | rest => some rest

private def skipClock? (text : List Char) : Option (List Char) := do
  let (hour, rest) ← Time.readNumber? 2 2 text
  let rest ← Time.take? ':' rest
  let (minute, rest) ← Time.readNumber? 2 2 rest
  if 23 < hour ∨ 59 < minute then none else skipSeconds? rest

private def endsMoment (text : List Char) : Bool :=
  text.isEmpty || (Time.readOffset? text).any fun (_, rest) => rest.isEmpty

def isMoment (text : List Char) : Bool :=
  text.all (fun c => c.toNat < 128) &&
    match skipDate? text with
    | none => (skipClock? text).any List.isEmpty
    | some [] => true
    | some (c :: rest) =>
      (c == 'T' || c == 't' || c == ' ') && (skipClock? rest).any endsMoment

/-- The value of a run of characters without quotes and brackets. -/
def readScalar? (text : List Char) : Option Toml :=
  if text = "true".toList then some (.bool true)
  else if text = "false".toList then some (.bool false)
  else if isMoment text then some (.moment (String.ofList text))
  else match readInteger? text with
    | some n => some (.integer n)
    | none => (readReal? text).map .real

end TenantGrid.Toml
