import TenantGrid.Json.Basic
import TenantGrid.Json.Written
/-!
# Reading JSON values

The value of a JSON text. A value may hold arrays and objects in one another up to a number of
levels. Of members with one name the last counts. A number with a point or an exponent, or one that
is too large, is a double: its first digits that fit 64 bits make a double of their own, which is
then multiplied or divided by a power of ten.
-/
namespace TenantGrid.Json

/-- How many arrays and objects may stand in one another. -/
def nestingLimit : Nat := 127

private def joinSurrogates (high low : Nat) : Char :=
  Char.ofNat (0x10000 + 0x400 * (high - 0xD800) + (low - 0xDC00))

/-- The characters of a string; nothing if half of a surrogate pair stands alone. -/
def unitChars? : List StringUnit → Option (List Char)
  | [] => some []
  | .char c :: rest => (unitChars? rest).map (c :: ·)
  | .code high :: .code low :: rest =>
    if 0xD800 ≤ high ∧ high ≤ 0xDBFF then
      if 0xDC00 ≤ low ∧ low ≤ 0xDFFF then
        (unitChars? rest).map (joinSurrogates high low :: ·)
      else none
    else if 0xDC00 ≤ high ∧ high ≤ 0xDFFF then none
    else (unitChars? (.code low :: rest)).map (Char.ofNat high :: ·)
  | .code n :: rest =>
    if 0xD800 ≤ n ∧ n ≤ 0xDFFF then none else (unitChars? rest).map (Char.ofNat n :: ·)

def unitString? (units : List StringUnit) : Option String :=
  (unitChars? units).map String.ofList

namespace Numeral

/-- The number with as many further digits as fit 64 bits, and the digits that do not. -/
def absorb (n : Nat) : List Char → Nat × List Char
  | [] => (n, [])
  | c :: rest =>
    let longer := 10 * n + Text.digitValue c
    if longer < UInt64.size then absorb longer rest else (n, c :: rest)

def powerOfTen (exponent : Nat) : Double :=
  .ofNat (Nat.pow 10 exponent)

/-- A double times a power of ten, at most 308 powers at a time; nothing if it becomes infinite. -/
def scaled? (x : Double) (exponent : Int) : Option Double :=
  if exponent.natAbs ≤ 308 then
    if 0 ≤ exponent then
      let product := x * powerOfTen exponent.natAbs
      if product.isInfinite then none else some product
    else some (x / powerOfTen exponent.natAbs)
  else if x.isZero then some x
  else if h : 0 ≤ exponent then none
  else scaled? (x / powerOfTen 308) (exponent + 308)
termination_by exponent.natAbs
decreasing_by omega

private def signedDouble (negative : Bool) (x : Double) : Double :=
  if negative then -x else x

/-- A whole number in range, or a double. -/
def value? (n : Numeral) : Option JsonNumber :=
  let (significand, overflow) := absorb 0 n.whole
  if n.fraction.isNone ∧ n.exponent.isNone ∧ overflow.isEmpty then
    if n.negative = false then some (.whole significand)
    else if 1 ≤ significand ∧ significand ≤ 1 <<< 63 then some (.whole (-significand))
    else some (.real (-Double.ofNat significand))
  else
    let fraction := n.fraction.getD []
    let (significand, unused) := absorb significand fraction
    let point : Int := overflow.length - (fraction.length - unused.length : Nat)
    let exponent : Int := match n.exponent with
      | some (true, digits) => -Text.decimalValue digits
      | some (false, digits) => Text.decimalValue digits
      | none => 0
    (scaled? (.ofNat significand) (point + exponent)).map fun x =>
      .real (signedDouble n.negative x)

end Numeral

mutual

/-- The value of a written one, with room for so many levels of arrays and objects. -/
def ofWritten? (room : Nat) : Written → Option Json
  | .null => some null
  | .bool b => some (bool b)
  | .number n => n.value?.map number
  | .string units => (unitString? units).map string
  | .array items => if room = 0 then none else (ofItems? (room - 1) items).map array
  | .object members =>
    if room = 0 then none else (ofMembers? (room - 1) [] members).map object

def ofItems? (room : Nat) : List Written → Option (List Json)
  | [] => some []
  | item :: rest => do
    let value ← ofWritten? room item
    let values ← ofItems? room rest
    some (value :: values)

def ofMembers? (room : Nat) (before : List (String × Json)) :
    List (List StringUnit × Written) → Option (List (String × Json))
  | [] => some before
  | (name, value) :: rest => do
    let name ← unitString? name
    let value ← ofWritten? room value
    ofMembers? room (setMember name value before) rest

end

/-- The value of a JSON text. -/
def ofText? (text : String) : Option Json :=
  Written.ofText? text >>= ofWritten? nestingLimit

end TenantGrid.Json
