import TenantGrid.Number.Double
import TenantGrid.Text.Basic
/-!
# Reading numbers

Whole numbers of 64 signed bits and doubles as they are written by hand: an optional sign, ASCII
digits and, for doubles, a point, an exponent or the name of a special value in either case.
-/
namespace TenantGrid.Number

/-- Whether a number fits 64 signed bits. -/
def inInt64 (n : Int) : Bool :=
  Int64.minValue.toInt ≤ n && n ≤ Int64.maxValue.toInt

/-- A leading sign, if any, and whether it is a minus. -/
def splitSign : List Char → Bool × List Char
  | '-' :: rest => (true, rest)
  | '+' :: rest => (false, rest)
  | text => (false, text)

/-- The digits at the front of a text and what follows them. -/
def splitDigits (text : List Char) : List Char × List Char :=
  (text.takeWhile Text.isDigit, text.dropWhile Text.isDigit)

def signed (negative : Bool) (n : Nat) : Int :=
  if negative then -n else n

/-- A whole number of 64 signed bits with an optional sign. -/
def readInt? (text : List Char) : Option Int :=
  let (negative, digits) := splitSign text
  if digits.isEmpty || !digits.all Text.isDigit then none
  else
    let value := signed negative (Text.decimalValue digits)
    if inInt64 value then some value else none

/-- The double nearest to `digits * 10 ^ exponent`. -/
def nearestDouble (negative : Bool) (digits : Nat) (exponent : Int) : Double :=
  let point : Int := (Nat.repr digits).length + exponent
  if digits = 0 then .ofRatio negative 0 1
  else if 310 < point then .infinite negative
  else if point < -330 then .ofRatio negative 0 1
  else .ofRatio negative (digits * Nat.pow 10 exponent.toNat) (Nat.pow 10 (-exponent).toNat)

/-- An exponent after its mark: an optional sign and at least one digit, up to the end. -/
def readExponent? : List Char → Option Int
  | [] => some 0
  | c :: rest =>
    let (negative, digits) := splitSign rest
    if (c != 'e' && c != 'E') || digits.isEmpty || !digits.all Text.isDigit then none
    else some (signed negative (Text.decimalValue digits))

private def readUnsigned? (negative : Bool) (text : List Char) : Option Double :=
  let (whole, rest) := splitDigits text
  let (fraction, rest) := match rest with
    | '.' :: rest => splitDigits rest
    | rest => ([], rest)
  if whole.isEmpty && fraction.isEmpty then none
  else do
    let exponent ← readExponent? rest
    some (nearestDouble negative (Text.decimalValue (whole ++ fraction))
      (exponent - fraction.length))

/-- A double in decimal, or `inf`, `infinity` or `nan` in either case. -/
def readDouble? (text : List Char) : Option Double :=
  let (negative, rest) := splitSign text
  let word := Text.asciiLower (String.ofList rest)
  if word = "inf" ∨ word = "infinity" then some (.infinite negative)
  else if word = "nan" then some .nan
  else readUnsigned? negative rest

end TenantGrid.Number
