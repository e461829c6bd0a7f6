/-!
# Doubles

Binary numbers with 53 significant bits, kept as exact values: a sign, a significand and a power
of two. Every operation is exact arithmetic followed by one rounding to the nearest double, and a
value halfway between two doubles goes to the one with the even significand.
-/
namespace TenantGrid

inductive Double where
  | nan
  | infinite (negative : Bool)
  /-- The number `significand * 2 ^ exponent`, negated if `negative`. -/
  | finite (negative : Bool) (significand : Nat) (exponent : Int)
  deriving DecidableEq, Repr

namespace Double

/-- The exponent of the smallest doubles, whose significands may be short. -/
def minExponent : Int := -1074

def maxExponent : Int := 971

/-- The nearest whole number to `num / den`, a half going to the even neighbour. -/
def roundedQuotient (num den : Nat) : Nat :=
  let quotient := num / den
  let twice := 2 * (num % den)
  if twice < den then quotient
  else if den < twice then quotient + 1
  else quotient + quotient % 2

/-- The largest `e` with `2 ^ e ≤ num / den`, for positive `num` and `den`. -/
def log2Ratio (num den : Nat) : Int :=
  let e : Int := (num.log2 : Int) - (den.log2 : Int)
  if den <<< e.toNat ≤ num <<< (-e).toNat then e else e - 1

/-- The double nearest to `num / den`. -/
def ofRatio (negative : Bool) (num den : Nat) : Double :=
  if num = 0 then finite negative 0 minExponent
  else
    let exponent := max (log2Ratio num den - 52) minExponent
    let significand :=
      roundedQuotient (num <<< (-exponent).toNat) (den <<< exponent.toNat)
    if significand = 1 <<< 53 then
      if maxExponent < exponent + 1 then infinite negative
      else finite negative (1 <<< 52) (exponent + 1)
    else if maxExponent < exponent then infinite negative
    else finite negative significand exponent

def ofNat (n : Nat) : Double :=
  ofRatio false n 1

def ofInt (n : Int) : Double :=
  ofRatio (n < 0) n.natAbs 1

/-- Numerator and denominator of `significand * 2 ^ exponent`. -/
def ratio (significand : Nat) (exponent : Int) : Nat × Nat :=
  (significand <<< exponent.toNat, 1 <<< (-exponent).toNat)

def neg : Double → Double
  | nan => nan
  | infinite s => infinite (!s)
  | finite s m e => finite (!s) m e

def mul : Double → Double → Double
  | nan, _ | _, nan => nan
  | infinite s, infinite t => infinite (s != t)
  | infinite s, finite t m _ | finite s m _, infinite t =>
    if m = 0 then nan else infinite (s != t)
  | finite s m e, finite t n f =>
    ofRatio (s != t) ((ratio m e).1 * (ratio n f).1) ((ratio m e).2 * (ratio n f).2)

def div : Double → Double → Double
  | nan, _ | _, nan => nan
  | infinite _, infinite _ => nan
  | infinite s, finite t _ _ => infinite (s != t)
  | finite s _ _, infinite t => finite (s != t) 0 minExponent
  | finite s m e, finite t n f =>
    if n = 0 then if m = 0 then nan else infinite (s != t)
    else ofRatio (s != t) ((ratio m e).1 * (ratio n f).2) ((ratio m e).2 * (ratio n f).1)

instance : Neg Double := ⟨neg⟩
instance : Mul Double := ⟨mul⟩
instance : Div Double := ⟨div⟩

def isFinite : Double → Bool
  | finite .. => true
  | _ => false

def isInfinite : Double → Bool
  | infinite _ => true
  | _ => false

def isNaN : Double → Bool
  | nan => true
  | _ => false

/-- Zero of either sign. -/
def isZero : Double → Bool
  | finite _ m _ => m == 0
  | _ => false

/-- A finite number without a fractional part. -/
def isWhole : Double → Bool
  | finite _ m e => (ratio m e).1 % (ratio m e).2 == 0
  | _ => false

/-- The number with its fraction dropped, clamped to 64 signed bits; zero for NaN. -/
def toInt64 : Double → Int
  | nan => 0
  | infinite s => if s then Int64.minValue.toInt else Int64.maxValue.toInt
  | finite s m e =>
    let size : Int := ((ratio m e).1 / (ratio m e).2 : Nat)
    if s then max (-size) Int64.minValue.toInt else min size Int64.maxValue.toInt

end Double

end TenantGrid
