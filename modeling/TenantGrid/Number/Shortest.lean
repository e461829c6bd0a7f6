import TenantGrid.Number.Double
/-!
# Shortest decimals

The decimal with the fewest digits that is read back as a given double, and of those the nearest.
A grid holds the multiples of one power of ten; if a point of a grid reads back as the double, so
does one of the two points next to it, so the two neighbours on each grid are all that is tried.
Formats differ in one case only: a double halfway between two neighbours that both read back.
-/
namespace TenantGrid

/-- The number `digits * 10 ^ exponent`. -/
structure Decimal where
  digits : Nat
  exponent : Int
  deriving DecidableEq, Repr

/-- Where a number goes that lies halfway between two decimals. -/
inductive Tie where
  | toEven
  | up
  deriving DecidableEq, Repr

namespace Tie

/-- The nearest whole number to `num / den`, a half going where the rule says. -/
def quotient (num den : Nat) : Tie → Nat
  | toEven => Double.roundedQuotient num den
  | up => (2 * num + den) / (2 * den)

end Tie

namespace Double

/-- Whether `point * 10 ^ power` is read as the double `m * 2 ^ e`. -/
def readsBack (m : Nat) (e : Int) (power : Int) (point : Nat) : Bool :=
  let unit := Nat.pow 10 (-power).toNat <<< (e - 2).toNat
  let lower := (4 * m - (if m = 1 <<< 52 ∧ minExponent < e then 1 else 2)) * unit
  let upper := (4 * m + 2) * unit
  let value := (point * Nat.pow 10 power.toNat) <<< (2 - e).toNat
  if m % 2 = 0 then lower ≤ value && value ≤ upper else lower < value && value < upper

/-- The nearest multiple of `10 ^ power` that is read as the double `m * 2 ^ e`, if there is one. -/
def onGrid (tie : Tie) (m : Nat) (e : Int) (power : Int) : Option Decimal :=
  let num := (m * Nat.pow 10 (-power).toNat) <<< e.toNat
  let den := Nat.pow 10 power.toNat <<< (-e).toNat
  let below := num / den
  match readsBack m e power below, readsBack m e power (below + 1) with
  | true, true => some ⟨tie.quotient num den, power⟩
  | true, false => some ⟨below, power⟩
  | false, true => some ⟨below + 1, power⟩
  | false, false => none

/-- A power of ten at most one below the first digit of `m * 2 ^ e`. -/
def leadingPower (m : Nat) (e : Int) : Int :=
  ((m.log2 : Int) + e) * 30103 / 100000 + 1

/-- The shortest decimal of the positive double `m * 2 ^ e`. -/
def shortest (tie : Tie) (m : Nat) (e : Int) : Decimal :=
  let steps := List.range 20
  (steps.findSome? fun (step : Nat) => onGrid tie m e (leadingPower m e - step)).getD ⟨m, 0⟩

end Double

end TenantGrid
