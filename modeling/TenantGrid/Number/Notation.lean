import TenantGrid.Number.Shortest
/-!
# Written numbers

A double is written with its shortest digits, either plainly or with an exponent. What differs
between formats is one record: where a tie of two shortest decimals goes, where plain writing ends,
how whole numbers are marked and how the special values are spelled.
-/
namespace TenantGrid

/-- A way of writing doubles. -/
structure NumberStyle where
  tie : Tie
  /-- Positions of the point, counted from the first digit, that are written without an exponent. -/
  isPlain : Int → Bool
  /-- Follows a whole number that is written plainly. -/
  wholeMark : String
  /-- Stands before an exponent that is not negative. -/
  exponentMark : String
  nan : String
  infinity : String

namespace NumberStyle

private def zeros (n : Int) : List Char :=
  List.replicate n.toNat '0'

private def plain (style : NumberStyle) (digits : List Char) (point : Int) : List Char :=
  if point ≤ 0 then ['0', '.'] ++ zeros (-point) ++ digits
  else if point < digits.length then
    digits.take point.toNat ++ '.' :: digits.drop point.toNat
  else digits ++ zeros (point - digits.length) ++ style.wholeMark.toList

private def scientific (style : NumberStyle) (digits : List Char) (point : Int) : List Char :=
  let fraction := digits.drop 1
  let exponent := point - 1
  digits.take 1 ++ (if fraction.isEmpty then [] else '.' :: fraction) ++ ['e']
    ++ (if exponent < 0 then [] else style.exponentMark.toList) ++ exponent.repr.toList

/-- The digits of a positive decimal, its point set by the style. -/
def decimalText (style : NumberStyle) (d : Decimal) : List Char :=
  let digits := (Nat.repr d.digits).toList
  let point := digits.length + d.exponent
  if style.isPlain point then style.plain digits point else style.scientific digits point

def text (style : NumberStyle) : Double → String
  | .nan => style.nan
  | .infinite negative => (if negative then "-" else "") ++ style.infinity
  | .finite negative m e =>
    (if negative then "-" else "")
      ++ if m = 0 then "0" ++ style.wholeMark
        else String.ofList (style.decimalText (Double.shortest style.tie m e))

end NumberStyle

end TenantGrid
