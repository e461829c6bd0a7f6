import Mathlib.Data.List.Lex
import TenantGrid.Proofs.Sql.Collation
/-!
# A plain store

One way to settle what the standard leaves open: numbers are ordered by value and texts by code
point, case is ignored for ASCII letters only, and NULL is greater than every value.
-/
namespace TenantGrid

/-- The whole number that a double is, if it is one. -/
def Double.whole? : Double → Option Int
  | finite negative significand exponent =>
    let (num, den) := ratio significand exponent
    if num % den = 0 then some (if negative then -(num / den : Nat) else (num / den : Nat)) else none
  | _ => none

namespace Sql

/-- What values are ordered by: their kind and then their content. A number is ordered by its floor
and then by its fraction, in units of the smallest positive double. -/
def Value.rank : Value → List Int
  | null => [0]
  | bool b => [1, b.toNat]
  | real (.infinite true) => [2, -1]
  | int n => [2, 0, n, 0]
  | real (.finite negative significand exponent) =>
    let (num, den) := Double.ratio significand exponent
    let signed : Int := if negative then -num else num
    [2, 0, signed / den, signed % den * (1 <<< 1074 / den : Nat), 1, negative.toNat, significand,
      exponent]
  | real (.infinite false) => [2, 1]
  | real .nan => [2, 2]
  | text s => 3 :: s.toList.map fun c => Int.ofNat c.toNat
  | uuid id => 4 :: id.digits.map fun d => Int.ofNat d.val
  | timestamp t => [5, t.date.year, t.date.month, t.date.day, t.second, t.nanos]

private theorem Value.rank_injective : Function.Injective Value.rank := by
  have hchar : Function.Injective fun c : Char => Int.ofNat c.toNat := fun a b h =>
    Char.toNat_inj.mp (Int.ofNat_inj.mp h)
  have hdigit : Function.Injective fun d : Fin 16 => Int.ofNat d.val := fun a b h =>
    Fin.ext (Int.ofNat_inj.mp h)
  have hbool : ∀ b b' : Bool, (b.toNat : Int) = b'.toNat → b = b' := by decide
  intro v w h
  rcases v with _ | n | (_ | (_ | _) | ⟨s, m, e⟩) | t | b | u | τ <;>
    rcases w with _ | n' | (_ | (_ | _) | ⟨s', m', e'⟩) | t' | b' | u' | τ' <;>
      simp only [rank, List.cons.injEq, reduceCtorEq, and_false, and_true, true_and] at h
  -- Values of two kinds differ in the first number of their ranks.
  all_goals first | rfl | exact absurd h (by decide) | exact absurd h.1 (by decide) | skip
  case int.int => rw [h]
  case real.finite.real.finite =>
    obtain ⟨_, _, hs, hm, he⟩ := h
    rw [hbool _ _ hs, Int.ofNat_inj.mp hm, he]
  case text.text => rw [String.toList_inj.mp (hchar.list_map h)]
  case bool.bool => rw [hbool _ _ h]
  case uuid.uuid =>
    have hdigits := hdigit.list_map h
    cases u
    cases u'
    simpa using hdigits
  case timestamp.timestamp =>
    obtain ⟨⟨_, _, _, _⟩, _, _, _⟩ := τ
    obtain ⟨⟨_, _, _, _⟩, _, _, _⟩ := τ'
    simpa only [timestamp.injEq, Timestamp.mk.injEq, Date.mk.injEq, and_assoc, Int.ofNat_inj] using h

/-- A store that settles everything plainly. -/
def Collation.plain : Collation where
  number x := match x.whole? with
    | some n => .inl n
    | none => .inr x
  order := LinearOrder.lift' Value.rank Value.rank_injective
  int_le_iff m n := by
    change Value.rank (.int m) ≤ Value.rank (.int n) ↔ m ≤ n
    simp [Value.rank, le_iff_lt_or_eq, List.cons_lt_cons_iff]
  false_le_true := by
    change Value.rank (.bool false) ≤ Value.rank (.bool true)
    decide
  fold := Char.toLower
  nullsFirst direction := direction = .desc
  call _ _ := .null

end Sql

end TenantGrid
