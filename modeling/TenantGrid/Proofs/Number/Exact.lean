import Mathlib.Algebra.Order.Field.Rat
import Mathlib.Tactic.FieldSimp
import Mathlib.Tactic.Positivity
import Mathlib.Tactic.Ring
import TenantGrid.Json.Basic
import TenantGrid.Number.Reading
/-!
# Exact values

A double stands for one rational number and a run of decimal digits for one whole number. Where a number
without a fraction fits 64 signed bits it is turned into them exactly, and where it does not it
becomes the end of their range that is nearer, be it given as a double or as a whole number.
-/
namespace TenantGrid

namespace Number

/-- The nearest number of 64 signed bits. -/
def clamped (n : Int) : Int :=
  max Int64.minValue.toInt (min n Int64.maxValue.toInt)

theorem inInt64_iff {n : Int} : inInt64 n = true ↔ -2 ^ 63 ≤ n ∧ n < 2 ^ 63 := by
  simp only [inInt64, Int64.toInt_minValue, Int64.toInt_maxValue, Bool.and_eq_true, decide_eq_true_eq]
  omega

private theorem clamped_eq (n : Int) : clamped n = max (-2 ^ 63) (min n (2 ^ 63 - 1)) := by
  rw [clamped, Int64.toInt_minValue, Int64.toInt_maxValue]

theorem clamped_of_inInt64 {n : Int} (h : inInt64 n = true) : clamped n = n := by
  have hrange := inInt64_iff.mp h
  rw [clamped_eq]
  omega

/-- Whether a text is a whole number in decimal. -/
inductive Spells : List Char → Int → Prop
  | digits {digits : List Char} (hsome : digits ≠ []) (hdigits : ∀ c ∈ digits, c.isDigit = true) :
    Spells digits (Nat.ofDigitChars 10 digits 0)
  | plus {digits : List Char} (hsome : digits ≠ []) (hdigits : ∀ c ∈ digits, c.isDigit = true) :
    Spells ('+' :: digits) (Nat.ofDigitChars 10 digits 0)
  | minus {digits : List Char} (hsome : digits ≠ []) (hdigits : ∀ c ∈ digits, c.isDigit = true) :
    Spells ('-' :: digits) (-(Nat.ofDigitChars 10 digits 0 : Int))

theorem isDigit_eq (c : Char) : Text.isDigit c = c.isDigit := by
  simp [Text.isDigit, Char.isDigit, Char.le_def]

private theorem spells_iff {text : List Char} {n : Int} :
    Spells text n ↔ (splitSign text).2 ≠ [] ∧ (∀ c ∈ (splitSign text).2, c.isDigit = true) ∧
      n = signed (splitSign text).1 (Text.decimalValue (splitSign text).2) := by
  constructor
  · intro h
    cases h with
    | plus hsome hdigits => exact ⟨hsome, hdigits, rfl⟩
    | minus hsome hdigits => exact ⟨hsome, hdigits, rfl⟩
    | digits hsome hdigits =>
      have hunsigned : splitSign text = (false, text) := by
        unfold splitSign
        split
        · exact absurd (hdigits '-' (by simp)) (by decide)
        · exact absurd (hdigits '+' (by simp)) (by decide)
        · rfl
      rw [hunsigned]
      exact ⟨hsome, hdigits, rfl⟩
  · unfold splitSign
    split
    · rintro ⟨hsome, hdigits, rfl⟩
      exact .minus hsome hdigits
    · rintro ⟨hsome, hdigits, rfl⟩
      exact .plus hsome hdigits
    · rintro ⟨hsome, hdigits, rfl⟩
      exact .digits hsome hdigits

/-- A text is read as the number that it spells, if 64 bits hold it. -/
theorem readInt?_eq_some {text : List Char} {n : Int} :
    readInt? text = some n ↔ Spells text n ∧ inInt64 n = true := by
  simp only [readInt?, spells_iff, Bool.or_eq_true, List.isEmpty_iff, Bool.not_eq_true',
    List.all_eq_false, isDigit_eq]
  grind

end Number

namespace Double

/-- The number that a double stands for. -/
def value? : Double → Option ℚ
  | finite negative significand exponent =>
    some ((if negative then -1 else 1) * (significand * 2 ^ exponent))
  | _ => none

private theorem ratio_pos (significand : Nat) (exponent : Int) :
    0 < (ratio significand exponent).2 := by
  simp [ratio, Nat.shiftLeft_eq]

private theorem ratio_cast (significand : Nat) (exponent : Int) :
    ((ratio significand exponent).1 : ℚ) =
      significand * 2 ^ exponent * (ratio significand exponent).2 := by
  have hexponent : (exponent.toNat : Int) = exponent + (-exponent).toNat := by omega
  have hpower : (2 : ℚ) ^ exponent.toNat = 2 ^ exponent * 2 ^ (-exponent).toNat := by
    rw [← zpow_natCast, hexponent, zpow_add₀ (by decide), zpow_natCast]
  simp only [ratio, Nat.shiftLeft_eq, Nat.cast_mul, Nat.cast_pow, Nat.cast_ofNat, hpower, Nat.cast_one]
  ring

private theorem value?_eq_int {negative : Bool} {significand : Nat} {exponent n : Int} :
    (finite negative significand exponent).value? = some (n : ℚ) ↔
      ((ratio significand exponent).1 : Int) =
        (if negative then -n else n) * (ratio significand exponent).2 := by
  have hpos : ((ratio significand exponent).2 : ℚ) ≠ 0 := by
    exact_mod_cast (ratio_pos significand exponent).ne'
  rw [← Int.cast_inj (α := ℚ), Int.cast_natCast, Int.cast_mul, Int.cast_natCast, ratio_cast,
    mul_left_inj' hpos, value?, Option.some_inj]
  cases negative <;> simp [neg_eq_iff_eq_neg]

theorem isWhole_iff {x : Double} : x.isWhole = true ↔ ∃ n : Int, x.value? = some (n : ℚ) := by
  cases x with
  | nan => simp [isWhole, value?]
  | infinite => simp [isWhole, value?]
  | finite negative significand exponent =>
    simp only [isWhole, beq_iff_eq, value?_eq_int]
    constructor
    · intro h
      obtain ⟨k, hk⟩ := Nat.dvd_of_mod_eq_zero h
      refine ⟨if negative then -k else k, ?_⟩
      rw [hk]
      cases negative <;> simp [mul_comm]
    · rintro ⟨n, hn⟩
      exact Nat.mod_eq_zero_of_dvd (Int.natCast_dvd_natCast.mp (Dvd.intro_left _ hn.symm))

/-- A whole double becomes its number, clamped to 64 bits. -/
theorem toInt64_of_value {x : Double} {n : Int} (h : x.value? = some (n : ℚ)) :
    x.toInt64 = Number.clamped n := by
  cases x with
  | nan => exact nomatch h
  | infinite => exact nomatch h
  | finite negative significand exponent =>
    rw [value?_eq_int] at h
    have hpos := ratio_pos significand exponent
    have hsize : ((ratio significand exponent).1 / (ratio significand exponent).2 : Nat) =
        if negative then -n else n := by
      rw [Int.natCast_ediv, h, Int.mul_ediv_cancel _ (by omega)]
    have hnonneg : 0 ≤ if negative then -n else n := hsize ▸ Int.natCast_nonneg _
    simp only [toInt64, Number.clamped_eq, hsize, Int64.toInt_minValue, Int64.toInt_maxValue]
    cases negative
    · simp only [Bool.false_eq_true, if_false] at hnonneg ⊢
      omega
    · simp only [if_true] at hnonneg ⊢
      omega

private theorem le_roundedQuotient (num den : Nat) : num / den ≤ roundedQuotient num den := by
  unfold roundedQuotient
  grind

private theorem log2Ratio_one {n : Nat} (h : n ≠ 0) : log2Ratio n 1 = n.log2 := by
  have hone : Nat.log2 1 = 0 := by decide
  have hle : 1 <<< n.log2 ≤ n := by simpa [Nat.shiftLeft_eq] using Nat.log2_self_le h
  simp [log2Ratio, hone, hle]

private theorem toInt64_of_le {negative : Bool} {significand : Nat} {exponent : Int}
    (hsignificand : 2 ^ 52 ≤ significand) (hexponent : 11 ≤ exponent) :
    (finite negative significand exponent).toInt64 =
      if negative then Int64.minValue.toInt else Int64.maxValue.toInt := by
  have hunit : 2 ^ 11 ≤ 2 ^ exponent.toNat := Nat.pow_le_pow_right (by decide) (by omega)
  have hsize : 2 ^ 52 * 2 ^ 11 ≤ significand * 2 ^ exponent.toNat := Nat.mul_le_mul hsignificand hunit
  have hwhole : (ratio significand exponent).1 / (ratio significand exponent).2 =
      significand * 2 ^ exponent.toNat := by
    have hbelow : (-exponent).toNat = 0 := by omega
    simp [ratio, Nat.shiftLeft_eq, hbelow]
  rw [toInt64, hwhole, Int64.toInt_minValue, Int64.toInt_maxValue]
  split <;> omega

private theorem toInt64_ofRatio_one {negative : Bool} {n : Nat} (h : 2 ^ 63 ≤ n) :
    (ofRatio negative n 1).toInt64 =
      if negative then Int64.minValue.toInt else Int64.maxValue.toInt := by
  have hn : n ≠ 0 := by omega
  obtain ⟨exponent, hlog⟩ := Nat.exists_eq_add_of_le ((Nat.le_log2 hn).mpr h)
  -- The unit of the nearest double is at least `2 ^ 11`, and there are at least `2 ^ 52` of it.
  have hunit : max (log2Ratio n 1 - 52) minExponent = (exponent + 11 : Nat) := by
    rw [log2Ratio_one hn, minExponent]
    omega
  have hunits : 2 ^ 52 ≤ roundedQuotient n (2 ^ (exponent + 11)) := by
    refine le_trans ?_ (le_roundedQuotient _ _)
    rw [Nat.le_div_iff_mul_le (by positivity), ← pow_add]
    have hlow := Nat.log2_self_le hn
    rwa [hlog, show 63 + exponent = 52 + (exponent + 11) by omega] at hlow
  have hinfinite : (infinite negative).toInt64 =
      if negative then Int64.minValue.toInt else Int64.maxValue.toInt := rfl
  rw [ofRatio, if_neg hn]
  have hwhole : (-((exponent + 11 : Nat) : Int)).toNat = 0 := by omega
  simp only [hunit, hwhole, Int.toNat_natCast, Nat.shiftLeft_eq, one_mul, pow_zero, mul_one]
  split
  case isTrue =>
    split
    · exact hinfinite
    · exact toInt64_of_le le_rfl (by omega)
  case isFalse =>
    split
    · exact hinfinite
    · exact toInt64_of_le hunits (by omega)

/-- A whole number beyond 64 bits becomes the end of their range by way of the nearest double. -/
theorem toInt64_ofInt {n : Int} (h : Number.inInt64 n = false) :
    (ofInt n).toInt64 = Number.clamped n := by
  have hrange : ¬ (-2 ^ 63 ≤ n ∧ n < 2 ^ 63) := by
    rw [← Number.inInt64_iff, h]
    decide
  rw [ofInt, toInt64_ofRatio_one (by omega), Number.clamped_eq, Int64.toInt_minValue,
    Int64.toInt_maxValue]
  by_cases hsign : n < 0
  · simp only [hsign, decide_true, if_true]
    omega
  · simp only [hsign, decide_false, Bool.false_eq_true, if_false]
    omega

end Double

/-- The number that a JSON number stands for. -/
def JsonNumber.value? : JsonNumber → Option ℚ
  | whole n => some n
  | real x => x.value?

end TenantGrid
