import Mathlib.Algebra.Group.Nat.Defs
import Mathlib.Data.List.Basic
import TenantGrid.Text.Basic
/-!
# Texts byte by byte

How a store without a collation compares texts. Numbers written with one number of digits compare as
the numbers do, and what follows two texts of one length decides only between equal ones.
-/
namespace TenantGrid

section Lexicographic

variable {u v r r' : List Nat}

/-- The order of two lists of numbers by the first that differs, a beginning coming before its
continuations. -/
def compareLists (u v : List Nat) : Ordering :=
  List.compareLex compare u v

@[simp] theorem compareLists_nil_nil : compareLists [] [] = .eq :=
  List.compareLex_nil_nil

@[simp] theorem compareLists_nil_cons (x : Nat) : compareLists [] (x :: v) = .lt :=
  List.compareLex_nil_cons

@[simp] theorem compareLists_cons_nil (x : Nat) : compareLists (x :: u) [] = .gt :=
  List.compareLex_cons_nil

@[simp] theorem compareLists_cons_cons (x y : Nat) :
    compareLists (x :: u) (y :: v) = (compare x y).then (compareLists u v) :=
  List.compareLex_cons_cons

instance : Std.OrientedCmp compareLists :=
  inferInstanceAs (Std.OrientedCmp (List.compareLex compare))

theorem compareLists_swap (u v : List Nat) : (compareLists u v).swap = compareLists v u :=
  Std.OrientedCmp.eq_swap.symm

@[simp] theorem compareLists_self (u : List Nat) : compareLists u u = .eq :=
  Std.ReflCmp.compare_self

private theorem compareLists_append (h : u.length = v.length) :
    compareLists (u ++ r) (v ++ r') = (compareLists u v).then (compareLists r r') := by
  induction u generalizing v with
  | nil =>
    obtain rfl := List.length_eq_zero_iff.mp h.symm
    rfl
  | cons x u ih =>
    obtain ⟨y, v, rfl⟩ := List.exists_cons_of_length_eq_add_one h.symm
    simp only [List.cons_append, compareLists_cons_cons, Ordering.then_assoc, ih (Nat.succ.inj h)]

/-- A mark that is below everything before it ends a list as its end does. -/
theorem compareLists_marked {mark : Nat} (hu : ∀ x ∈ u, mark < x) (hv : ∀ x ∈ v, mark < x) :
    compareLists (u ++ mark :: r) (v ++ mark :: r') = (compareLists u v).then (compareLists r r') := by
  induction u generalizing v with
  | nil =>
    cases v with
    | nil => simp
    | cons y v => simp [Nat.compare_eq_lt.mpr (hv y (by simp))]
  | cons x u ih =>
    cases v with
    | nil => simp [Nat.compare_eq_gt.mpr (hu x (by simp))]
    | cons y v =>
      have hrest := ih (v := v) (fun z hz => hu z (by simp [hz])) fun z hz => hv z (by simp [hz])
      simp only [List.cons_append, compareLists_cons_cons, Ordering.then_assoc, hrest]

theorem then_right_inj {o p q : Ordering} : o.then p = o.then q ↔ (o = .eq → p = q) := by
  cases o <;> simp

/-- Numbers compare by their quotients, and those of one quotient by their remainders. -/
theorem compare_eq_divMod (k m n : Nat) :
    compare m n = (compare (m / k) (n / k)).then (compare (m % k) (n % k)) := by
  have hm := Nat.div_add_mod m k
  have hn := Nat.div_add_mod n k
  obtain h | h | h := Nat.lt_trichotomy (m / k) (n / k)
  · have hless : m < n := Nat.lt_of_not_le fun hle => absurd (Nat.div_le_div_right (c := k) hle) (by omega)
    rw [Nat.compare_eq_lt.mpr h, Nat.compare_eq_lt.mpr hless]
    rfl
  · rw [h] at hm
    rw [Nat.compare_eq_eq.mpr h, Ordering.eq_then, Nat.compare_eq_ite_lt, Nat.compare_eq_ite_lt]
    have hless : m < n ↔ m % k < n % k := by omega
    have hgreater : n < m ↔ n % k < m % k := by omega
    simp only [hless, hgreater]
  · have hless : n < m := Nat.lt_of_not_le fun hle => absurd (Nat.div_le_div_right (c := k) hle) (by omega)
    rw [Nat.compare_eq_gt.mpr h, Nat.compare_eq_gt.mpr hless]
    rfl

end Lexicographic

/-- The bytes of the last `width` digits of a number. -/
def digitBytes : Nat → Nat → List Nat
  | 0, _ => []
  | width + 1, n => digitBytes width (n / 10) ++ [48 + n % 10]

theorem length_digitBytes (width n : Nat) : (digitBytes width n).length = width := by
  induction width generalizing n with
  | zero => rfl
  | succ width ih => rw [digitBytes, List.length_append, ih, List.length_singleton]

theorem le_of_mem_digitBytes {width n x : Nat} (h : x ∈ digitBytes width n) : 48 ≤ x := by
  induction width generalizing n with
  | zero => exact nomatch h
  | succ width ih =>
    rcases List.mem_append.mp h with h | h
    · exact ih h
    · rw [List.mem_singleton.mp h]
      omega

private theorem digitBytes_add (width more n : Nat) :
    digitBytes (width + more) n = digitBytes width (n / 10 ^ more) ++ digitBytes more n := by
  induction more generalizing n with
  | zero => simp [digitBytes]
  | succ more ih =>
    rw [← Nat.add_assoc, digitBytes, ih, digitBytes, List.append_assoc, Nat.div_div_eq_div_mul,
      Nat.pow_succ']

private theorem compareLists_digitBytes {width m n : Nat} (hm : m < 10 ^ width)
    (hn : n < 10 ^ width) :
    compareLists (digitBytes width m) (digitBytes width n) = compare m n := by
  induction width generalizing m n with
  | zero =>
    obtain rfl : m = 0 := by omega
    obtain rfl : n = 0 := by omega
    rfl
  | succ width ih =>
    have hdigit : compareLists [48 + m % 10] [48 + n % 10] = compare (m % 10) (n % 10) := by
      simp [Nat.compare_eq_ite_lt]
    have hlength : (digitBytes width (m / 10)).length = (digitBytes width (n / 10)).length := by
      rw [length_digitBytes, length_digitBytes]
    rw [digitBytes, digitBytes, compareLists_append hlength, hdigit,
      ih (by rw [Nat.pow_succ] at hm; omega) (by rw [Nat.pow_succ] at hn; omega),
      ← compare_eq_divMod]

theorem compareLists_twoDigits {m n : Nat} (hm : m < 100) (hn : n < 100) (r r' : List Nat) :
    compareLists (digitBytes 2 m ++ r) (digitBytes 2 n ++ r') = (compare m n).then (compareLists r r') := by
  rw [compareLists_append (by rw [length_digitBytes, length_digitBytes]), compareLists_digitBytes hm hn]

/-- Numbers of two widths compare as their first digits do, and then the shorter one comes first. -/
theorem compareLists_digitBytes_of_le {width more m n : Nat} (hm : m < 10 ^ width)
    (hn : n < 10 ^ (width + more)) :
    compareLists (digitBytes width m) (digitBytes (width + more) n) =
      (compare m (n / 10 ^ more)).then (if more = 0 then .eq else .lt) := by
  have hfirst : n / 10 ^ more < 10 ^ width := by
    rw [Nat.div_lt_iff_lt_mul (Nat.pow_pos (by decide)), ← Nat.pow_add]
    exact hn
  have hlength : (digitBytes width m).length = (digitBytes width (n / 10 ^ more)).length := by
    rw [length_digitBytes, length_digitBytes]
  have hrest : compareLists [] (digitBytes more n) = if more = 0 then .eq else .lt := by
    cases hbytes : digitBytes more n with
    | nil =>
      have hmore := length_digitBytes more n
      simp [hbytes] at hmore
      simp [← hmore]
    | cons x rest =>
      have hmore := length_digitBytes more n
      simp [hbytes] at hmore
      simp [← hmore]
  rw [digitBytes_add, ← List.append_nil (digitBytes width m), compareLists_append hlength,
    compareLists_digitBytes hm hfirst, hrest]

namespace Text

/-- The bytes of a text in UTF-8. -/
def bytes (s : String) : List Nat :=
  s.toUTF8.data.toList.map UInt8.toNat

/-- How two texts compare byte by byte. -/
def compareBytes (s t : String) : Ordering :=
  compareLists (bytes s) (bytes t)

theorem bytes_append (s t : String) : bytes (s ++ t) = bytes s ++ bytes t := by
  simp [bytes, String.toUTF8]

theorem bytes_ofList (l : List Char) :
    bytes (String.ofList l) = (l.flatMap String.utf8EncodeChar).map UInt8.toNat := by
  simp [bytes, String.toUTF8, List.utf8Encode]

private theorem bytes_of_ascii {l : List Char} (h : ∀ c ∈ l, c.toNat < 128) :
    bytes (String.ofList l) = l.map Char.toNat := by
  rw [bytes_ofList]
  induction l with
  | nil => rfl
  | cons c l ih =>
    have hc : c.toNat < 128 := h c (by simp)
    have hsize : c.utf8Size = 1 := by
      rw [Char.utf8Size_eq_one_iff, UInt32.le_iff_toNat_le]
      exact Nat.le_of_lt_succ hc
    have hbyte : (c.val.toUInt8).toNat = c.toNat := Nat.mod_eq_of_lt (Nat.lt_trans hc (by decide))
    rw [List.flatMap_cons, List.map_append, ih fun d hd => h d (by simp [hd]),
      String.utf8EncodeChar_eq_singleton hsize, List.map_singleton, hbyte]
    rfl

private theorem map_padded {width n : Nat} (h : n < 10 ^ (width + 1)) :
    (List.replicate (width + 1 - (Nat.toDigits 10 n).length) '0' ++ Nat.toDigits 10 n).map Char.toNat =
      digitBytes (width + 1) n := by
  induction width generalizing n with
  | zero =>
    have hn : n < 10 := h
    rw [Nat.toDigits_of_lt_base hn]
    simp [digitBytes, Nat.toNat_digitChar_of_lt_ten hn, Nat.mod_eq_of_lt hn]
  | succ width ih =>
    have hquotient : n / 10 < 10 ^ (width + 1) := by
      rw [Nat.pow_succ] at h
      omega
    rw [digitBytes, ← ih hquotient]
    by_cases hn : n < 10
    · rw [Nat.toDigits_of_lt_base hn, Nat.div_eq_of_lt hn, Nat.mod_eq_of_lt hn]
      simp [Nat.toNat_digitChar_of_lt_ten hn, List.replicate_succ', Nat.toDigits_zero]
    · rw [Nat.toDigits_of_base_le (by decide) (by omega)]
      simp [Nat.toNat_digitChar_of_lt_ten (Nat.mod_lt n (by decide : 0 < 10))]

theorem length_padded (width n : Nat) :
    (padded width n).length = max width (Nat.toDigits 10 n).length := by
  simp [padded]
  omega

theorem padded_length_pos (width n : Nat) : 0 < (padded width n).length := by
  have hdigits : 0 < (Nat.toDigits 10 n).length := Nat.length_toDigits_pos
  rw [length_padded]
  omega

theorem lt_of_padded (width n : Nat) : n < 10 ^ (padded width n).length := by
  rw [← Nat.length_toDigits_le_iff (by decide) (padded_length_pos width n), length_padded]
  omega

/-- A number is written with its last digits, which are all that it has. -/
theorem bytes_padded (width n : Nat) :
    bytes (padded width n) = digitBytes (padded width n).length n := by
  have hascii : ∀ c ∈ List.replicate (width - (Nat.toDigits 10 n).length) '0' ++ Nat.toDigits 10 n,
      c.toNat < 128 := by
    intro c hc
    rcases List.mem_append.mp hc with hc | hc
    · rw [List.eq_of_mem_replicate hc]
      decide
    · have hdigit := Nat.isDigit_of_mem_toDigits (by decide) (by decide) hc
      simp only [Char.isDigit, Bool.and_eq_true, decide_eq_true_eq] at hdigit
      exact Nat.lt_of_le_of_lt hdigit.2 (by decide)
  obtain ⟨more, hmore⟩ := Nat.exists_eq_add_one.mpr (padded_length_pos width n)
  have hzeros : width - (Nat.toDigits 10 n).length = more + 1 - (Nat.toDigits 10 n).length := by
    rw [← hmore, length_padded]
    omega
  have hbound := lt_of_padded width n
  rw [hmore] at hbound ⊢
  rw [← map_padded hbound, ← hzeros, ← bytes_of_ascii hascii, padded]
  simp

theorem bytes_padded_of_lt {width n : Nat} (hwidth : 0 < width) (h : n < 10 ^ width) :
    bytes (padded width n) = digitBytes width n := by
  have hlength : (padded width n).length = width := by
    rw [length_padded, Nat.max_eq_left ((Nat.length_toDigits_le_iff (by decide) hwidth).mpr h)]
  rw [bytes_padded, hlength]

/-- A larger number has no fewer digits. -/
theorem length_padded_mono (width : Nat) {m n : Nat} (h : m ≤ n) :
    (padded width m).length ≤ (padded width n).length := by
  have hdigits : (Nat.toDigits 10 m).length ≤ (padded width n).length :=
    (Nat.length_toDigits_le_iff (by decide) (padded_length_pos width n)).mpr
      (Nat.lt_of_le_of_lt h (lt_of_padded width n))
  rw [length_padded width n] at hdigits ⊢
  rw [length_padded]
  omega

end Text

end TenantGrid
