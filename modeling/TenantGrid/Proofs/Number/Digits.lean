import TenantGrid.Proofs.Number.Exact
/-!
# Runs of digits

A run of decimal digits stands for one number. Two runs of one length that stand for the same number are
the same, so that runs of different lengths differ in the zeros before them.
-/
namespace TenantGrid.Number

private theorem ofDigitChars_inj {u v : List Char} (hu : ∀ c ∈ u, c.isDigit = true)
    (hv : ∀ c ∈ v, c.isDigit = true) (hlength : u.length = v.length) {m n : Nat}
    (h : Nat.ofDigitChars 10 u m = Nat.ofDigitChars 10 v n) : m = n ∧ u = v := by
  induction u generalizing v m n with
  | nil =>
    obtain rfl := List.length_eq_zero_iff.mp hlength.symm
    exact ⟨h, rfl⟩
  | cons c u ih =>
    obtain ⟨d, v, rfl⟩ := List.exists_cons_of_length_eq_add_one hlength.symm
    obtain ⟨hc, hu⟩ := List.forall_mem_cons.mp hu
    obtain ⟨hd, hv⟩ := List.forall_mem_cons.mp hv
    rw [Nat.ofDigitChars_cons, Nat.ofDigitChars_cons] at h
    obtain ⟨hvalue, rfl⟩ := ih hu hv (Nat.succ.inj hlength) h
    have hrange {x : Char} (hx : x.isDigit = true) : 48 ≤ x.toNat ∧ x.toNat ≤ 57 := by
      simpa [Char.isDigit, UInt32.le_iff_toNat_le] using hx
    have hzero : '0'.toNat = 48 := rfl
    have hcode := hrange hc
    have hcode' := hrange hd
    have hchar : c = d := Char.toNat_inj.mp (by omega)
    exact ⟨by omega, by rw [hchar]⟩

/-- Zeros before digits do not change what they stand for. -/
theorem ofDigitChars_zeros (zeros : Nat) (digits : List Char) :
    Nat.ofDigitChars 10 (List.replicate zeros '0' ++ digits) 0 = Nat.ofDigitChars 10 digits 0 := by
  rw [Nat.ofDigitChars_append, Nat.ofDigitChars_replicate_zero]
  simp

theorem isDigit_of_mem_zeros {zeros : Nat} {digits : List Char} (h : ∀ c ∈ digits, c.isDigit = true) :
    ∀ c ∈ List.replicate zeros '0' ++ digits, c.isDigit = true := by
  intro c hc
  rcases List.mem_append.mp hc with hc | hc
  · rw [List.eq_of_mem_replicate hc]
    decide
  · exact h c hc

/-- Of two runs of digits that stand for one number the longer one has zeros before the shorter. -/
theorem eq_zeros_append {u v : List Char} (hu : ∀ c ∈ u, c.isDigit = true)
    (hv : ∀ c ∈ v, c.isDigit = true) (h : Nat.ofDigitChars 10 u 0 = Nat.ofDigitChars 10 v 0)
    (hlength : u.length ≤ v.length) : v = List.replicate (v.length - u.length) '0' ++ u := by
  have hsame : (List.replicate (v.length - u.length) '0' ++ u).length = v.length := by
    rw [List.length_append, List.length_replicate]
    omega
  rw [← ofDigitChars_zeros (v.length - u.length) u] at h
  exact (ofDigitChars_inj (isDigit_of_mem_zeros hu) hv hsame h).2.symm

/-- Digits without a sign are read as the number that they stand for, if 64 bits hold it. -/
theorem readInt?_digits {digits : List Char} (hsome : digits ≠ [])
    (hdigits : ∀ c ∈ digits, c.isDigit = true) {n : Int} :
    readInt? digits = some n ↔ n = Nat.ofDigitChars 10 digits 0 ∧ n < 2 ^ 63 := by
  rw [readInt?_eq_some, inInt64_iff]
  constructor
  · rintro ⟨hspells, _, hbound⟩
    refine ⟨?_, hbound⟩
    cases hspells with
    | digits => rfl
    | plus => exact absurd (hdigits '+' (by simp)) (by decide)
    | minus => exact absurd (hdigits '-' (by simp)) (by decide)
  · rintro ⟨rfl, hbound⟩
    exact ⟨.digits hsome hdigits, by omega, hbound⟩

end TenantGrid.Number
