import TenantGrid.Proofs.Number.Digits
import TenantGrid.Proofs.Text.Bytes
import TenantGrid.Text.Basic
/-!
# Runs of characters

Characters of a kind up to one that is not of the kind, numbers that are written with zeros before them up
to a number of digits, and blanks around a text, which are taken away where neither end of the text is a
blank.
-/
namespace TenantGrid.Text

section Kind

variable {p : Char → Bool} {run rest : List Char}

theorem takeWhile_end (hrest : ∀ c ∈ rest.head?, p c = false) : rest.takeWhile p = [] := by
  cases rest with
  | nil => rfl
  | cons c rest => exact List.takeWhile_cons_of_neg (by simp [hrest c rfl])

theorem dropWhile_end (hrest : ∀ c ∈ rest.head?, p c = false) : rest.dropWhile p = rest := by
  cases rest with
  | nil => rfl
  | cons c rest => exact List.dropWhile_cons_of_neg (by simp [hrest c rfl])

theorem takeWhile_run (hrun : ∀ c ∈ run, p c = true) (hrest : ∀ c ∈ rest.head?, p c = false) :
    (run ++ rest).takeWhile p = run := by
  rw [List.takeWhile_append_of_pos hrun, takeWhile_end hrest, List.append_nil]

theorem dropWhile_run (hrun : ∀ c ∈ run, p c = true) (hrest : ∀ c ∈ rest.head?, p c = false) :
    (run ++ rest).dropWhile p = rest := by
  rw [List.dropWhile_append_of_pos hrun, dropWhile_end hrest]

/-- A text is the longest run of a kind and a rest that does not go on with the kind. -/
theorem run_split (p : Char → Bool) (text : List Char) :
    text = text.takeWhile p ++ text.drop (text.takeWhile p).length ∧
      (∀ c ∈ text.takeWhile p, p c = true) ∧
        ∀ c ∈ (text.drop (text.takeWhile p).length).head?, p c = false := by
  induction text with
  | nil => simp
  | cons c rest ih =>
    by_cases hc : p c = true
    · simpa [List.takeWhile_cons_of_pos hc, hc] using ih
    · simp [List.takeWhile_cons_of_neg hc, hc]

end Kind

/-- Whether a text is a number of `width` digits. -/
structure IsRun (width n : Nat) (digits : List Char) : Prop where
  length_eq : digits.length = width
  allDigits : ∀ c ∈ digits, isDigit c = true
  value_eq : decimalValue digits = n

private theorem toList_padded (width n : Nat) : (padded width n).toList =
    List.replicate (width - (Nat.toDigits 10 n).length) '0' ++ Nat.toDigits 10 n := by
  simp [padded]

/-- A number that is written with zeros before it is a run of its own length. -/
theorem isRun_padded_self (width n : Nat) : IsRun (padded width n).length n (padded width n).toList where
  length_eq := String.length_toList
  allDigits := by
    have hdigits : ∀ c ∈ Nat.toDigits 10 n, c.isDigit = true := fun c hc =>
      Nat.isDigit_of_mem_toDigits (by decide) (by decide) hc
    simpa [toList_padded, Number.isDigit_eq] using Number.isDigit_of_mem_zeros hdigits
  value_eq := by
    have hvalue := Number.ofDigitChars_zeros (width - (Nat.toDigits 10 n).length) (Nat.toDigits 10 n)
    rw [Nat.ofDigitChars_ten_toDigits] at hvalue
    rw [toList_padded]
    exact hvalue

theorem isRun_padded {width n : Nat} (hwidth : 0 < width) (h : n < 10 ^ width) :
    IsRun width n (padded width n).toList := by
  have hlength : (padded width n).length = width := by
    rw [length_padded, Nat.max_eq_left ((Nat.length_toDigits_le_iff (by decide) hwidth).mpr h)]
  have hrun := isRun_padded_self width n
  rwa [hlength] at hrun

theorem isBlank_of_isDigit {c : Char} (h : isDigit c = true) : isBlank c = false := by
  have hrange : 48 ≤ c.toNat ∧ c.toNat ≤ 57 := by
    simpa [isDigit, Char.le_def, UInt32.le_iff_toNat_le] using h
  simp only [isBlank, Bool.or_eq_false_iff, Bool.and_eq_false_iff, decide_eq_false_iff_not,
    beq_eq_false_iff_ne]
  omega

theorem trimStart_cons {c : Char} (h : isBlank c = false) (rest : List Char) :
    trimStart (c :: rest) = c :: rest :=
  List.dropWhile_cons_of_neg (by simp [h])

theorem IsRun.exists_cons {width n : Nat} {digits : List Char} (h : IsRun (width + 1) n digits) :
    ∃ c more, digits = c :: more ∧ isDigit c = true := by
  obtain ⟨c, more, rfl⟩ := List.exists_cons_of_length_eq_add_one h.length_eq
  exact ⟨c, more, rfl, h.allDigits c List.mem_cons_self⟩

theorem IsRun.trimStart_append {width n : Nat} {digits : List Char} (h : IsRun (width + 1) n digits)
    (rest : List Char) : trimStart (digits ++ rest) = digits ++ rest := by
  obtain ⟨c, more, rfl, hc⟩ := h.exists_cons
  exact trimStart_cons (isBlank_of_isDigit hc) (more ++ rest)

/-- Whether a text ends in something else than a blank. -/
def EndsSolid (text : List Char) : Prop :=
  ∃ rest c, text = rest ++ [c] ∧ isBlank c = false

theorem EndsSolid.append {text : List Char} (h : EndsSolid text) (before : List Char) :
    EndsSolid (before ++ text) := by
  obtain ⟨rest, c, rfl, hc⟩ := h
  exact ⟨before ++ rest, c, (List.append_assoc before rest [c]).symm, hc⟩

theorem EndsSolid.cons {text : List Char} (h : EndsSolid text) (c : Char) : EndsSolid (c :: text) :=
  h.append [c]

theorem IsRun.endsSolid {width n : Nat} {digits : List Char} (h : IsRun (width + 1) n digits) :
    EndsSolid digits := by
  obtain ⟨c, more, rfl, _⟩ := h.exists_cons
  have hne : c :: more ≠ [] := nofun
  refine ⟨(c :: more).dropLast, (c :: more).getLast hne, (List.dropLast_append_getLast hne).symm, ?_⟩
  exact isBlank_of_isDigit (h.allDigits _ (List.getLast_mem hne))

/-- Blanks around a text that has none at its ends are taken away. -/
theorem trim_surrounded {first : Char} {rest before after : List Char} (hfirst : isBlank first = false)
    (hlast : EndsSolid (first :: rest)) (hbefore : ∀ c ∈ before, isBlank c = true)
    (hafter : ∀ c ∈ after, isBlank c = true) :
    trim (before ++ first :: rest ++ after) = first :: rest := by
  obtain ⟨front, last, htext, hlast⟩ := hlast
  have hstart : trimStart (before ++ first :: rest ++ after) = first :: rest ++ after := by
    rw [List.append_assoc, trimStart, List.dropWhile_append_of_pos hbefore]
    exact trimStart_cons hfirst (rest ++ after)
  have hend : trimStart (first :: rest ++ after).reverse = (first :: rest).reverse := by
    have hreverse : ∀ c ∈ after.reverse, isBlank c = true := by simpa using hafter
    rw [List.reverse_append, trimStart, List.dropWhile_append_of_pos hreverse, htext,
      List.reverse_append, List.reverse_singleton]
    exact trimStart_cons hlast front.reverse
  rw [trim, hstart, hend, List.reverse_reverse]

end TenantGrid.Text
