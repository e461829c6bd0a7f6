import Mathlib.Data.List.Basic
import TenantGrid.Json.Printer
/-!
# Digits of written numbers

A whole number is written with digits and at most a sign, a double with a point or an exponent as
well. So the text of a whole number is never that of a double, and a number ends at the first
character that is none of these.
-/
namespace TenantGrid

/-- The characters of written numbers. -/
def isNumeric (c : Char) : Bool :=
  c.isDigit || ['-', '+', '.', 'e'].contains c

/-- The characters that only doubles are written with. -/
def marksReal (c : Char) : Bool :=
  ['.', 'e'].contains c

theorem natRepr_injective {m n : Nat} (h : m.repr = n.repr) : m = n := by
  have hd : Nat.toDigits 10 m = Nat.toDigits 10 n := String.ofList_injective h
  rw [← Nat.ofDigitChars_ten_toDigits (n := m), hd, Nat.ofDigitChars_ten_toDigits]

theorem isDigit_of_mem_natRepr {n : Nat} {c : Char} (h : c ∈ n.repr.toList) :
    c.isDigit = true := by
  rw [Nat.toList_repr] at h
  exact Nat.isDigit_of_mem_toDigits (by decide) (by decide) h

theorem natRepr_toList_ne_nil (n : Nat) : n.repr.toList ≠ [] := by
  rw [Nat.toList_repr]
  exact Nat.toDigits_ne_nil

private theorem intRepr_negSucc (m : Nat) :
    (Int.negSucc m).repr.toList = '-' :: (m + 1).repr.toList := by
  have hrepr : (Int.negSucc m).repr = "-" ++ (m + 1).repr := rfl
  rw [hrepr, String.toList_append]
  rfl

private theorem isDigit_of_mem_intRepr {n : Int} {c : Char} (h : c ∈ n.repr.toList) :
    c = '-' ∨ c.isDigit = true := by
  cases n with
  | ofNat m => exact Or.inr (isDigit_of_mem_natRepr h)
  | negSucc m =>
    rw [intRepr_negSucc, List.mem_cons] at h
    exact h.imp_right isDigit_of_mem_natRepr

private theorem intRepr_injective {m n : Int} (h : m.repr = n.repr) : m = n := by
  have hsign : ∀ k l : Nat, (Int.ofNat k).repr ≠ (Int.negSucc l).repr := by
    intro k l heq
    have hmem : '-' ∈ k.repr.toList := by
      change '-' ∈ (Int.ofNat k).repr.toList
      rw [heq, intRepr_negSucc]
      exact List.mem_cons_self
    exact absurd (isDigit_of_mem_natRepr hmem) (by decide)
  cases m with
  | ofNat k =>
    cases n with
    | ofNat l => exact congrArg Int.ofNat (natRepr_injective h)
    | negSucc l => exact absurd h (hsign k l)
  | negSucc k =>
    cases n with
    | ofNat l => exact absurd h.symm (hsign l k)
    | negSucc l =>
      have hdigits : '-' :: (k + 1).repr.toList = '-' :: (l + 1).repr.toList := by
        rw [← intRepr_negSucc, ← intRepr_negSucc, h]
      have hsucc := natRepr_injective (String.toList_inj.mp (List.cons.inj hdigits).2)
      exact congrArg Int.negSucc (Nat.succ.inj hsucc)

private theorem isNumeric_of_isDigit {c : Char} (h : c.isDigit = true) : isNumeric c = true := by
  simp [isNumeric, h]

private theorem not_marksReal_of_isDigit {c : Char} (h : c.isDigit = true) :
    marksReal c = false := by
  have hpoint : c ≠ '.' := fun heq => absurd (heq ▸ h) (by decide)
  have hexponent : c ≠ 'e' := fun heq => absurd (heq ▸ h) (by decide)
  simp [marksReal, hpoint, hexponent]

namespace JsonNumber

theorem isNumeric_whole {n : Int} {c : Char} (h : c ∈ (whole n).text.toList) :
    isNumeric c = true ∧ marksReal c = false := by
  rcases isDigit_of_mem_intRepr h with rfl | hdigit
  · decide
  · exact ⟨isNumeric_of_isDigit hdigit, not_marksReal_of_isDigit hdigit⟩

end JsonNumber

namespace NumberStyle

private theorem decimalText_eq (style : NumberStyle) (d : Decimal) :
    style.decimalText d =
      let digits := (Nat.repr d.digits).toList
      let point := digits.length + d.exponent
      if style.isPlain point then
        if point ≤ 0 then ['0', '.'] ++ List.replicate (-point).toNat '0' ++ digits
        else if point < digits.length then
          digits.take point.toNat ++ '.' :: digits.drop point.toNat
        else digits ++ List.replicate (point - digits.length).toNat '0' ++ style.wholeMark.toList
      else
        digits.take 1 ++ (if (digits.drop 1).isEmpty then [] else '.' :: digits.drop 1) ++ ['e']
          ++ (if point - 1 < 0 then [] else style.exponentMark.toList)
          ++ (point - 1).repr.toList :=
  rfl

/-- Whether the marks of a style are numeric, and that of whole numbers tells them to be doubles. -/
structure MarksNumbers (style : NumberStyle) : Prop where
  whole : ∀ c ∈ style.wholeMark.toList, isNumeric c = true
  exponent : ∀ c ∈ style.exponentMark.toList, isNumeric c = true
  point : '.' ∈ style.wholeMark.toList

variable {style : NumberStyle}

private theorem decimalText_numeric (h : style.MarksNumbers) (d : Decimal) :
    (∀ c ∈ style.decimalText d, isNumeric c = true) ∧
      ∃ c ∈ style.decimalText d, marksReal c = true := by
  have hdigits : ∀ c ∈ (Nat.repr d.digits).toList, isNumeric c = true :=
    fun c hc => isNumeric_of_isDigit (isDigit_of_mem_natRepr hc)
  have hpower : ∀ (n : Int), ∀ c ∈ n.repr.toList, isNumeric c = true := by
    intro n c hc
    exact (JsonNumber.isNumeric_whole hc).1
  have hzeros : ∀ (n : Nat), ∀ c ∈ List.replicate n '0', isNumeric c = true := by
    intro n c hc
    rw [List.eq_of_mem_replicate hc]
    decide
  rw [decimalText_eq]
  generalize (Nat.repr d.digits).toList = digits at hdigits
  have htake : ∀ n, ∀ c ∈ digits.take n, isNumeric c = true :=
    fun n c hc => hdigits c (List.mem_of_mem_take hc)
  have hdrop : ∀ n, ∀ c ∈ digits.drop n, isNumeric c = true :=
    fun n c hc => hdigits c (List.mem_of_mem_drop hc)
  have hpoint : isNumeric '.' = true ∧ marksReal '.' = true := by decide
  have hexponent : isNumeric 'e' = true ∧ marksReal 'e' = true := by decide
  dsimp only
  split
  · split
    · refine ⟨?_, '.', by simp, hpoint.2⟩
      simp only [List.forall_mem_append, List.forall_mem_cons]
      exact ⟨⟨⟨by decide, hpoint.1, by simp⟩, hzeros _⟩, hdigits⟩
    · split
      · refine ⟨?_, '.', by simp, hpoint.2⟩
        simp only [List.forall_mem_append, List.forall_mem_cons]
        exact ⟨htake _, hpoint.1, hdrop _⟩
      · refine ⟨?_, '.', List.mem_append_right _ h.point, hpoint.2⟩
        simp only [List.forall_mem_append]
        exact ⟨⟨hdigits, hzeros _⟩, h.whole⟩
  · refine ⟨?_, 'e', by simp, hexponent.2⟩
    have hfraction : ∀ c ∈ (if (digits.drop 1).isEmpty then [] else '.' :: digits.drop 1),
        isNumeric c = true := by
      split
      · simp
      · simp only [List.forall_mem_cons]
        exact ⟨hpoint.1, hdrop 1⟩
    have hsign : ∀ (n : Int), ∀ c ∈ (if n < 0 then [] else style.exponentMark.toList),
        isNumeric c = true := by
      intro n
      split
      · simp
      · exact h.exponent
    simp only [List.forall_mem_append]
    exact ⟨⟨⟨⟨htake 1, hfraction⟩, by simpa using hexponent.1⟩, hsign _⟩, hpower _⟩

/-- So is every finite double. -/
theorem text_finite (h : style.MarksNumbers) {x : Double} (hx : x.isFinite = true) :
    (∀ c ∈ (style.text x).toList, isNumeric c = true) ∧
      ∃ c ∈ (style.text x).toList, marksReal c = true := by
  obtain ⟨negative, significand, exponent, rfl⟩ :
      ∃ negative significand exponent, x = .finite negative significand exponent := by
    cases x with
    | nan | infinite => simp [Double.isFinite] at hx
    | finite negative significand exponent => exact ⟨_, _, _, rfl⟩
  have hsign : ∀ c ∈ (if negative then "-" else "").toList, isNumeric c = true :=
    List.all_eq_true.mp (by cases negative <;> decide)
  have hzero : ∀ c ∈ ("0" ++ style.wholeMark).toList, isNumeric c = true := by
    rw [String.toList_append]
    exact List.forall_mem_append.mpr ⟨List.all_eq_true.mp (by decide), h.whole⟩
  have hdecimal := decimalText_numeric h (Double.shortest style.tie significand exponent)
  simp only [text, String.toList_append, List.mem_append]
  by_cases hm : significand = 0
  · rw [if_pos hm]
    refine ⟨fun d hd => hd.elim (hsign d) (hzero d), '.', Or.inr ?_, by decide⟩
    rw [String.toList_append]
    exact List.mem_append_right _ h.point
  · obtain ⟨hnumeric, c, hc, hmark⟩ := hdecimal
    rw [if_neg hm, String.toList_ofList]
    exact ⟨fun d hd => hd.elim (hsign d) (hnumeric d), c, Or.inr hc, hmark⟩

end NumberStyle

private theorem jsonNumberStyle_marksNumbers : jsonNumberStyle.MarksNumbers :=
  ⟨List.all_eq_true.mp (by decide), List.all_eq_true.mp (by decide), by decide⟩

namespace JsonNumber

private theorem isNumeric_real {x : Double} (hx : x.isFinite = true) :
    (∀ c ∈ (real x).text.toList, isNumeric c = true) ∧
      ∃ c ∈ (real x).text.toList, marksReal c = true := by
  have htext : (real x).text = jsonNumberStyle.text x := by simp [text, hx]
  rw [htext]
  exact NumberStyle.text_finite jsonNumberStyle_marksNumbers hx

theorem text_numeric {n : JsonNumber} (hfinite : ∀ x, n = real x → x.isFinite = true) :
    n.text.toList ≠ [] ∧ ∀ c ∈ n.text.toList, isNumeric c = true := by
  cases n with
  | whole k =>
    refine ⟨?_, fun c hc => (isNumeric_whole hc).1⟩
    cases k with
    | ofNat m => exact natRepr_toList_ne_nil m
    | negSucc m =>
      rw [text, intRepr_negSucc]
      exact List.cons_ne_nil _ _
  | real x =>
    obtain ⟨hnumeric, c, hc, _⟩ := isNumeric_real (hfinite x rfl)
    exact ⟨List.ne_nil_of_mem hc, hnumeric⟩

/-- The numbers of a text can be told apart if its doubles can. -/
theorem text_injective {m n : JsonNumber} (hm : ∀ x, m = real x → x.isFinite = true)
    (hn : ∀ x, n = real x → x.isFinite = true)
    (hreal : ∀ x y, m = real x → n = real y →
      jsonNumberStyle.text x = jsonNumberStyle.text y → x = y) (h : m.text = n.text) : m = n := by
  have hkind : ∀ (k : Int) (x : Double), x.isFinite = true → (whole k).text ≠ (real x).text := by
    intro k x hx heq
    obtain ⟨c, hc, hmark⟩ := (isNumeric_real hx).2
    rw [← heq] at hc
    rw [(isNumeric_whole hc).2] at hmark
    exact absurd hmark (by decide)
  cases m with
  | whole k =>
    cases n with
    | whole l => exact congrArg whole (intRepr_injective h)
    | real y => exact absurd h (hkind k y (hn y rfl))
  | real x =>
    cases n with
    | whole l => exact absurd h.symm (hkind l x (hm x rfl))
    | real y =>
      have htext : jsonNumberStyle.text x = jsonNumberStyle.text y := by
        simpa [text, hm x rfl, hn y rfl] using h
      exact congrArg real (hreal x y rfl rfl htext)

end JsonNumber

end TenantGrid
