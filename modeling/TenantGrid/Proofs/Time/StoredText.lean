import TenantGrid.Filter.Coercion
import TenantGrid.Proofs.Text.Bytes
import TenantGrid.Store.Cell
/-!
# Timestamps as text

A store that keeps timestamps as text compares them byte by byte. Between the years 0 and 9999 the texts are
in the order of time, to the second: what a bound moment has of a second is lost. Other years have a sign
and as many digits as they need, so that the order of texts is right only for some of them.
-/
namespace TenantGrid

namespace Date

/-- The number of digits that a year is written with. -/
def yearWidth (year : Int) : Nat :=
  (Text.padded 4 year.natAbs).length

/-- Whether the text of a year comes before that of a later one. Signs come before digits, and a plus
before a minus. Years of one sign compare by as many digits as the shorter one has. -/
def Ascends (earlier later : Int) : Prop :=
  (0 ≤ later ∧ later ≤ 9999) ∨
    (9999 < earlier ∧ earlier.natAbs * 10 ^ (yearWidth later - yearWidth earlier) ≤ later.natAbs) ∨
    (later < 0 ∧ earlier.natAbs < later.natAbs * 10 ^ (yearWidth earlier - yearWidth later))

instance (earlier later : Int) : Decidable (Ascends earlier later) := by
  unfold Ascends; infer_instance

/-- Whether two years are written in their order. -/
def InOrder (y z : Int) : Prop :=
  (y < z → Ascends y z) ∧ (z < y → Ascends z y)

instance (y z : Int) : Decidable (InOrder y z) := by
  unfold InOrder; infer_instance

private theorem inOrder_of_lt {y z : Int} (h : y < z) : InOrder y z ↔ Ascends y z :=
  ⟨fun horder => horder.1 h, fun hascends => ⟨fun _ => hascends, fun h' => absurd h' (by omega)⟩⟩

private theorem inOrder_comm {y z : Int} : InOrder y z ↔ InOrder z y :=
  And.comm

private theorem inOrder_of_fourDigits {y z : Int} (hy : 0 ≤ y ∧ y ≤ 9999) (hz : 0 ≤ z ∧ z ≤ 9999) :
    InOrder y z :=
  ⟨fun _ => Or.inl hz, fun _ => Or.inl hy⟩

-- The sign of the later year comes before the digits of the earlier one.
example : ¬ InOrder 9999 10000 := by decide +kernel

private theorem yearWidth_of_fourDigits {year : Int} (h : 0 ≤ year ∧ year ≤ 9999) :
    yearWidth year = 4 := by
  have hdigits : (Nat.toDigits 10 year.natAbs).length ≤ 4 :=
    (Nat.length_toDigits_le_iff (by decide) (by decide)).mpr (by omega)
  rw [yearWidth, Text.length_padded, Nat.max_eq_left hdigits]

private theorem yearWidth_pos (year : Int) : 0 < yearWidth year :=
  Text.padded_length_pos 4 year.natAbs

private theorem bytes_yearText_of_fourDigits {year : Int} (h : 0 ≤ year ∧ year ≤ 9999) :
    Text.bytes (yearText year) = digitBytes (yearWidth year) year.natAbs := by
  rw [yearText, if_pos h, Text.bytes_padded, yearWidth]

private theorem bytes_yearText_of_neg {year : Int} (h : year < 0) :
    Text.bytes (yearText year) = 45 :: digitBytes (yearWidth year) year.natAbs := by
  have hminus : Text.bytes "-" = [45] := by decide
  rw [yearText, if_neg (by omega), if_pos h, Text.bytes_append, hminus, Text.bytes_padded,
    List.singleton_append, yearWidth]

private theorem bytes_yearText_of_large {year : Int} (h : 9999 < year) :
    Text.bytes (yearText year) = 43 :: digitBytes (yearWidth year) year.natAbs := by
  have hplus : Text.bytes "+" = [43] := by decide
  rw [yearText, if_neg (by omega), if_neg (by omega), Text.bytes_append, hplus, Text.bytes_padded,
    List.singleton_append, yearWidth]

private theorem exists_bytes_yearText (year : Int) :
    ∃ first rest, Text.bytes (yearText year) = first :: rest ∧ ∀ x ∈ rest, 45 < x := by
  have hdigits : ∀ x ∈ digitBytes (yearWidth year) year.natAbs, 45 < x := fun x hx =>
    Nat.lt_of_lt_of_le (by decide) (le_of_mem_digitBytes hx)
  rcases Int.lt_or_le year 0 with hneg | hnonneg
  · exact ⟨45, _, bytes_yearText_of_neg hneg, hdigits⟩
  rcases Int.lt_or_le 9999 year with hlarge | hfour
  · exact ⟨43, _, bytes_yearText_of_large hlarge, hdigits⟩
  · have hsome : digitBytes (yearWidth year) year.natAbs ≠ [] := by
      rw [← List.length_pos_iff_ne_nil, length_digitBytes]
      exact yearWidth_pos year
    obtain ⟨first, rest, hbytes⟩ := List.exists_cons_of_ne_nil hsome
    rw [bytes_yearText_of_fourDigits ⟨hnonneg, hfour⟩, hbytes]
    exact ⟨first, rest, rfl, fun x hx => hdigits x (by simp [hbytes, hx])⟩

private theorem compareLists_year (y z : Int) (r r' : List Nat) :
    compareLists (Text.bytes (yearText y) ++ 45 :: r) (Text.bytes (yearText z) ++ 45 :: r') =
      (Text.compareBytes (yearText y) (yearText z)).then (compareLists r r') := by
  obtain ⟨first, rest, hy, hrest⟩ := exists_bytes_yearText y
  obtain ⟨first', rest', hz, hrest'⟩ := exists_bytes_yearText z
  rw [Text.compareBytes, hy, hz, List.cons_append, List.cons_append, compareLists_cons_cons,
    compareLists_cons_cons, compareLists_marked hrest hrest', Ordering.then_assoc]

private theorem compareLists_sign {sign width n : Nat} (hsign : sign < 48) (hwidth : 0 < width)
    (u : List Nat) : compareLists (sign :: u) (digitBytes width n) = .lt := by
  have hsome : digitBytes width n ≠ [] := by
    rwa [← List.length_pos_iff_ne_nil, length_digitBytes]
  obtain ⟨first, rest, hbytes⟩ := List.exists_cons_of_ne_nil hsome
  have hmem : first ∈ digitBytes width n := by simp [hbytes]
  have hfirst := le_of_mem_digitBytes hmem
  rw [hbytes, compareLists_cons_cons, Nat.compare_eq_lt.mpr (Nat.lt_of_lt_of_le hsign hfirst)]
  rfl

private theorem compareLists_digits {y z : Int} (h : y.natAbs < z.natAbs) :
    compareLists (digitBytes (yearWidth y) y.natAbs) (digitBytes (yearWidth z) z.natAbs) =
      if y.natAbs * 10 ^ (yearWidth z - yearWidth y) ≤ z.natAbs then .lt else .gt := by
  obtain ⟨more, hmore⟩ := Nat.exists_eq_add_of_le (Text.length_padded_mono 4 (Nat.le_of_lt h))
  have hy : y.natAbs < 10 ^ yearWidth y := Text.lt_of_padded 4 y.natAbs
  have hz : z.natAbs < 10 ^ yearWidth z := Text.lt_of_padded 4 z.natAbs
  change yearWidth z = yearWidth y + more at hmore
  rw [hmore] at hz ⊢
  have hfirst : y.natAbs * 10 ^ more ≤ z.natAbs ↔ y.natAbs ≤ z.natAbs / 10 ^ more :=
    (Nat.le_div_iff_mul_le (Nat.pow_pos (by decide))).symm
  rw [compareLists_digitBytes_of_le hy hz, Nat.add_sub_cancel_left]
  simp only [hfirst]
  obtain hless | hequal | hgreater := Nat.lt_trichotomy y.natAbs (z.natAbs / 10 ^ more)
  · rw [Nat.compare_eq_lt.mpr hless, if_pos (Nat.le_of_lt hless)]
    rfl
  · have hlonger : more ≠ 0 := by
      rintro rfl
      simp at hequal
      omega
    rw [Nat.compare_eq_eq.mpr hequal, if_pos (Nat.le_of_eq hequal), if_neg hlonger]
    rfl
  · rw [Nat.compare_eq_gt.mpr hgreater, if_neg (Nat.not_le.mpr hgreater)]
    rfl

section Order

variable {y z : Int}

private theorem compareBytes_yearText_of_fourDigits (h : y < z) (hz : 0 ≤ z ∧ z ≤ 9999) :
    Text.compareBytes (yearText y) (yearText z) = .lt := by
  rw [Text.compareBytes, bytes_yearText_of_fourDigits hz]
  rcases Int.lt_or_le y 0 with hneg | hnonneg
  · rw [bytes_yearText_of_neg hneg]
    exact compareLists_sign (by decide) (yearWidth_pos z) _
  · have hy : 0 ≤ y ∧ y ≤ 9999 := by omega
    rw [bytes_yearText_of_fourDigits hy, compareLists_digits (by omega), yearWidth_of_fourDigits hy,
      yearWidth_of_fourDigits hz, Nat.sub_self, if_pos (by omega)]

private theorem compareBytes_yearText_of_neg (h : y < z) (hz : z < 0) :
    Text.compareBytes (yearText y) (yearText z) =
      if z.natAbs * 10 ^ (yearWidth y - yearWidth z) ≤ y.natAbs then .gt else .lt := by
  -- The signs are equal, and of two negative years the earlier one has the larger digits.
  rw [Text.compareBytes, bytes_yearText_of_neg hz, bytes_yearText_of_neg (by omega),
    compareLists_cons_cons, Nat.compare_eq_eq.mpr rfl, Ordering.eq_then, ← compareLists_swap,
    compareLists_digits (by omega)]
  split <;> rfl

private theorem compareBytes_yearText_of_large (h : y < z) (hy : 9999 < y) :
    Text.compareBytes (yearText y) (yearText z) =
      if y.natAbs * 10 ^ (yearWidth z - yearWidth y) ≤ z.natAbs then .lt else .gt := by
  rw [Text.compareBytes, bytes_yearText_of_large hy, bytes_yearText_of_large (by omega),
    compareLists_cons_cons, Nat.compare_eq_eq.mpr rfl, Ordering.eq_then, compareLists_digits (by omega)]

private theorem compareBytes_yearText_sign (hy : y ≤ 9999) (hz : 9999 < z) :
    Text.compareBytes (yearText y) (yearText z) = .gt := by
  rw [Text.compareBytes, bytes_yearText_of_large hz]
  -- A plus sign comes before a minus sign and before every digit.
  rcases Int.lt_or_le y 0 with hneg | hnonneg
  · rw [bytes_yearText_of_neg hneg]
    rfl
  · rw [bytes_yearText_of_fourDigits ⟨hnonneg, hy⟩, ← compareLists_swap,
      compareLists_sign (by decide) (yearWidth_pos y)]
    rfl

private theorem compareBytes_yearText_of_lt (h : y < z) :
    Text.compareBytes (yearText y) (yearText z) = if Ascends y z then .lt else .gt := by
  rcases Int.lt_or_le z 0 with hneg | hnonneg
  · have hascends : Ascends y z ↔ ¬ z.natAbs * 10 ^ (yearWidth y - yearWidth z) ≤ y.natAbs := by
      unfold Ascends
      omega
    rw [compareBytes_yearText_of_neg h hneg]
    simp only [hascends, ite_not]
  rcases Int.lt_or_le 9999 z with hlarge | hfour
  · rcases Int.lt_or_le 9999 y with hy | hy
    · have hascends : Ascends y z ↔ y.natAbs * 10 ^ (yearWidth z - yearWidth y) ≤ z.natAbs := by
        unfold Ascends
        omega
      rw [compareBytes_yearText_of_large h hy]
      simp only [hascends]
    · have hascends : ¬ Ascends y z := by
        unfold Ascends
        omega
      rw [compareBytes_yearText_sign hy hlarge, if_neg hascends]
  · have hascends : Ascends y z := Or.inl ⟨hnonneg, hfour⟩
    rw [compareBytes_yearText_of_fourDigits h ⟨hnonneg, hfour⟩, if_pos hascends]

private theorem compareBytes_yearText_self (year : Int) :
    Text.compareBytes (yearText year) (yearText year) = .eq :=
  compareLists_self _

end Order

theorem month_day_lt (d : Date) : d.month < 100 ∧ d.day < 100 := by
  obtain ⟨_, _, _, hmonth, _, hday⟩ := d.isDate
  have hlongest : daysInMonth d.year d.month ≤ 31 := by
    unfold daysInMonth
    split_ifs <;> decide
  omega

end Date

namespace Timestamp

/-- Whether a moment has no fraction of a second. -/
def IsWhole (t : Timestamp) : Prop :=
  t.nanos % 1000000000 = 0

instance (t : Timestamp) : Decidable t.IsWhole := by
  unfold IsWhole; infer_instance

/-- The moment without its fraction of a second. A leap second stays one. -/
def truncated (t : Timestamp) : Timestamp :=
  ⟨t.date, t.second, t.nanos / 1000000000 * 1000000000, by
    obtain ⟨hsecond, hnanos, hleap⟩ := t.isTime
    exact ⟨hsecond, by omega, fun h => hleap (by omega)⟩⟩

/-- How two moments stand to each other in time. -/
def chronology (a b : Timestamp) : Ordering :=
  (compare a.date.year b.date.year).then <| (compare a.date.month b.date.month).then <|
    (compare a.date.day b.date.day).then <| (compare a.second b.second).then <|
      compare a.nanos b.nanos

private theorem eq_truncated_iff {a b : Timestamp} :
    a = b.truncated ↔ a.date.year = b.date.year ∧ a.date.month = b.date.month ∧
      a.date.day = b.date.day ∧ a.second = b.second ∧
        a.nanos = b.nanos / 1000000000 * 1000000000 := by
  obtain ⟨⟨year, month, day, _⟩, second, nanos, _⟩ := a
  obtain ⟨⟨year', month', day', _⟩, second', nanos', _⟩ := b
  simp [truncated, and_assoc]

private theorem ne_truncated {a b : Timestamp} (h : a.date.year ≠ b.date.year) : a ≠ b.truncated :=
  fun heq => h (eq_truncated_iff.mp heq).1

/-- Each part of a time of day has two digits. -/
theorem clock_lt (t : Timestamp) :
    t.second / 3600 < 100 ∧ t.second / 60 % 60 < 100 ∧ t.clockSecond < 100 := by
  obtain ⟨hsecond, hnanos, _⟩ := t.isTime
  unfold clockSecond
  omega

private theorem bytes_storedText (t : Timestamp) :
    Text.bytes t.storedText = Text.bytes (Date.yearText t.date.year) ++ 45 ::
      (digitBytes 2 t.date.month ++ 45 :: (digitBytes 2 t.date.day ++ 32 ::
        (digitBytes 2 (t.second / 3600) ++ 58 :: (digitBytes 2 (t.second / 60 % 60) ++ 58 ::
          (digitBytes 2 t.clockSecond ++ []))))) := by
  have hdash : Text.bytes "-" = [45] := by decide
  have hblank : Text.bytes " " = [32] := by decide
  have hcolon : Text.bytes ":" = [58] := by decide
  have htwo {n : Nat} (h : n < 100) : Text.bytes (Text.padded 2 n) = digitBytes 2 n :=
    Text.bytes_padded_of_lt (by decide) h
  obtain ⟨hmonth, hday⟩ := t.date.month_day_lt
  obtain ⟨hhour, hminute, hsecond⟩ := t.clock_lt
  simp only [storedText, clockText, Date.text, Text.bytes_append, hdash, hblank, hcolon, htwo hmonth,
    htwo hday, htwo hhour, htwo hminute, htwo hsecond, List.append_assoc, List.cons_append,
    List.nil_append, List.append_nil]

private theorem compare_clock (a b : Timestamp) :
    (compare (a.second / 3600) (b.second / 3600)).then
        ((compare (a.second / 60 % 60) (b.second / 60 % 60)).then
          (compare a.clockSecond b.clockSecond)) =
      (compare a.second b.second).then
        (compare (a.nanos / 1000000000) (b.nanos / 1000000000)) := by
  have hleap (t : Timestamp) : t.nanos / 1000000000 = 0 ∨
      t.nanos / 1000000000 = 1 ∧ t.second % 60 = 59 := by
    obtain ⟨_, hnanos, hleap⟩ := t.isTime
    omega
  have hminute : (compare (a.second / 3600) (b.second / 3600)).then
      (compare (a.second / 60 % 60) (b.second / 60 % 60)) = compare (a.second / 60) (b.second / 60) := by
    rw [compare_eq_divMod 60 (a.second / 60), Nat.div_div_eq_div_mul, Nat.div_div_eq_div_mul]
  have hsecond : compare a.clockSecond b.clockSecond =
      (compare (a.second % 60) (b.second % 60)).then
        (compare (a.nanos / 1000000000) (b.nanos / 1000000000)) := by
    have ha := hleap a
    have hb := hleap b
    unfold clockSecond
    simp only [Nat.compare_eq_ite_lt]
    grind [Ordering.then]
  rw [← Ordering.then_assoc, hminute, hsecond, ← Ordering.then_assoc, ← compare_eq_divMod]

private theorem compareBytes_storedText (a b : Timestamp) :
    Text.compareBytes a.storedText b.storedText =
      (Text.compareBytes (Date.yearText a.date.year) (Date.yearText b.date.year)).then
        ((compare a.date.month b.date.month).then ((compare a.date.day b.date.day).then
          ((compare a.second b.second).then
            (compare (a.nanos / 1000000000) (b.nanos / 1000000000))))) := by
  obtain ⟨hmonth, hday⟩ := a.date.month_day_lt
  obtain ⟨hmonth', hday'⟩ := b.date.month_day_lt
  obtain ⟨hhour, hminute, hsecond⟩ := a.clock_lt
  obtain ⟨hhour', hminute', hsecond'⟩ := b.clock_lt
  have hmark (mark : Nat) (r r' : List Nat) :
      compareLists (mark :: r) (mark :: r') = compareLists r r' := by
    simp
  rw [← compare_clock, Text.compareBytes, bytes_storedText, bytes_storedText, Date.compareLists_year,
    compareLists_twoDigits hmonth hmonth', hmark, compareLists_twoDigits hday hday', hmark,
    compareLists_twoDigits hhour hhour', hmark, compareLists_twoDigits hminute hminute', hmark,
    compareLists_twoDigits hsecond hsecond', compareLists_nil_nil, Ordering.then_eq]

private theorem compare_nanos {m n : Nat} (hm : m % 1000000000 = 0) :
    compare (m / 1000000000) (n / 1000000000) = compare m n ↔
      (m = n / 1000000000 * 1000000000 → n % 1000000000 = 0) := by
  rw [Nat.compare_eq_ite_lt, Nat.compare_eq_ite_lt]
  grind

private theorem storedText_inOrder {a b : Timestamp} (ha : a.IsWhole) :
    Text.compareBytes a.storedText b.storedText = a.chronology b ↔
      Date.InOrder a.date.year b.date.year ∧ (a = b.truncated → b.IsWhole) := by
  rw [compareBytes_storedText, chronology]
  obtain hearlier | hequal | hlater := Int.lt_trichotomy a.date.year b.date.year
  · have hother := ne_truncated (Int.ne_of_lt hearlier)
    rw [Date.compareBytes_yearText_of_lt hearlier, Int.compare_eq_lt.mpr hearlier,
      Date.inOrder_of_lt hearlier]
    by_cases hascends : Date.Ascends a.date.year b.date.year <;> simp [hascends, hother]
  · have hinOrder : Date.InOrder a.date.year b.date.year :=
      ⟨fun h => absurd h (by omega), fun h => absurd h (by omega)⟩
    rw [hequal] at hinOrder ⊢
    rw [Date.compareBytes_yearText_self, Int.compare_eq_eq.mpr rfl, eq_truncated_iff]
    simp only [Ordering.eq_then, then_right_inj, compare_nanos ha, Nat.compare_eq_eq, hinOrder,
      hequal, IsWhole]
    tauto
  · have hother := ne_truncated (Int.ne_of_gt hlater)
    have hyears : Text.compareBytes (Date.yearText a.date.year) (Date.yearText b.date.year) =
        if Date.Ascends b.date.year a.date.year then .gt else .lt := by
      rw [Text.compareBytes, ← compareLists_swap, ← Text.compareBytes,
        Date.compareBytes_yearText_of_lt hlater]
      split <;> rfl
    rw [hyears, Int.compare_eq_gt.mpr hlater, Date.inOrder_comm, Date.inOrder_of_lt hlater]
    by_cases hascends : Date.Ascends b.date.year a.date.year <;> simp [hascends, hother]

end Timestamp

private theorem bound_of_readDate {text : String} {b : Timestamp} (field : String) (percent : Bool)
    (h : readDate? text = some b) :
    (coerce field .timestamp percent (.string text)).map Cell.ofValue = .ok (.text b.storedText) := by
  simp only [coerce, momentOf, h]
  rfl

/-- A stored moment to the second and a bound one compare as texts as they do in time, in every one of the
comparisons that there are, just if their years are in order and the bound moment is not a fraction of a
second later. -/
theorem stored_text_compares {text : String} {a b : Timestamp} (field : String) (percent : Bool)
    (hb : readDate? text = some b) (ha : a.IsWhole) :
    ∃ stored bound, Cell.ofValue (.timestamp a) = .text stored ∧
      (coerce field .timestamp percent (.string text)).map Cell.ofValue = .ok (.text bound) ∧
      (Text.compareBytes stored bound = a.chronology b ↔
        Date.InOrder a.date.year b.date.year ∧ (a = b.truncated → b.IsWhole)) :=
  ⟨a.storedText, b.storedText, rfl, bound_of_readDate field percent hb, Timestamp.storedText_inOrder ha⟩

/-- Ten o'clock on the first of March 2024. -/
def tenOClock : Timestamp :=
  ⟨⟨2024, 3, 1, by decide⟩, 36000, 0, by decide⟩

/-- Half a second later. -/
def afterTen : Timestamp :=
  ⟨⟨2024, 3, 1, by decide⟩, 36000, 500000000, by decide⟩

/-- Half an hour and half a second later. -/
def afterHalfPastTen : Timestamp :=
  ⟨⟨2024, 3, 1, by decide⟩, 37800, 500000000, by decide⟩

theorem stored_text_compares_sample :
    readDate? "2024-03-01T11:30:00.5+01:00" = some afterHalfPastTen ∧ tenOClock.IsWhole ∧
      ∃ stored bound, Cell.ofValue (.timestamp tenOClock) = .text stored ∧
        (coerce "artist.created_at" .timestamp false (.string "2024-03-01T11:30:00.5+01:00")).map
          Cell.ofValue = .ok (.text bound) ∧
        Text.compareBytes stored bound = .lt ∧ tenOClock.chronology afterHalfPastTen = .lt := by
  have hread : readDate? "2024-03-01T11:30:00.5+01:00" = some afterHalfPastTen := by decide +kernel
  have hwhole : tenOClock.IsWhole := by decide
  have hyears : Date.InOrder tenOClock.date.year afterHalfPastTen.date.year :=
    Date.inOrder_of_fourDigits (by decide) (by decide)
  have hother : tenOClock = afterHalfPastTen.truncated → afterHalfPastTen.IsWhole :=
    fun h => absurd h (by decide)
  obtain ⟨stored, bound, hstored, hbound, hcompares⟩ :=
    stored_text_compares "artist.created_at" false hread hwhole
  exact ⟨hread, hwhole, stored, bound, hstored, hbound, hcompares.mpr ⟨hyears, hother⟩, rfl⟩

/-- Ten o'clock is stored with the very text that half a second after ten is bound as. -/
theorem fraction_lost_when_bound :
    readDate? "2024-03-01T10:00:00.5" = some afterTen ∧ tenOClock.IsWhole ∧
      ∃ stored bound, Cell.ofValue (.timestamp tenOClock) = .text stored ∧
        (coerce "artist.created_at" .timestamp false (.string "2024-03-01T10:00:00.5")).map
          Cell.ofValue = .ok (.text bound) ∧
        Text.compareBytes stored bound = .eq ∧ tenOClock.chronology afterTen = .lt := by
  have hread : readDate? "2024-03-01T10:00:00.5" = some afterTen := by decide +kernel
  exact ⟨hread, by decide, "2024-03-01 10:00:00", "2024-03-01 10:00:00", rfl,
    bound_of_readDate "artist.created_at" false hread, by decide +kernel, by decide⟩

end TenantGrid
