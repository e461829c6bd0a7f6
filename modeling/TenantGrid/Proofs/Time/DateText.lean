import TenantGrid.Proofs.Filter.Steps
import TenantGrid.Proofs.Time.Layouts
/-!
# Date texts

Every reader that takes a moment as it is written takes it for the same moment, so that the order in
which the readers are tried does not matter, and one of them does take it. A moment with an offset is
converted to UTC.
-/
namespace TenantGrid

namespace Time

open Text

private theorem readNumber?_digits {width n : Nat} {digits : List Char} (h : IsRun width n digits)
    (rest : List Char) : readNumber? width width (digits ++ rest) = some (n, rest) :=
  readNumber?_run h (Nat.le_refl width) (Or.inl rfl)

private theorem take?_cons (c : Char) (rest : List Char) : take? c (c :: rest) = some rest :=
  if_pos rfl

/-- What is read of a time with an offset once the hour and the minute are. -/
def readSeconds? (fields : Fields) (text : List Char) : Option Timestamp := do
  let text ← take? ':' text
  let (second, text) ← readNumber? 2 2 text
  let (nanos, text) ← match text with
    | '.' :: rest => readNanos? rest
    | rest => some (0, rest)
  let (offset, text) ← readOffset? text
  if text.isEmpty then
    let wallClock ← Fields.timestamp? { fields with second, nanos }
    wallClock.shift? (-offset)
  else none

/-- What is read of it once the date is. -/
def readClock? (fields : Fields) (text : List Char) : Option Timestamp := do
  let text ← takeDateEnd? text
  let (hour, text) ← readNumber? 2 2 text
  let text ← take? ':' text
  let (minute, text) ← readNumber? 2 2 text
  readSeconds? { fields with hour, minute } text

private theorem readOffsetTime?_date {d : Date} (hyear : 0 ≤ d.year ∧ d.year ≤ 9999)
    (rest : List Char) :
    readOffsetTime? (d.text.toList ++ rest) = readClock? (dateFields d) rest := by
  have hfields : dateFields d = { year := d.year.natAbs, month := d.month, day := d.day } := by
    rw [Int.natAbs_of_nonneg hyear.1]
    rfl
  rw [hfields, toList_dateText hyear]
  unfold readOffsetTime?
  simp only [List.append_assoc, List.cons_append]
  rw [readNumber?_digits (isRun_year hyear), Option.bind_eq_bind, Option.bind_some, take?_cons,
    Option.bind_eq_bind, Option.bind_some, readNumber?_digits (isRun_month d), Option.bind_some,
    take?_cons, Option.bind_some, readNumber?_digits (isRun_day d), Option.bind_some]
  rfl

private theorem readClock?_append {mark : Char} (hmark : mark ∈ ['T', 't', ' ']) (t : Timestamp)
    (rest : List Char) :
    readClock? (dateFields t.date) (mark :: ((Precision.hourAndMinute t).toList ++ rest)) =
      readSeconds? (clockFields t .minute) rest := by
  have hend : ∀ text, takeDateEnd? (mark :: text) = some text := by
    intro text
    simp only [List.mem_cons, List.not_mem_nil, or_false] at hmark
    rcases hmark with rfl | rfl | rfl <;> rfl
  rw [toList_hourAndMinute]
  unfold readClock?
  simp only [List.append_assoc, List.cons_append, hend, readNumber?_digits (isRun_hour t), take?_cons,
    readNumber?_digits (isRun_minute t), Option.bind_eq_bind, Option.bind_some]
  rfl

private theorem readSeconds?_append {digits : Nat} (hdigits : digits ≤ 9) (t : Timestamp)
    {rest : List Char} (hrest : EndsClock rest) :
    readSeconds? (clockFields t .minute) (':' :: ((padded 2 t.clockSecond).toList ++
      ((Precision.fractionText digits t).toList ++ rest))) =
        (readOffset? rest).bind fun read => if read.2.isEmpty then
          ((Precision.second digits).moment t).shift? (-read.1) else none := by
  have hmoment : Fields.timestamp? { clockFields t .minute with
      second := t.clockSecond
      nanos := t.nanos % 1000000000 / 10 ^ (9 - digits) * 10 ^ (9 - digits) } =
        some ((Precision.second digits).moment t) := by
    have hprecision : (Precision.second digits).IsAccepted := hdigits
    exact timestamp?_clockFields hprecision t
  unfold readSeconds?
  rw [take?_cons, Option.bind_eq_bind, Option.bind_some, readNumber?_digits (isRun_second t),
    Option.bind_eq_bind, Option.bind_some]
  rcases Nat.eq_zero_or_pos digits with rfl | hpos
  · have hnone : (Precision.fractionText 0 t).toList = [] := rfl
    rw [fraction_none] at hmoment
    simp only [hnone, List.nil_append]
    split
    · exact absurd rfl (hrest '.' (by simp)).2.2
    · rw [Option.bind_some, hmoment]
      rfl
  · rw [toList_fractionText (Nat.ne_of_gt hpos), List.cons_append]
    simp only [readNanos?_run (isRun_fraction t ⟨hpos, hdigits⟩) ⟨hpos, hdigits⟩ hrest.endsRun,
      Option.bind_some]
    rw [hmoment]
    rfl

/-- What is read of an offset after its sign. -/
def readHours? (negative : Bool) (text : List Char) : Option (Int × List Char) := do
  let (hours, rest) ← readNumber? 2 2 text
  let rest ← take? ':' rest
  let (minutes, rest) ← readNumber? 2 2 rest
  if 23 < hours ∨ 59 < minutes then none
  else
    let seconds : Int := 3600 * hours + 60 * minutes
    some (if negative then -seconds else seconds, rest)

private theorem readHours?_run {hours minutes : Nat} (hhours : hours ≤ 23) (hminutes : minutes ≤ 59)
    (negative : Bool) :
    readHours? negative ((padded 2 hours).toList ++ ':' :: (padded 2 minutes).toList) =
      some (if negative then -(3600 * (hours : Int) + 60 * minutes)
        else 3600 * (hours : Int) + 60 * minutes, []) := by
  have hrun : IsRun 2 hours (padded 2 hours).toList := isRun_padded (by decide) (by omega)
  have hrun' : IsRun 2 minutes (padded 2 minutes).toList := isRun_padded (by decide) (by omega)
  have hend := readNumber?_digits hrun' []
  rw [List.append_nil] at hend
  have hlimits : ¬ (23 < hours ∨ 59 < minutes) := by omega
  unfold readHours?
  simp only [readNumber?_digits hrun, take?_cons, hend, Option.bind_eq_bind, Option.bind_some,
    if_neg hlimits]

private theorem readOffset?_sign {sign : Char} (h : sign ∈ ['+', '-', '\u2212'])
    (rest : List Char) :
    readOffset? (sign :: rest) = readHours? (sign != '+') rest := by
  simp only [List.mem_cons, List.not_mem_nil, or_false] at h
  rcases h with rfl | rfl | rfl <;> rfl

private theorem readOffset?_zone {zone : Zone} (h : zone.IsAccepted) :
    readOffset? zone.text.toList = some (60 * zone.minutes, []) := by
  rw [toList_zoneText]
  cases zone with
  | utc letter =>
    simp only [Zone.IsAccepted, List.mem_cons, List.not_mem_nil, or_false] at h
    rcases h with rfl | rfl <;> rfl
  | offset sign hours minutes =>
    obtain ⟨hsign, hhours, hminutes⟩ := h
    simp only [readOffset?_sign hsign, readHours?_run hhours hminutes, Zone.minutes]
    by_cases hplus : sign = '+'
    · simp only [hplus, bne_self_eq_false, Bool.false_eq_true, if_false, if_true]
      congr 2
      omega
    · simp only [bne_iff_ne, ne_eq, hplus, not_false_eq_true, if_true, if_false]
      congr 2
      omega

private theorem endsClock_zone {zone : Zone} (h : zone.IsAccepted) :
    EndsClock zone.text.toList := by
  rw [toList_zoneText]
  cases zone with
  | utc letter =>
    simp only [Zone.IsAccepted, List.mem_cons, List.not_mem_nil, or_false] at h
    rcases h with rfl | rfl <;> rintro _ ⟨⟩ <;> decide
  | offset sign hours minutes =>
    have hsign := h.1
    simp only [List.mem_cons, List.not_mem_nil, or_false] at hsign
    rcases hsign with rfl | rfl | rfl <;> rintro _ ⟨⟩ <;> decide

private theorem readOffsetTime?_zoned {mark : Char} (hmark : mark ∈ ['T', 't', ' ']) {digits : Nat}
    (hdigits : digits ≤ 9) {zone : Zone} (hzone : zone.IsAccepted) {t : Timestamp}
    (hyear : 0 ≤ t.date.year ∧ t.date.year ≤ 9999) :
    readOffsetTime? (t.date.text.toList ++
      mark :: (((Precision.second digits).text t).toList ++ zone.text.toList)) =
        ((Precision.second digits).moment t).shift? (60 * -zone.minutes) := by
  rw [toList_secondText, List.append_assoc, List.cons_append, List.append_assoc,
    readOffsetTime?_date hyear, readClock?_append hmark, readSeconds?_append hdigits t (endsClock_zone hzone),
    readOffset?_zone hzone, Option.bind_some, Int.mul_neg]
  rfl

private theorem readOffsetTime?_clock {mark : Char} (hmark : mark ∈ ['T', 't', ' '])
    {precision : Precision} (hprecision : precision.IsAccepted) {t : Timestamp}
    (hyear : 0 ≤ t.date.year ∧ t.date.year ≤ 9999) :
    readOffsetTime? (t.date.text.toList ++ mark :: (precision.text t).toList) = none := by
  rw [readOffsetTime?_date hyear]
  cases precision with
  | minute =>
    have hread := readClock?_append hmark t []
    rw [List.append_nil] at hread
    exact hread
  | second digits =>
    have hread := readSeconds?_append hprecision t endsClock_nil
    rw [List.append_nil] at hread
    rw [toList_secondText, readClock?_append hmark, hread]
    rfl

private theorem readOffsetTime?_day {d : Date} (hyear : 0 ≤ d.year ∧ d.year ≤ 9999) :
    readOffsetTime? d.text.toList = none := by
  have hread := readOffsetTime?_date hyear []
  rwa [List.append_nil] at hread

end Time

/-- Whether a reader takes a text for a moment, and no reader takes it for another one. -/
structure ReadsAs (text : List Char) (u : Timestamp) : Prop where
  offset : ∀ v, Time.readOffsetTime? text = some v → v = u
  layouts : ∀ layout ∈ dateTextLayouts, ∀ v, layout.read? text = some v → v = u
  isRead : Time.readOffsetTime? text = some u ∨ ∃ layout ∈ dateTextLayouts, layout.read? text = some u

private theorem ReadsAs.readDate? {s : String} {u : Timestamp}
    (h : ReadsAs (Text.trim s.toList) u) : readDate? s = some u := by
  unfold TenantGrid.readDate?
  cases hoffset : Time.readOffsetTime? (Text.trim s.toList) with
  | some v => simp only [hoffset, h.offset v hoffset]
  | none =>
    simp only [hoffset]
    refine findSome?_eq_some_of_agree h.layouts ?_
    exact h.isRead.resolve_left fun hread => nomatch hoffset.symm.trans hread

section Readings

variable {t : Timestamp} (hyear : 0 ≤ t.date.year ∧ t.date.year ≤ 9999)

include hyear

private theorem readsAs_day : ReadsAs t.date.text.toList (.midnight t.date) where
  offset v hv := by
    rw [Time.readOffsetTime?_day hyear] at hv
    cases hv
  layouts _ hlayout _ hv := Time.read?_day hlayout hv
  isRead := Or.inr ⟨_, Time.mem_dateTextLayouts.mpr (Or.inr rfl), Time.read?_date t.date⟩

private theorem readsAs_clock {separator : Char} (hseparator : separator ∈ ['T', ' '])
    {precision : Precision} (hprecision : precision.IsAccepted) :
    ReadsAs (t.date.text.toList ++ separator :: (precision.text t).toList) (precision.moment t) := by
  have hmark : separator ∈ ['T', 't', ' '] := by
    simp only [List.mem_cons, List.not_mem_nil, or_false] at hseparator ⊢
    tauto
  have hpart : Time.separatorPart separator ∈ Time.separators := by
    unfold Time.separatorPart
    split_ifs <;> simp [Time.separators]
  refine ⟨?_, ?_, Or.inr ⟨_, ?_, Time.read?_dateThen hseparator hprecision t⟩⟩
  · intro v hv
    rw [Time.readOffsetTime?_clock hmark hprecision hyear] at hv
    cases hv
  · intro layout hlayout v hv
    rw [← List.append_nil (precision.text t).toList] at hv
    exact (Time.read?_clock hlayout hmark hprecision Time.endsClock_nil hv).1
  · exact Time.mem_dateTextLayouts.mpr (Or.inl ⟨_, hpart, _, Time.clockLayout_mem precision, rfl⟩)

private theorem readsAs_zoned {separator : Char} (hmark : separator ∈ ['T', 't', ' '])
    {digits : Nat} (hdigits : digits ≤ 9) {zone : Zone} (hzone : zone.IsAccepted) {u : Timestamp}
    (hshift : ((Precision.second digits).moment t).shift? (60 * -zone.minutes) = some u) :
    ReadsAs (t.date.text.toList ++
      separator :: (((Precision.second digits).text t).toList ++ zone.text.toList)) u := by
  have hread := (Time.readOffsetTime?_zoned hmark hdigits hzone hyear).trans hshift
  have hprecision : (Precision.second digits).IsAccepted := hdigits
  refine ⟨?_, ?_, Or.inl hread⟩
  · intro v hv
    exact Option.some.inj (hv.symm.trans hread)
  · intro layout hlayout v hv
    -- No layout reads an offset to its end, so only the moment in UTC is left.
    have hnil := (Time.read?_clock hlayout hmark hprecision (Time.endsClock_zone hzone) hv).2
    exact absurd hnil (Time.zoneText_ne_nil zone)

private theorem DateForm.readsAs {form : DateForm} (hform : form.IsAccepted) :
    ∃ u, form.Names t u ∧ (∀ v, form.Names t v → v = u) ∧ ReadsAs (form.text t).toList u := by
  rw [toList_text]
  cases form with
  | zoned separator digits zone =>
    obtain ⟨hmark, hdigits, hzone⟩ := hform
    have hbounds := Zone.minutes_bounds hzone
    have hdate : ((Precision.second digits).moment t).date = t.date := rfl
    have hclock : ((Precision.second digits).moment t).clock = t.clock := rfl
    obtain ⟨u, hshift, hu, hnanos⟩ := ((Precision.second digits).moment t).shift?_minutes
      (show -1440 < -zone.minutes ∧ -zone.minutes < 1440 by omega) (by rw [hdate]; omega)
    refine ⟨u, ⟨by omega, hnanos⟩, ?_, readsAs_zoned hyear hmark hdigits hzone hshift⟩
    rintro v ⟨hv, hnanos'⟩
    exact Timestamp.eq_of_clock (by omega) (hnanos'.trans hnanos.symm)
  | clock separator precision =>
    exact ⟨precision.moment t, rfl, fun v hv => hv, readsAs_clock hyear hform.1 hform.2⟩
  | day =>
    rw [List.append_nil]
    exact ⟨.midnight t.date, rfl, fun v hv => hv, readsAs_day hyear⟩

end Readings

/-- A moment of a year of four digits, written in an accepted form with any blanks around it, is read as
the one moment that the form names, and every reader that takes the text takes it for this one. -/
theorem readDate?_written {form : DateForm} (hform : form.IsAccepted) {t : Timestamp}
    (hyear : 0 ≤ t.date.year ∧ t.date.year ≤ 9999) {before after : List Char}
    (hbefore : ∀ c ∈ before, Text.isBlank c = true) (hafter : ∀ c ∈ after, Text.isBlank c = true) :
    ∃ u, form.Names t u ∧ (∀ v, form.Names t v → v = u) ∧
      readDate? (String.ofList (before ++ (form.text t).toList ++ after)) = some u ∧
      (∀ v, Time.readOffsetTime? (form.text t).toList = some v → v = u) ∧
      ∀ layout ∈ dateTextLayouts, ∀ v, layout.read? (form.text t).toList = some v → v = u := by
  obtain ⟨u, hnames, hone, hreads⟩ := DateForm.readsAs hyear hform
  have htrim := DateForm.trim_text hform hyear hbefore hafter
  refine ⟨u, hnames, hone, ?_, hreads.offset, hreads.layouts⟩
  apply ReadsAs.readDate?
  rw [String.toList_ofList, htrim]
  exact hreads

def lastHalfHour : Timestamp := ⟨⟨2023, 12, 31, by decide⟩, 84600, 0, by decide⟩

def firstHalfHour : Timestamp := ⟨⟨2024, 1, 1, by decide⟩, 1800, 0, by decide⟩

/-- Behind UTC by an hour, the last half hour of a year is in the next year of UTC. -/
theorem readDate?_written_sample :
    (DateForm.zoned 'T' 0 (.offset '-' 1 0)).IsAccepted ∧
    (0 ≤ lastHalfHour.date.year ∧ lastHalfHour.date.year ≤ 9999) ∧
    (∀ c ∈ [' '], Text.isBlank c = true) ∧ (∀ c ∈ ['\n'], Text.isBlank c = true) ∧
    readDate? (String.ofList ([' '] ++
      ((DateForm.zoned 'T' 0 (.offset '-' 1 0)).text lastHalfHour).toList ++ ['\n'])) =
        some firstHalfHour := by
  have hform : (DateForm.zoned 'T' 0 (.offset '-' 1 0)).IsAccepted := by
    simp [DateForm.IsAccepted, Zone.IsAccepted]
  have hyear : 0 ≤ lastHalfHour.date.year ∧ lastHalfHour.date.year ≤ 9999 := by decide
  have hbefore : ∀ c ∈ [' '], Text.isBlank c = true := by simp [Text.isBlank]
  have hafter : ∀ c ∈ ['\n'], Text.isBlank c = true := by simp [Text.isBlank]
  have hnames : (DateForm.zoned 'T' 0 (.offset '-' 1 0)).Names lastHalfHour firstHalfHour :=
    ⟨by decide, by decide⟩
  obtain ⟨u, _, hone, hread, _⟩ := readDate?_written hform hyear hbefore hafter
  rw [← hone firstHalfHour hnames] at hread
  exact ⟨hform, hyear, hbefore, hafter, hread⟩

end TenantGrid
