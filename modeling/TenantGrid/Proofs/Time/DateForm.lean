import TenantGrid.Proofs.Text.Runs
import TenantGrid.Proofs.Time.Calendar
import TenantGrid.Proofs.Time.StoredText
/-!
# Ways to write a moment

A moment is written with all digits of its fields: with an offset from UTC, as date and time, or as a
date alone. What it is written as tells the moment as far as its precision goes.
-/
namespace TenantGrid

/-- How finely a time of day is written: to the minute, or to so many digits of a second's fraction. -/
inductive Precision where
  | minute
  | second (digits : Nat)

namespace Precision

def IsAccepted : Precision → Prop
  | minute => True
  | second digits => digits ≤ 9

def hourAndMinute (t : Timestamp) : String :=
  Text.padded 2 (t.second / 3600) ++ ":" ++ Text.padded 2 (t.second / 60 % 60)

/-- The first digits of the fraction of a second, after a point if there are any. -/
def fractionText (digits : Nat) (t : Timestamp) : String :=
  if digits = 0 then "" else "." ++ Text.padded digits (t.nanos % 1000000000 / 10 ^ (9 - digits))

def text : Precision → Timestamp → String
  | minute, t => hourAndMinute t
  | second digits, t => t.clockText ++ fractionText digits t

/-- The moment as far as it is written. A leap second stays one, except in a minute. -/
def moment : Precision → Timestamp → Timestamp
  | minute, t => ⟨t.date, t.second / 60 * 60, 0, by
      have hsecond := t.isTime.1
      exact ⟨by omega, by decide, by omega⟩⟩
  | second digits, t => ⟨t.date, t.second, t.nanos / 10 ^ (9 - digits) * 10 ^ (9 - digits), by
      obtain ⟨hsecond, hnanos, hleap⟩ := t.isTime
      have hle := Nat.div_mul_le_self t.nanos (10 ^ (9 - digits))
      exact ⟨hsecond, by omega, fun h => hleap (by omega)⟩⟩

end Precision

/-- An offset from UTC: none, or hours and minutes with a sign. -/
inductive Zone where
  | utc (letter : Char)
  | offset (sign : Char) (hours minutes : Nat)

namespace Zone

/-- The minus sign of Unicode is one, too. -/
def IsAccepted : Zone → Prop
  | utc letter => letter ∈ ['Z', 'z']
  | offset sign hours minutes => sign ∈ ['+', '-', '\u2212'] ∧ hours ≤ 23 ∧ minutes ≤ 59

def text : Zone → String
  | utc letter => letter.toString
  | offset sign hours minutes =>
    sign.toString ++ Text.padded 2 hours ++ ":" ++ Text.padded 2 minutes

/-- Minutes ahead of UTC. -/
def minutes : Zone → Int
  | utc _ => 0
  | offset sign hours minutes =>
    if sign = '+' then 60 * hours + minutes else -(60 * hours + minutes)

end Zone

/-- How a moment is written. -/
inductive DateForm where
  | zoned (separator : Char) (digits : Nat) (zone : Zone)
  | clock (separator : Char) (precision : Precision)
  | day

namespace DateForm

def IsAccepted : DateForm → Prop
  | zoned separator digits zone => separator ∈ ['T', 't', ' '] ∧ digits ≤ 9 ∧ zone.IsAccepted
  | clock separator precision => separator ∈ ['T', ' '] ∧ precision.IsAccepted
  | day => True

def text : DateForm → Timestamp → String
  | zoned separator digits zone, t =>
    t.date.text ++ separator.toString ++ (Precision.second digits).text t ++ zone.text
  | clock separator precision, t => t.date.text ++ separator.toString ++ precision.text t
  | day, t => t.date.text

/-- Whether a text that was written at a moment of the local time names this moment: the one that the
offset is away from, to the precision that it is written with. -/
def Names : DateForm → Timestamp → Timestamp → Prop
  | zoned _ digits zone, t, u =>
    u.clock + 60 * zone.minutes = t.clock ∧ u.nanos = ((Precision.second digits).moment t).nanos
  | clock _ precision, t, u => u = precision.moment t
  | day, t, u => u = .midnight t.date

end DateForm

namespace Time

open Text

theorem toList_dateText {d : Date} (h : 0 ≤ d.year ∧ d.year ≤ 9999) :
    d.text.toList = (padded 4 d.year.natAbs).toList ++
      '-' :: ((padded 2 d.month).toList ++ '-' :: (padded 2 d.day).toList) := by
  simp [Date.text, Date.yearText, h]

theorem isRun_year {d : Date} (h : 0 ≤ d.year ∧ d.year ≤ 9999) :
    IsRun 4 d.year.natAbs (padded 4 d.year.natAbs).toList :=
  isRun_padded (by decide) (by omega)

theorem isRun_month (d : Date) : IsRun 2 d.month (padded 2 d.month).toList :=
  isRun_padded (by decide) d.month_day_lt.1

theorem isRun_day (d : Date) : IsRun 2 d.day (padded 2 d.day).toList :=
  isRun_padded (by decide) d.month_day_lt.2

section Runs

variable (t : Timestamp)

theorem isRun_hour : IsRun 2 (t.second / 3600) (padded 2 (t.second / 3600)).toList :=
  isRun_padded (by decide) t.clock_lt.1

theorem isRun_minute : IsRun 2 (t.second / 60 % 60) (padded 2 (t.second / 60 % 60)).toList :=
  isRun_padded (by decide) t.clock_lt.2.1

theorem isRun_second : IsRun 2 t.clockSecond (padded 2 t.clockSecond).toList :=
  isRun_padded (by decide) t.clock_lt.2.2

theorem isRun_fraction {digits : Nat} (h : 1 ≤ digits ∧ digits ≤ 9) :
    IsRun digits (t.nanos % 1000000000 / 10 ^ (9 - digits))
      (padded digits (t.nanos % 1000000000 / 10 ^ (9 - digits))).toList := by
  apply isRun_padded h.1
  rw [Nat.div_lt_iff_lt_mul (Nat.pow_pos (by decide)), ← Nat.pow_add,
    Nat.add_sub_cancel' h.2]
  exact Nat.mod_lt _ (by decide)

end Runs

theorem toList_hourAndMinute (t : Timestamp) : (Precision.hourAndMinute t).toList =
    (padded 2 (t.second / 3600)).toList ++ ':' :: (padded 2 (t.second / 60 % 60)).toList := by
  simp [Precision.hourAndMinute]

theorem toList_clockText (t : Timestamp) : t.clockText.toList =
    (Precision.hourAndMinute t).toList ++ ':' :: (padded 2 t.clockSecond).toList := by
  simp [Timestamp.clockText, Precision.hourAndMinute]

theorem toList_fractionText {digits : Nat} (h : digits ≠ 0) (t : Timestamp) :
    (Precision.fractionText digits t).toList =
      '.' :: (padded digits (t.nanos % 1000000000 / 10 ^ (9 - digits))).toList := by
  simp [Precision.fractionText, h]

theorem toList_secondText (digits : Nat) (t : Timestamp) :
    ((Precision.second digits).text t).toList = (Precision.hourAndMinute t).toList ++
      ':' :: ((padded 2 t.clockSecond).toList ++ (Precision.fractionText digits t).toList) := by
  rw [Precision.text, String.toList_append, toList_clockText, List.append_assoc, List.cons_append]

theorem toList_precisionText (precision : Precision) (t : Timestamp) : ∃ rest,
    (precision.text t).toList = (padded 2 (t.second / 3600)).toList ++ rest := by
  cases precision with
  | minute => exact ⟨_, toList_hourAndMinute t⟩
  | second digits =>
    rw [Precision.text, String.toList_append, toList_clockText, toList_hourAndMinute,
      List.append_assoc, List.append_assoc]
    exact ⟨_, rfl⟩

theorem toList_zoneText : ∀ zone : Zone, zone.text.toList = match zone with
    | .utc letter => [letter]
    | .offset sign hours minutes =>
      sign :: ((padded 2 hours).toList ++ ':' :: (padded 2 minutes).toList)
  | .utc letter => by simp [Zone.text]
  | .offset sign hours minutes => by simp [Zone.text]

theorem zoneText_ne_nil (zone : Zone) : zone.text.toList ≠ [] := by
  rw [toList_zoneText]
  cases zone <;> exact nofun

end Time

namespace DateForm

theorem toList_text : ∀ (form : DateForm) (t : Timestamp), (form.text t).toList = t.date.text.toList ++
    match form with
    | .zoned separator digits zone =>
      separator :: (((Precision.second digits).text t).toList ++ zone.text.toList)
    | .clock separator precision => separator :: (precision.text t).toList
    | .day => []
  | .zoned separator digits zone, t => by simp [text]
  | .clock separator precision, t => by simp [text]
  | .day, t => by simp [text]

private theorem endsSolid_precision {precision : Precision} (h : precision.IsAccepted)
    (t : Timestamp) : Text.EndsSolid (precision.text t).toList := by
  cases precision with
  | minute =>
    rw [Precision.text, Time.toList_hourAndMinute]
    exact ((Time.isRun_minute t).endsSolid.cons ':').append _
  | second digits =>
    rw [Time.toList_secondText]
    refine Text.EndsSolid.append (Text.EndsSolid.cons ?_ ':') _
    rcases Nat.eq_zero_or_pos digits with rfl | hpos
    · have hnone : (Precision.fractionText 0 t).toList = [] := rfl
      rw [hnone, List.append_nil]
      exact (Time.isRun_second t).endsSolid
    · obtain ⟨more, rfl⟩ := Nat.exists_eq_add_one.mpr hpos
      rw [Time.toList_fractionText (Nat.succ_ne_zero more)]
      exact ((Time.isRun_fraction t ⟨hpos, h⟩).endsSolid.cons '.').append _

private theorem endsSolid_zone {zone : Zone} (h : zone.IsAccepted) :
    Text.EndsSolid zone.text.toList := by
  rw [Time.toList_zoneText]
  cases zone with
  | utc letter =>
    refine ⟨[], letter, rfl, ?_⟩
    simp only [Zone.IsAccepted, List.mem_cons, List.not_mem_nil, or_false] at h
    rcases h with rfl | rfl <;> rfl
  | offset sign hours minutes =>
    have hlt : minutes < 10 ^ 2 := Nat.lt_of_le_of_lt h.2.2 (by decide)
    have hrun := Text.isRun_padded (by decide) hlt
    exact ((hrun.endsSolid.cons ':').append _).cons sign

private theorem endsSolid_text {form : DateForm} (hform : form.IsAccepted) {t : Timestamp}
    (hyear : 0 ≤ t.date.year ∧ t.date.year ≤ 9999) : Text.EndsSolid (form.text t).toList := by
  rw [toList_text]
  cases form with
  | zoned separator digits zone =>
    exact (((endsSolid_zone hform.2.2).append _).cons separator).append _
  | clock separator precision =>
    exact ((endsSolid_precision hform.2 t).cons separator).append _
  | day =>
    rw [Time.toList_dateText hyear, List.append_nil]
    exact ((((Time.isRun_day t.date).endsSolid.cons '-').append _).cons '-').append _

/-- Blanks around what is written are taken away before it is read. -/
theorem trim_text {form : DateForm} (hform : form.IsAccepted) {t : Timestamp}
    (hyear : 0 ≤ t.date.year ∧ t.date.year ≤ 9999) {before after : List Char}
    (hbefore : ∀ c ∈ before, Text.isBlank c = true) (hafter : ∀ c ∈ after, Text.isBlank c = true) :
    Text.trim (before ++ (form.text t).toList ++ after) = (form.text t).toList := by
  obtain ⟨c, more, hyearText, hc⟩ := (Time.isRun_year hyear).exists_cons
  obtain ⟨rest, htext⟩ : ∃ rest, (form.text t).toList = c :: rest := by
    rw [toList_text, Time.toList_dateText hyear, hyearText]
    exact ⟨_, rfl⟩
  have hends := endsSolid_text hform hyear
  rw [htext] at hends ⊢
  exact Text.trim_surrounded (Text.isBlank_of_isDigit hc) hends hbefore hafter

end DateForm

theorem Zone.minutes_bounds {zone : Zone} (h : zone.IsAccepted) :
    -1440 < zone.minutes ∧ zone.minutes < 1440 := by
  cases zone with
  | utc letter => simp [Zone.minutes]
  | offset sign hours minutes =>
    obtain ⟨_, hhours, hminutes⟩ := h
    rw [Zone.minutes]
    split_ifs <;> omega

end TenantGrid
