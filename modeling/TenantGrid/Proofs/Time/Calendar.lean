import Mathlib.Tactic.SplitIfs
import TenantGrid.Time.Timestamp
/-!
# Counting days and seconds

Days are counted through the proleptic Gregorian calendar, and seconds through the days, so that a
moment is told by its count and its fraction. The day after and the day before are one day apart in
the count, and a shifted moment is as many seconds apart.
-/
namespace TenantGrid

/-- The days of the years before, from the first day of the year 0 on. -/
def daysBeforeYear (year : Int) : Int :=
  365 * year + (year + 3) / 4 - (year + 99) / 100 + (year + 399) / 400

/-- The days of the months before in the same year. -/
def daysBeforeMonth (year : Int) : Nat → Nat
  | 0 | 1 => 0
  | month + 2 => daysBeforeMonth year (month + 1) + daysInMonth year (month + 1)

def yearLength (year : Int) : Nat :=
  if isLeapYear year then 366 else 365

private theorem daysBeforeYear_succ (year : Int) :
    daysBeforeYear (year + 1) = daysBeforeYear year + yearLength year := by
  unfold daysBeforeYear yearLength isLeapYear
  split <;> rename_i h <;> simp only [Bool.and_eq_true, beq_iff_eq, Bool.or_eq_true, bne_iff_ne] at h <;>
    omega

private theorem daysBeforeYear_mono {y z : Int} (h : y ≤ z) :
    daysBeforeYear y ≤ daysBeforeYear z := by
  unfold daysBeforeYear
  omega

private theorem daysBeforeMonth_succ (year : Int) {month : Nat} (h : 1 ≤ month) :
    daysBeforeMonth year (month + 1) = daysBeforeMonth year month + daysInMonth year month := by
  obtain ⟨month, rfl⟩ := Nat.exists_eq_add_of_le' h
  rfl

private theorem daysBeforeMonth_december (year : Int) :
    daysBeforeMonth year 12 + 31 = yearLength year := by
  simp only [daysBeforeMonth, daysInMonth, yearLength]
  cases isLeapYear year <;> rfl

private theorem daysBeforeMonth_mono (year : Int) {m n : Nat} (hm : 1 ≤ m) (h : m ≤ n) :
    daysBeforeMonth year m ≤ daysBeforeMonth year n := by
  induction h with
  | refl => exact Nat.le_refl _
  | @step n hle ih =>
    rw [daysBeforeMonth_succ year (Nat.le_trans hm hle)]
    omega

private theorem one_le_daysInMonth (year : Int) (month : Nat) : 1 ≤ daysInMonth year month := by
  unfold daysInMonth
  split_ifs <;> decide

namespace Date

/-- The number of the day, counted from the day before the first one of the year 0. -/
def dayNumber (d : Date) : Int :=
  daysBeforeYear d.year + daysBeforeMonth d.year d.month + d.day

theorem ofParts?_eq_some {year : Int} {month day : Nat} {d : Date} :
    ofParts? year month day = some d ↔ d.year = year ∧ d.month = month ∧ d.day = day := by
  unfold ofParts?
  split
  · rename_i h
    constructor
    · rintro ⟨⟩
      exact ⟨rfl, rfl, rfl⟩
    · rintro ⟨rfl, rfl, rfl⟩
      rfl
  · rename_i h
    constructor
    · exact nofun
    · rintro ⟨rfl, rfl, rfl⟩
      exact absurd d.isDate h

private theorem exists_ofParts? {year : Int} {month day : Nat} (h : IsDate year month day) :
    ∃ d, ofParts? year month day = some d :=
  ⟨_, dif_pos h⟩

private theorem dayNumber_next {d later : Date} (h : d.next? = some later) :
    later.dayNumber = d.dayNumber + 1 := by
  obtain ⟨_, _, hmonth, hlast, _, hday⟩ := d.isDate
  unfold next? at h
  unfold dayNumber
  split_ifs at h with hwithin hyear <;> obtain ⟨hy, hm, hd⟩ := ofParts?_eq_some.mp h <;> rw [hy, hm, hd]
  · omega
  · rw [daysBeforeMonth_succ d.year hmonth]
    omega
  · obtain heq : d.month = 12 := by omega
    have hdecember := daysBeforeMonth_december d.year
    have hlength : daysInMonth d.year 12 = 31 := rfl
    have hfirst : daysBeforeMonth (d.year + 1) 1 = 0 := rfl
    rw [heq] at hwithin hday ⊢
    rw [daysBeforeYear_succ, hfirst]
    omega

private theorem dayNumber_previous {d earlier : Date} (h : d.previous? = some earlier) :
    earlier.dayNumber = d.dayNumber - 1 := by
  obtain ⟨_, _, hmonth, hlast, hfirst, hday⟩ := d.isDate
  unfold previous? at h
  unfold dayNumber
  split_ifs at h with hwithin hyear <;> obtain ⟨hy, hm, hd⟩ := ofParts?_eq_some.mp h <;> rw [hy, hm, hd]
  · omega
  · obtain ⟨month, heq⟩ := Nat.exists_eq_add_of_lt hyear
    obtain heq : d.month = month + 1 + 1 := by omega
    rw [heq, Nat.add_sub_cancel, daysBeforeMonth_succ d.year (Nat.le_add_left 1 month)]
    omega
  · obtain heq : d.month = 1 := by omega
    have hdecember := daysBeforeMonth_december (d.year - 1)
    have hbefore := daysBeforeYear_succ (d.year - 1)
    rw [Int.sub_add_cancel] at hbefore
    have hnone : daysBeforeMonth d.year 1 = 0 := rfl
    rw [heq, hbefore, hnone]
    omega

private theorem exists_next? {d : Date} (h : d.year < 262142) : ∃ later, d.next? = some later := by
  obtain ⟨hlow, hhigh, hmonth, hlast, hfirst, hday⟩ := d.isDate
  unfold next?
  split_ifs with hwithin hyear
  · exact exists_ofParts? ⟨hlow, hhigh, hmonth, hlast, by omega, by omega⟩
  · exact exists_ofParts? ⟨hlow, hhigh, by omega, by omega, by omega,
      one_le_daysInMonth _ _⟩
  · exact exists_ofParts? ⟨by omega, by omega, by omega, by omega, by omega, one_le_daysInMonth _ _⟩

private theorem exists_previous? {d : Date} (h : -262143 < d.year) :
    ∃ earlier, d.previous? = some earlier := by
  obtain ⟨hlow, hhigh, hmonth, hlast, hfirst, hday⟩ := d.isDate
  unfold previous?
  split_ifs with hwithin hyear
  · exact exists_ofParts? ⟨hlow, hhigh, hmonth, hlast, by omega, by omega⟩
  · exact exists_ofParts? ⟨hlow, hhigh, by omega, by omega, one_le_daysInMonth _ _, Nat.le_refl _⟩
  · exact exists_ofParts? ⟨by omega, by omega, by omega, by omega, by omega, Nat.le_refl 31⟩

private theorem dayNumber_lt_year (d : Date) :
    daysBeforeYear d.year < d.dayNumber ∧ d.dayNumber ≤ daysBeforeYear (d.year + 1) := by
  obtain ⟨_, _, hmonth, hlast, hfirst, hday⟩ := d.isDate
  have hdecember := daysBeforeMonth_december d.year
  have hend := daysBeforeMonth_succ d.year hmonth
  have hmono : daysBeforeMonth d.year (d.month + 1) ≤ daysBeforeMonth d.year 13 :=
    daysBeforeMonth_mono d.year (Nat.le_add_left 1 d.month) (Nat.succ_le_succ hlast)
  have hlength : daysBeforeMonth d.year 13 = daysBeforeMonth d.year 12 + 31 := rfl
  rw [daysBeforeYear_succ]
  unfold dayNumber
  omega

private theorem year_le_of_dayNumber_le {d e : Date} (h : d.dayNumber ≤ e.dayNumber) :
    d.year ≤ e.year := by
  obtain ⟨hlow, _⟩ := d.dayNumber_lt_year
  obtain ⟨_, hhigh⟩ := e.dayNumber_lt_year
  apply Int.not_lt.mp
  intro hless
  have hmono : daysBeforeYear (e.year + 1) ≤ daysBeforeYear d.year := daysBeforeYear_mono hless
  omega

private theorem month_le_of_dayNumber_le {d e : Date} (hyear : d.year = e.year)
    (h : d.dayNumber ≤ e.dayNumber) : d.month ≤ e.month := by
  obtain ⟨_, _, _, _, hfirst, _⟩ := d.isDate
  obtain ⟨_, _, hmonth, _, _, hday⟩ := e.isDate
  apply Nat.not_lt.mp
  intro hless
  have hmono : daysBeforeMonth e.year (e.month + 1) ≤ daysBeforeMonth e.year d.month :=
    daysBeforeMonth_mono e.year (Nat.le_add_left 1 e.month) hless
  rw [daysBeforeMonth_succ e.year hmonth] at hmono
  unfold dayNumber at h
  rw [hyear] at h
  omega

private theorem dayNumber_injective : Function.Injective dayNumber := by
  intro d e h
  have hyear : d.year = e.year :=
    Int.le_antisymm (year_le_of_dayNumber_le (Int.le_of_eq h))
      (year_le_of_dayNumber_le (Int.le_of_eq h.symm))
  have hmonth : d.month = e.month :=
    Nat.le_antisymm (month_le_of_dayNumber_le hyear (Int.le_of_eq h))
      (month_le_of_dayNumber_le hyear.symm (Int.le_of_eq h.symm))
  have hday : d.day = e.day := by
    unfold dayNumber at h
    rw [hyear, hmonth] at h
    omega
  obtain ⟨year, month, day, _⟩ := d
  obtain ⟨year', month', day', _⟩ := e
  simp_all

end Date

namespace Timestamp

/-- Seconds from midnight before the first day that is counted. A leap second is counted with the
second before it. -/
def clock (t : Timestamp) : Int :=
  86400 * t.date.dayNumber + t.second

/-- A moment is told by its seconds and its nanoseconds. -/
theorem eq_of_clock {t u : Timestamp} (hclock : t.clock = u.clock) (hnanos : t.nanos = u.nanos) :
    t = u := by
  have hsecond := t.isTime.1
  have hsecond' := u.isTime.1
  unfold clock at hclock
  have hdate : t.date = u.date := Date.dayNumber_injective (by omega)
  have hseconds : t.second = u.second := by
    rw [hdate] at hclock
    omega
  obtain ⟨date, second, nanos, _⟩ := t
  obtain ⟨date', second', nanos', _⟩ := u
  simp_all

private theorem exists_ofParts? (date : Date) {second nanos : Nat} (h : IsTime second nanos) :
    ∃ t : Timestamp, ofParts? date second nanos = some t ∧ t.date = date ∧ t.second = second ∧
      t.nanos = nanos :=
  ⟨_, dif_pos h, rfl, rfl, rfl⟩

/-- A shift by whole minutes of less than a day leads to the moment that is so many seconds away. -/
theorem shift?_minutes (t : Timestamp) {minutes : Int} (hday : -1440 < minutes ∧ minutes < 1440)
    (hyear : -262143 < t.date.year ∧ t.date.year < 262142) :
    ∃ u, t.shift? (60 * minutes) = some u ∧ u.clock = t.clock + 60 * minutes ∧ u.nanos = t.nanos := by
  obtain ⟨hsecond, hnanos, hleap⟩ := t.isTime
  obtain ⟨earlier, hearlier⟩ := Date.exists_previous? hyear.1
  obtain ⟨later, hlater⟩ := Date.exists_next? hyear.2
  unfold shift?
  simp only [hearlier, hlater, Option.bind_some]
  split_ifs with hbefore hafter
  · have htime : IsTime ((t.second : Int) + 60 * minutes + 86400).toNat t.nanos :=
      ⟨by omega, hnanos, fun h => by have := hleap h; omega⟩
    obtain ⟨u, hu, hdate, hmoved, hsame⟩ := exists_ofParts? earlier htime
    have hnumber := Date.dayNumber_previous hearlier
    refine ⟨u, hu, ?_, hsame⟩
    rw [clock, clock, hdate, hmoved]
    omega
  · have htime : IsTime ((t.second : Int) + 60 * minutes - 86400).toNat t.nanos :=
      ⟨by omega, hnanos, fun h => by have := hleap h; omega⟩
    obtain ⟨u, hu, hdate, hmoved, hsame⟩ := exists_ofParts? later htime
    have hnumber := Date.dayNumber_next hlater
    refine ⟨u, hu, ?_, hsame⟩
    rw [clock, clock, hdate, hmoved]
    omega
  · have htime : IsTime ((t.second : Int) + 60 * minutes).toNat t.nanos :=
      ⟨by omega, hnanos, fun h => by have := hleap h; omega⟩
    obtain ⟨u, hu, hdate, hmoved, hsame⟩ := exists_ofParts? t.date htime
    refine ⟨u, hu, ?_, hsame⟩
    rw [clock, clock, hdate, hmoved]
    omega

end Timestamp

end TenantGrid
