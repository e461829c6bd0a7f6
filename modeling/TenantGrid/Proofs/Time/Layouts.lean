import TenantGrid.Proofs.Time.DateForm
import TenantGrid.Time.DateText
/-!
# Reading layouts

What the parts of a layout read from numbers that are written with all their digits. A layout that
reads a date and a time of day to its end reads the moment that is written, whichever layout it is.
-/
namespace TenantGrid.Time

open Text

/-- Whether no digit stands at the front of a text. -/
def EndsRun (rest : List Char) : Prop :=
  ∀ c ∈ rest.head?, Text.isDigit c = false

private theorem EndsRun.take {rest : List Char} (h : EndsRun rest) (n : Nat) :
    EndsRun (rest.take n) := by
  intro c hc
  refine h c ?_
  cases n with
  | zero => cases hc
  | succ n => rwa [List.head?_take, if_neg n.succ_ne_zero] at hc

theorem readNumber?_run {least most width n : Nat} {digits rest : List Char}
    (h : IsRun width n digits) (hleast : least ≤ width)
    (hmost : width = most ∨ width ≤ most ∧ EndsRun rest) :
    readNumber? least most (digits ++ rest) = some (n, rest) := by
  have hrest : (rest.take (most - width)).takeWhile Text.isDigit = [] := by
    rcases hmost with rfl | ⟨_, hends⟩
    · simp
    · exact takeWhile_end (hends.take _)
  have htake : ((digits ++ rest).take most).takeWhile Text.isDigit = digits := by
    rw [List.take_append, List.take_of_length_le (by rw [h.length_eq]; omega), h.length_eq,
      List.takeWhile_append_of_pos h.allDigits, hrest, List.append_nil]
  unfold readNumber?
  rw [htake]
  simp only [h.length_eq, h.value_eq]
  rw [if_neg (by omega), ← h.length_eq, List.drop_left]

private theorem readNumber?_eq_none {least most : Nat} {text : List Char} (hleast : 0 < least)
    (h : EndsRun text) : readNumber? least most text = none := by
  have hdigits : (text.take most).takeWhile Text.isDigit = [] := takeWhile_end (h.take most)
  unfold readNumber?
  rw [hdigits]
  exact if_pos hleast

private theorem readField?_run {n : Nat} {digits : List Char} (h : IsRun 2 n digits)
    (rest : List Char) :
    readField? (digits ++ rest) = some (n, rest) := by
  unfold readField?
  rw [h.trimStart_append, readNumber?_run h (by decide) (Or.inl rfl)]

private theorem readSignedYear?_run {n : Nat} {digits : List Char} (h : IsRun 4 n digits)
    (rest : List Char) :
    readSignedYear? (digits ++ rest) = some ((n : Int), rest) := by
  have hread : readNumber? 1 4 (digits ++ rest) = some (n, rest) :=
    readNumber?_run h (by decide) (Or.inl rfl)
  obtain ⟨c, more, rfl, hc⟩ := h.exists_cons
  unfold readSignedYear?
  split
  · rename_i heq
    rw [(List.cons.inj heq).1] at hc
    exact nomatch hc
  · rename_i heq
    rw [(List.cons.inj heq).1] at hc
    exact nomatch hc
  · rw [hread]
    rfl

private theorem readSignedYear?_sign {n : Nat} {digits : List Char} {width : Nat}
    (h : IsRun (width + 1) n digits) {rest : List Char} (hrest : EndsRun rest) :
    readSignedYear? ('-' :: (digits ++ rest)) = some (-(n : Int), rest) ∧
      readSignedYear? ('+' :: (digits ++ rest)) = some ((n : Int), rest) := by
  have hmost : width + 1 ≤ (digits ++ rest).length := by
    rw [List.length_append, h.length_eq]
    exact Nat.le_add_right _ _
  have hread : readNumber? 1 (digits ++ rest).length (digits ++ rest) = some (n, rest) :=
    readNumber?_run h (Nat.le_add_left 1 width) (Or.inr ⟨hmost, hrest⟩)
  simp only [readSignedYear?, hread, Option.map_some, and_self]

private theorem readSignedYear?_text (year : Int) {rest : List Char} (hrest : EndsRun rest) :
    readSignedYear? ((Date.yearText year).toList ++ rest) = some (year, rest) := by
  obtain ⟨width, hwidth⟩ := Nat.exists_eq_add_one.mpr (padded_length_pos 4 year.natAbs)
  have hrun := isRun_padded_self 4 year.natAbs
  rw [hwidth] at hrun
  obtain ⟨hminus, hplus⟩ := readSignedYear?_sign hrun hrest
  unfold Date.yearText
  split_ifs with hfour hneg
  · rw [readSignedYear?_run (isRun_padded (by decide) (by omega)), Int.natAbs_of_nonneg hfour.1]
  · have hyear : -(year.natAbs : Int) = year := by omega
    rw [hyear] at hminus
    simpa using hminus
  · have hyear : (year.natAbs : Int) = year := by omega
    rw [hyear] at hplus
    simpa using hplus

private theorem trimStart_yearText (year : Int) (rest : List Char) :
    trimStart ((Date.yearText year).toList ++ rest) = (Date.yearText year).toList ++ rest := by
  have hsign {sign : String} {c : Char} (hsign : sign.toList = [c]) (hblank : isBlank c = false) :
      trimStart ((sign ++ padded 4 year.natAbs).toList ++ rest) =
        (sign ++ padded 4 year.natAbs).toList ++ rest := by
    rw [String.toList_append, hsign]
    exact trimStart_cons hblank _
  unfold Date.yearText
  split_ifs with hfour hneg
  · have hrun : IsRun 4 year.natAbs (padded 4 year.natAbs).toList :=
      isRun_padded (by decide) (by omega)
    exact hrun.trimStart_append rest
  · exact hsign rfl rfl
  · exact hsign rfl rfl

private theorem readParts?_cons (fields : Fields) (part : Part) (layout : Layout)
    (text : List Char) :
    readParts? fields (part :: layout) text =
      (readPart? fields text part).bind fun read => readParts? read.1 layout read.2 := rfl

private theorem readParts?_nil (fields : Fields) (text : List Char) :
    readParts? fields [] text = if text.isEmpty then some fields else none := rfl

private theorem readParts?_nil_eq_some {fields fields' : Fields} {text : List Char} :
    readParts? fields [] text = some fields' ↔ fields' = fields ∧ text = [] := by
  rw [readParts?_nil]
  cases text <;> simp [eq_comm]

private theorem readParts?_mark (fields : Fields) (c : Char) (layout : Layout) (text : List Char) :
    readParts? fields (.mark c :: layout) (c :: text) = readParts? fields layout text := by
  simp [readParts?_cons, readPart?]

private theorem readParts?_mark_eq_none {text : List Char} {c : Char} (h : ∀ x ∈ text.head?, x ≠ c)
    (fields : Fields) (layout : Layout) : readParts? fields (.mark c :: layout) text = none := by
  cases text with
  | nil => rfl
  | cons x rest =>
    have hne : x ≠ c := h x rfl
    simp [readParts?_cons, readPart?, hne]

private theorem readParts?_gap (fields : Fields) (layout : Layout) (text : List Char) :
    readParts? fields (.gap :: layout) text = readParts? fields layout (trimStart text) := rfl

/-- Whether a part is a number of up to two digits. -/
def Part.isField : Part → Bool
  | .month | .day | .hour | .minute | .second => true
  | _ => false

/-- What has been read once such a part is. -/
def Fields.put (fields : Fields) (n : Nat) : Part → Fields
  | .month => { fields with month := n }
  | .day => { fields with day := n }
  | .hour => { fields with hour := n }
  | .minute => { fields with minute := n }
  | .second => { fields with second := n }
  | _ => fields

private theorem readParts?_field {part : Part} (hpart : part.isField = true) {n : Nat}
    {digits : List Char} (h : IsRun 2 n digits) (fields : Fields) (layout : Layout)
    (rest : List Char) :
    readParts? fields (part :: layout) (digits ++ rest) =
      readParts? (fields.put n part) layout rest := by
  rw [readParts?_cons]
  cases part with
  | month | day | hour | minute | second =>
    rw [readPart?, readField?_run h]
    rfl
  | _ => exact nomatch hpart

private theorem readParts?_field_eq_none {part : Part} (hpart : part.isField = true)
    {text : List Char} (h : EndsRun (trimStart text)) (fields : Fields) (layout : Layout) :
    readParts? fields (part :: layout) text = none := by
  have hfield : readField? text = none := readNumber?_eq_none (by decide) h
  rw [readParts?_cons]
  cases part with
  | month | day | hour | minute | second =>
    rw [readPart?, hfield]
    rfl
  | _ => exact nomatch hpart

private theorem readParts?_year (fields : Fields) (year : Int) (layout : Layout) {rest : List Char}
    (hrest : EndsRun rest) :
    readParts? fields (.year :: layout) ((Date.yearText year).toList ++ rest) =
      readParts? { fields with year } layout rest := by
  rw [readParts?_cons, readPart?, trimStart_yearText, readSignedYear?_text year hrest]
  rfl

/-- Nine digits count after a point, those that are not written as zeros. -/
theorem readNanos?_run {width n : Nat} {digits rest : List Char} (h : IsRun width n digits)
    (hwidth : 1 ≤ width ∧ width ≤ 9) (hrest : EndsRun rest) :
    readNanos? (digits ++ rest) = some (n * 10 ^ (9 - width), rest) := by
  have hread : readNumber? 1 9 (digits ++ rest) = some (n, rest) :=
    readNumber?_run h hwidth.1 (Or.inr ⟨hwidth.2, hrest⟩)
  have hlength : (digits ++ rest).length - rest.length = width := by
    rw [List.length_append, h.length_eq, Nat.add_sub_cancel]
  have hdrop : rest.dropWhile Text.isDigit = rest := dropWhile_end hrest
  unfold readNanos?
  simp only [hread, Option.bind_eq_bind, Option.bind_some, hlength, hdrop, Nat.pow_eq]

private theorem readParts?_fraction {width n : Nat} {digits rest : List Char}
    (h : IsRun width n digits) (hwidth : 1 ≤ width ∧ width ≤ 9) (hrest : EndsRun rest)
    (fields : Fields) (layout : Layout) :
    readParts? fields (.fraction :: layout) ('.' :: (digits ++ rest)) =
      readParts? { fields with nanos := n * 10 ^ (9 - width) } layout rest := by
  simp only [readParts?_cons, readPart?, readNanos?_run h hwidth hrest, Option.map_some,
    Option.bind_some]

private theorem readParts?_no_fraction {text : List Char} (h : ∀ c ∈ text.head?, c ≠ '.')
    (fields : Fields) (layout : Layout) :
    readParts? fields (.fraction :: layout) text = readParts? fields layout text := by
  simp only [readParts?_cons, readPart?]
  split
  · exact absurd rfl (h '.' (by simp))
  · rfl

/-- What has been read once the date is. -/
def dateFields (d : Date) : Fields :=
  { year := d.year, month := d.month, day := d.day }

private theorem readParts?_date (d : Date) (layout : Layout) (rest : List Char) :
    readParts? {} (Layout.date ++ layout) (d.text.toList ++ rest) =
      readParts? (dateFields d) layout rest := by
  have htext : d.text.toList ++ rest = (Date.yearText d.year).toList ++
      '-' :: ((padded 2 d.month).toList ++ '-' :: ((padded 2 d.day).toList ++ rest)) := by
    simp [Date.text]
  have hends (text : List Char) : EndsRun ('-' :: text) := by
    rintro c ⟨⟩
    decide
  rw [htext]
  simp only [Layout.date, List.cons_append, List.nil_append]
  rw [readParts?_year {} d.year _ (hends _), readParts?_mark, readParts?_field rfl (isRun_month d),
    readParts?_mark, readParts?_field rfl (isRun_day d)]
  rfl

/-- What has been read once date and time of day are. -/
def clockFields (t : Timestamp) : Precision → Fields
  | .minute => { dateFields t.date with hour := t.second / 3600, minute := t.second / 60 % 60 }
  | .second digits =>
    { dateFields t.date with
      hour := t.second / 3600
      minute := t.second / 60 % 60
      second := t.clockSecond
      nanos := t.nanos % 1000000000 / 10 ^ (9 - digits) * 10 ^ (9 - digits) }

/-- What may follow a time of day: nothing that it could go on with. -/
def EndsClock (text : List Char) : Prop :=
  ∀ c ∈ text.head?, Text.isDigit c = false ∧ c ≠ ':' ∧ c ≠ '.'

theorem EndsClock.endsRun {rest : List Char} (h : EndsClock rest) : EndsRun rest :=
  fun c hc => (h c hc).1

theorem endsClock_nil : EndsClock [] :=
  nofun

private theorem readParts?_clockToMinute (fields : Fields) (t : Timestamp) (layout : Layout)
    (rest : List Char) :
    readParts? fields (clockToMinute ++ layout) ((Precision.hourAndMinute t).toList ++ rest) =
      readParts? { fields with hour := t.second / 3600, minute := t.second / 60 % 60 } layout rest := by
  rw [toList_hourAndMinute]
  simp only [clockToMinute, List.cons_append, List.nil_append, List.append_assoc]
  rw [readParts?_field rfl (isRun_hour t), readParts?_mark, readParts?_field rfl (isRun_minute t)]
  rfl

private theorem readParts?_clockToSecond (fields : Fields) (t : Timestamp) (layout : Layout)
    (rest : List Char) :
    readParts? fields (clockToSecond ++ layout) (t.clockText.toList ++ rest) =
      readParts? { fields with
        hour := t.second / 3600, minute := t.second / 60 % 60, second := t.clockSecond } layout rest := by
  rw [toList_clockText]
  simp only [clockToSecond, List.append_assoc, List.cons_append, List.nil_append]
  rw [readParts?_clockToMinute, readParts?_mark, readParts?_field rfl (isRun_second t)]
  rfl

/-- No digits of a fraction are as good as none of them other than zero. -/
theorem fraction_none (t : Timestamp) :
    t.nanos % 1000000000 / 10 ^ (9 - 0) * 10 ^ (9 - 0) = 0 := by
  have hless : t.nanos % 1000000000 < 10 ^ (9 - 0) := Nat.mod_lt t.nanos (by decide)
  rw [Nat.div_eq_of_lt hless, Nat.zero_mul]

private theorem readParts?_fractionText {digits : Nat} (hdigits : digits ≤ 9) (fields : Fields)
    (hfields : fields.nanos = 0) (t : Timestamp) (layout : Layout) {rest : List Char}
    (hrest : EndsClock rest) :
    readParts? fields (.fraction :: layout) ((Precision.fractionText digits t).toList ++ rest) =
      readParts? { fields with
        nanos := t.nanos % 1000000000 / 10 ^ (9 - digits) * 10 ^ (9 - digits) } layout rest := by
  rcases Nat.eq_zero_or_pos digits with rfl | hpos
  · have hnone : (Precision.fractionText 0 t).toList = [] := rfl
    rw [hnone, List.nil_append, readParts?_no_fraction (fun c hc => (hrest c hc).2.2), fraction_none,
      ← hfields]
  · rw [toList_fractionText (Nat.ne_of_gt hpos), List.cons_append,
      readParts?_fraction (isRun_fraction t ⟨hpos, hdigits⟩) ⟨hpos, hdigits⟩ hrest.endsRun]

/-- The times of day that layouts end in. -/
def clockLayouts : List Layout :=
  [clockToFraction, clockToSecond, clockToMinute]

private theorem readParts?_clock {layout : Layout} (hlayout : layout ∈ clockLayouts)
    {precision : Precision} (hprecision : precision.IsAccepted) (t : Timestamp) {rest : List Char}
    (hrest : EndsClock rest) {fields : Fields}
    (h : readParts? (dateFields t.date) layout ((precision.text t).toList ++ rest) = some fields) :
    fields = clockFields t precision ∧ rest = [] := by
  have hcolon : ∀ c ∈ rest.head?, c ≠ ':' := fun c hc => (hrest c hc).2.1
  simp only [clockLayouts, List.mem_cons, List.not_mem_nil, or_false] at hlayout
  cases precision with
  | minute =>
    simp only [Precision.text] at h
    rcases hlayout with rfl | rfl | rfl
    · rw [clockToFraction, clockToSecond, List.append_assoc, readParts?_clockToMinute, List.cons_append,
        readParts?_mark_eq_none hcolon] at h
      cases h
    · rw [clockToSecond, readParts?_clockToMinute, readParts?_mark_eq_none hcolon] at h
      cases h
    · rw [← List.append_nil clockToMinute, readParts?_clockToMinute] at h
      exact readParts?_nil_eq_some.mp h
  | second digits =>
    simp only [Precision.text, String.toList_append, List.append_assoc] at h
    rcases hlayout with rfl | rfl | rfl
    · rw [clockToFraction, readParts?_clockToSecond,
        readParts?_fractionText hprecision _ rfl t [] hrest] at h
      exact readParts?_nil_eq_some.mp h
    · rw [← List.append_nil clockToSecond, readParts?_clockToSecond, readParts?_nil_eq_some,
        List.append_eq_nil_iff] at h
      obtain ⟨rfl, hfraction, hnil⟩ := h
      have hnone : digits = 0 := by
        by_contra hsome
        rw [toList_fractionText hsome] at hfraction
        cases hfraction
      subst hnone
      exact ⟨by rw [clockFields, fraction_none]; rfl, hnil⟩
    · rw [toList_clockText, List.append_assoc, ← List.append_nil clockToMinute,
        readParts?_clockToMinute, readParts?_nil_eq_some] at h
      cases h.2

/-- The time of day that a layout must end in to read what is written. -/
def clockLayout : Precision → Layout
  | .minute => clockToMinute
  | .second _ => clockToFraction

theorem clockLayout_mem (precision : Precision) : clockLayout precision ∈ clockLayouts := by
  cases precision <;> simp [clockLayout, clockLayouts]

private theorem readParts?_clockLayout {precision : Precision} (h : precision.IsAccepted)
    (t : Timestamp) :
    readParts? (dateFields t.date) (clockLayout precision) (precision.text t).toList =
      some (clockFields t precision) := by
  cases precision with
  | minute =>
    have hread := readParts?_clockToMinute (dateFields t.date) t [] []
    rwa [List.append_nil, List.append_nil] at hread
  | second digits =>
    have hfraction := readParts?_fractionText h { dateFields t.date with
      hour := t.second / 3600, minute := t.second / 60 % 60, second := t.clockSecond } rfl t []
      endsClock_nil
    rw [List.append_nil] at hfraction
    rw [clockLayout, clockToFraction, Precision.text, String.toList_append, readParts?_clockToSecond,
      hfraction]
    rfl

private theorem ofParts?_date (d : Date) : Date.ofParts? d.year d.month d.day = some d :=
  Date.ofParts?_eq_some.mpr ⟨rfl, rfl, rfl⟩

private theorem ofParts?_moment (t : Timestamp) {second nanos : Nat} (hsecond : second = t.second)
    (hnanos : nanos = t.nanos) : Timestamp.ofParts? t.date second nanos = some t := by
  subst hsecond hnanos
  exact dif_pos t.isTime

private theorem leap_add_fraction {digits : Nat} (h : digits ≤ 9) (nanos : Nat) :
    nanos / 1000000000 * 1000000000 + nanos % 1000000000 / 10 ^ (9 - digits) * 10 ^ (9 - digits) =
      nanos / 10 ^ (9 - digits) * 10 ^ (9 - digits) := by
  have hpow : 10 ^ digits * 10 ^ (9 - digits) = 1000000000 := by
    rw [← Nat.pow_add, Nat.add_sub_cancel' h]
  have hpos : 0 < 10 ^ (9 - digits) := Nat.pow_pos (by decide)
  have hwhole : nanos / 1000000000 * 1000000000 =
      nanos / 1000000000 * 10 ^ digits * 10 ^ (9 - digits) := by
    rw [Nat.mul_assoc, hpow]
  have hsplit : nanos = nanos / 1000000000 * 10 ^ digits * 10 ^ (9 - digits) + nanos % 1000000000 := by
    rw [← hwhole]
    exact (Nat.div_add_mod' nanos 1000000000).symm
  calc nanos / 1000000000 * 1000000000 + nanos % 1000000000 / 10 ^ (9 - digits) * 10 ^ (9 - digits)
    _ = (nanos / 1000000000 * 10 ^ digits + nanos % 1000000000 / 10 ^ (9 - digits)) *
          10 ^ (9 - digits) := by rw [hwhole, Nat.add_mul]
    _ = (nanos / 1000000000 * 10 ^ digits * 10 ^ (9 - digits) + nanos % 1000000000) /
          10 ^ (9 - digits) * 10 ^ (9 - digits) := by
      rw [Nat.add_comm (_ * _) (nanos % _), Nat.add_mul_div_right _ _ hpos, Nat.add_comm]
    _ = nanos / 10 ^ (9 - digits) * 10 ^ (9 - digits) := by rw [← hsplit]

private theorem timestamp?_eq {fields : Fields} {d : Date}
    (hdate : Date.ofParts? fields.year fields.month fields.day = some d)
    (hclock : fields.hour ≤ 23 ∧ fields.minute ≤ 59 ∧ fields.second ≤ 60) :
    fields.timestamp? = Timestamp.ofParts? d
      (3600 * fields.hour + 60 * fields.minute + (fields.second - fields.second / 60))
      (fields.second / 60 * 1000000000 + fields.nanos) := by
  unfold Fields.timestamp?
  rw [hdate, Option.bind_eq_bind, Option.bind_some, if_neg (by omega)]

/-- What has been read of date and time of day is the moment as far as it is written. -/
theorem timestamp?_clockFields {precision : Precision} (h : precision.IsAccepted) (t : Timestamp) :
    (clockFields t precision).timestamp? = some (precision.moment t) := by
  obtain ⟨hsecond, hnanos, hleap⟩ := t.isTime
  have hhour : t.second / 3600 ≤ 23 ∧ t.second / 60 % 60 ≤ 59 := by omega
  cases precision with
  | minute =>
    rw [timestamp?_eq (ofParts?_date t.date) ⟨hhour.1, hhour.2, Nat.zero_le 60⟩]
    have hminute : 3600 * (t.second / 3600) + 60 * (t.second / 60 % 60) + (0 - 0 / 60) =
        t.second / 60 * 60 := by
      omega
    have hwhole : 0 / 60 * 1000000000 + 0 = 0 := rfl
    exact ofParts?_moment (Precision.minute.moment t) hminute hwhole
  | second digits =>
    have hclock : t.clockSecond / 60 = t.nanos / 1000000000 ∧ t.clockSecond ≤ 60 := by
      unfold Timestamp.clockSecond
      omega
    rw [timestamp?_eq (ofParts?_date t.date) ⟨hhour.1, hhour.2, hclock.2⟩]
    have hseconds : 3600 * (t.second / 3600) + 60 * (t.second / 60 % 60) +
        (t.clockSecond - t.clockSecond / 60) = t.second := by
      rw [hclock.1, Timestamp.clockSecond]
      omega
    have hfraction := leap_add_fraction h t.nanos
    rw [← hclock.1] at hfraction
    exact ofParts?_moment ((Precision.second digits).moment t) hseconds hfraction

private theorem timestamp?_dateFields (d : Date) :
    (dateFields d).timestamp? = some (.midnight d) := by
  have hclock : (dateFields d).hour ≤ 23 ∧ (dateFields d).minute ≤ 59 ∧ (dateFields d).second ≤ 60 :=
    ⟨Nat.zero_le _, Nat.zero_le _, Nat.zero_le _⟩
  have hsecond : 3600 * 0 + 60 * 0 + (0 - 0 / 60) = 0 := rfl
  have hwhole : 0 / 60 * 1000000000 + 0 = 0 := rfl
  rw [timestamp?_eq (ofParts?_date d) hclock]
  exact ofParts?_moment (.midnight d) hsecond hwhole

/-- What separates the date from the time of day. -/
def separators : List Part :=
  [.mark 'T', .gap]

theorem mem_dateTextLayouts {layout : Layout} : layout ∈ dateTextLayouts ↔
    (∃ separator ∈ separators, ∃ time ∈ clockLayouts, layout = Layout.dateThen separator time) ∨
      layout = Layout.date := by
  have hall : dateTextLayouts = (separators.flatMap fun separator =>
      clockLayouts.map (Layout.dateThen separator)) ++ [Layout.date] := rfl
  rw [hall, List.mem_append, List.mem_flatMap, List.mem_singleton]
  simp only [List.mem_map, eq_comm]

private theorem exists_hour {time : Layout} (h : time ∈ clockLayouts) :
    ∃ rest, time = .hour :: rest := by
  simp only [clockLayouts, List.mem_cons, List.not_mem_nil, or_false] at h
  rcases h with rfl | rfl | rfl <;> exact ⟨_, rfl⟩

private theorem readParts?_separator {separator : Part} (hseparator : separator ∈ separators)
    {mark : Char} (hmark : mark ∈ ['T', 't', ' ']) {time : Layout} (htime : time ∈ clockLayouts)
    (precision : Precision) (t : Timestamp) (rest : List Char) {fields : Fields}
    (h : readParts? (dateFields t.date) (separator :: time)
      (mark :: ((precision.text t).toList ++ rest)) = some fields) :
    readParts? (dateFields t.date) time ((precision.text t).toList ++ rest) = some fields := by
  obtain ⟨clock, hclock⟩ := toList_precisionText precision t
  have htrim : trimStart ((precision.text t).toList ++ rest) = (precision.text t).toList ++ rest := by
    rw [hclock, List.append_assoc]
    exact (isRun_hour t).trimStart_append _
  simp only [separators, List.mem_cons, List.not_mem_nil, or_false] at hseparator
  rcases hseparator with rfl | rfl
  · by_cases hsame : mark = 'T'
    · rwa [hsame, readParts?_mark] at h
    · rw [readParts?_mark_eq_none (by simpa using hsame)] at h
      exact nomatch h
  · rw [readParts?_gap] at h
    by_cases hblank : isBlank mark = true
    · rwa [trimStart, List.dropWhile_cons_of_pos hblank, ← trimStart, htrim] at h
    · obtain ⟨more, rfl⟩ := exists_hour htime
      have hletter : Text.isDigit mark = false := by
        simp only [List.mem_cons, List.not_mem_nil, or_false] at hmark
        rcases hmark with rfl | rfl | rfl <;> decide
      have hstop : trimStart (mark :: ((precision.text t).toList ++ rest)) =
          mark :: ((precision.text t).toList ++ rest) := trimStart_cons (by simpa using hblank) _
      rw [readParts?_field_eq_none rfl (by rw [hstop, hstop]; simpa [EndsRun] using hletter)] at h
      exact nomatch h

private theorem read?_eq_some {layout : Layout} {text : List Char} {u : Timestamp} :
    layout.read? text = some u ↔
      ∃ fields, readParts? {} layout text = some fields ∧ fields.timestamp? = some u :=
  Option.bind_eq_some_iff

/-- A layout that reads a date and a time of day reads the moment that is written, and nothing comes
after it. -/
theorem read?_clock {layout : Layout} (hlayout : layout ∈ dateTextLayouts) {mark : Char}
    (hmark : mark ∈ ['T', 't', ' ']) {precision : Precision} (hprecision : precision.IsAccepted)
    {t : Timestamp} {rest : List Char} (hrest : EndsClock rest) {u : Timestamp}
    (h : layout.read? (t.date.text.toList ++ mark :: ((precision.text t).toList ++ rest)) = some u) :
    u = precision.moment t ∧ rest = [] := by
  obtain ⟨fields, hread, htime⟩ := read?_eq_some.mp h
  rcases mem_dateTextLayouts.mp hlayout with ⟨separator, hseparator, time, hclock, rfl⟩ | rfl
  · rw [Layout.dateThen, readParts?_date] at hread
    have hparts := readParts?_separator hseparator hmark hclock precision t rest hread
    obtain ⟨rfl, hnil⟩ := readParts?_clock hclock hprecision t hrest hparts
    rw [timestamp?_clockFields hprecision] at htime
    exact ⟨(Option.some.inj htime).symm, hnil⟩
  · rw [← List.append_nil Layout.date, readParts?_date, readParts?_nil_eq_some] at hread
    exact nomatch hread.2

/-- A layout that reads a date alone reads its midnight. -/
theorem read?_day {layout : Layout} (hlayout : layout ∈ dateTextLayouts) {d : Date} {u : Timestamp}
    (h : layout.read? d.text.toList = some u) : u = .midnight d := by
  rw [← List.append_nil d.text.toList] at h
  obtain ⟨fields, hread, htime⟩ := read?_eq_some.mp h
  rcases mem_dateTextLayouts.mp hlayout with ⟨separator, hseparator, time, hclock, rfl⟩ | rfl
  · obtain ⟨more, rfl⟩ := exists_hour hclock
    rw [Layout.dateThen, readParts?_date] at hread
    simp only [separators, List.mem_cons, List.not_mem_nil, or_false] at hseparator
    rcases hseparator with rfl | rfl
    · rw [readParts?_mark_eq_none (by simp)] at hread
      exact nomatch hread
    · rw [readParts?_gap, readParts?_field_eq_none rfl (by simp [EndsRun, trimStart])] at hread
      exact nomatch hread
  · rw [← List.append_nil Layout.date, readParts?_date, readParts?_nil_eq_some] at hread
    rw [hread.1, timestamp?_dateFields] at htime
    exact (Option.some.inj htime).symm

theorem read?_date (d : Date) : Layout.date.read? d.text.toList = some (.midnight d) := by
  have hread := readParts?_date d [] []
  rw [List.append_nil, List.append_nil] at hread
  exact read?_eq_some.mpr ⟨dateFields d, hread, timestamp?_dateFields d⟩

/-- The part that reads what separates date and time of day. -/
def separatorPart (mark : Char) : Part :=
  if mark = 'T' then .mark 'T' else .gap

/-- A text without an offset is read by the layout that has its separator and its precision. -/
theorem read?_dateThen {mark : Char} (hmark : mark ∈ ['T', ' ']) {precision : Precision}
    (hprecision : precision.IsAccepted) (t : Timestamp) :
    Layout.read? (Layout.dateThen (separatorPart mark) (clockLayout precision))
      (t.date.text.toList ++ mark :: (precision.text t).toList) = some (precision.moment t) := by
  obtain ⟨clock, hclock⟩ := toList_precisionText precision t
  have htrim : trimStart (precision.text t).toList = (precision.text t).toList := by
    rw [hclock]
    exact (isRun_hour t).trimStart_append _
  have hmark : readParts? (dateFields t.date) (separatorPart mark :: clockLayout precision)
      (mark :: (precision.text t).toList) =
        readParts? (dateFields t.date) (clockLayout precision) (precision.text t).toList := by
    simp only [List.mem_cons, List.not_mem_nil, or_false] at hmark
    rcases hmark with rfl | rfl
    · exact readParts?_mark _ 'T' _ _
    · have hblank : isBlank ' ' = true := rfl
      change readParts? (dateFields t.date) (.gap :: clockLayout precision) _ = _
      rw [readParts?_gap, trimStart, List.dropWhile_cons_of_pos hblank, ← trimStart, htrim]
  have hread := readParts?_date t.date (separatorPart mark :: clockLayout precision)
    (mark :: (precision.text t).toList)
  rw [hmark, readParts?_clockLayout hprecision] at hread
  exact read?_eq_some.mpr ⟨_, hread, timestamp?_clockFields hprecision t⟩

end TenantGrid.Time
