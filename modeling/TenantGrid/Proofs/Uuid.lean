import Mathlib.Data.List.Forall2
import TenantGrid.Uuid
/-!
# Spellings of an identifier

A text is read as an identifier if it is one of four forms of it, with its letters in either case.
-/
namespace TenantGrid

namespace Text

private theorem not_le_of_toNat_lt {c d : Char} (h : d.toNat < c.toNat) : ¬ c ≤ d :=
  fun hle => absurd (show c.toNat ≤ d.toNat from hle) (by omega)

private theorem toLower_of_le {c : Char} (h : 128 ≤ c.toNat) : c.toLower = c := by
  have hupper : ¬ (c.val ≥ 'A'.val ∧ c.val ≤ 'Z'.val) :=
    fun hrange => not_le_of_toNat_lt (Nat.lt_of_lt_of_le (by decide) h) hrange.2
  exact dif_neg hupper

private theorem char_cases {motive : Char → Prop} (hascii : ∀ n < 128, motive (Char.ofNat n))
    (hother : ∀ c : Char, 128 ≤ c.toNat → motive c) (c : Char) : motive c := by
  by_cases h : c.toNat < 128
  · rw [← Char.ofNat_toNat c]
    exact hascii c.toNat h
  · exact hother c (by omega)

private theorem hexValue?_of_le {c : Char} (h : 128 ≤ c.toNat) : hexValue? c = none := by
  have hdecimal : ¬ c ≤ '9' := not_le_of_toNat_lt (Nat.lt_of_lt_of_le (by decide) h)
  have hlower : ¬ c ≤ 'f' := not_le_of_toNat_lt (Nat.lt_of_lt_of_le (by decide) h)
  have hupper : ¬ c ≤ 'F' := not_le_of_toNat_lt (Nat.lt_of_lt_of_le (by decide) h)
  simp [hexValue?, isDigit, hdecimal, hlower, hupper]

private theorem hexValue?_eq_some {c : Char} {digit : Fin 16} :
    hexValue? c = some digit ↔ c.toLower = hexChar digit := by
  induction c using char_cases with
  | hascii n h =>
    revert n digit
    decide +kernel
  | hother c h =>
    have hdigits : ∀ digit, (hexChar digit).toNat < 128 := by decide
    rw [hexValue?_of_le h, toLower_of_le h]
    refine ⟨nofun, ?_⟩
    rintro rfl
    exact absurd (hdigits digit) (by omega)

private theorem toLower_eq_iff {c mark : Char} (h : mark ∈ ['-', '\x7b', '\x7d']) :
    c.toLower = mark ↔ c = mark := by
  simp only [List.mem_cons, List.not_mem_nil, or_false] at h
  induction c using char_cases with
  | hascii n hn =>
    revert n
    obtain rfl | rfl | rfl := h <;> decide +kernel
  | hother c hc => rw [toLower_of_le hc]

private theorem mapM_hexValue?_eq_some {text : List Char} {digits : List (Fin 16)} :
    text.mapM hexValue? = some digits ↔ text.map Char.toLower = digits.map hexChar := by
  induction text generalizing digits with
  | nil => cases digits <;> simp
  | cons c rest ih =>
    cases digits with
    | nil => simp [List.mapM_cons, Option.bind_eq_some_iff]
    | cons digit digits =>
      simp [List.mapM_cons, Option.bind_eq_some_iff, ← hexValue?_eq_some, ← ih]

end Text

namespace Uuid

/-- The texts in lower case that are read as an identifier: its digits without and with hyphens,
in braces and as a URN. -/
def forms (id : Uuid) : List String :=
  [String.ofList (id.digits.map Text.hexChar), id.text, "\x7b" ++ id.text ++ "\x7d",
    urnMark ++ id.text]

private theorem readDigits?_eq_some {text : List Char} {id : Uuid} :
    readDigits? text = some id ↔ text.map Char.toLower = id.digits.map Text.hexChar := by
  rw [← Text.mapM_hexValue?_eq_some]
  simp only [readDigits?, Option.bind_eq_bind, Option.bind_eq_some_iff, ofDigits?]
  constructor
  · rintro ⟨digits, hdigits, hid⟩
    split at hid
    · obtain rfl := Option.some.inj hid
      exact hdigits
    · exact nomatch hid
  · intro h
    exact ⟨id.digits, h, dif_pos id.length_digits⟩

theorem map_hyphenated {α β : Type} (f : α → β) (hyphen : α) (digits : List α) :
    (hyphenated hyphen digits).map f = hyphenated (f hyphen) (digits.map f) := by
  simp [hyphenated, List.map_take, List.map_drop]

section Groups

variable {α : Type} {a b c d e : List α} {hyphen : α}

private theorem hyphenated_groups (ha : a.length = 8) (hb : b.length = 4) (hc : c.length = 4)
    (hd : d.length = 4) :
    hyphenated hyphen (a ++ (b ++ (c ++ (d ++ e)))) =
      a ++ hyphen :: (b ++ hyphen :: (c ++ hyphen :: (d ++ hyphen :: e))) := by
  simp [hyphenated, List.drop_append, List.drop_of_length_le, ha, hb, hc, hd]

private theorem exists_groups {digits : List α} (h : digits.length = 32) :
    ∃ a b c d e, digits = a ++ (b ++ (c ++ (d ++ e))) ∧ a.length = 8 ∧ b.length = 4 ∧
      c.length = 4 ∧ d.length = 4 ∧ e.length = 12 :=
  ⟨digits.take 8, (digits.drop 8).take 4, ((digits.drop 8).drop 4).take 4,
    (((digits.drop 8).drop 4).drop 4).take 4, (((digits.drop 8).drop 4).drop 4).drop 4,
    by simp only [List.take_append_drop], by simp [h], by simp [h], by simp [h], by simp [h],
    by simp [h]⟩

end Groups

private theorem unhyphenated?_eq_some {text digits : List Char} (h : digits.length = 32) :
    unhyphenated? text = some digits ↔ text = hyphenated '-' digits := by
  constructor
  · intro hsome
    simp only [unhyphenated?] at hsome
    split at hsome
    case isTrue htext =>
      rw [Option.some.inj hsome] at htext
      exact htext
    case isFalse => exact nomatch hsome
  · rintro rfl
    obtain ⟨a, b, c, d, e, rfl, ha, hb, hc, hd, he⟩ := exists_groups h
    rw [hyphenated_groups ha hb hc hd]
    simp [unhyphenated?, List.drop_append, List.drop_of_length_le, ha, hb, hc, hd,
      hyphenated_groups]

private theorem exists_of_map_hyphenated {text digits : List Char} (h : digits.length = 32)
    (htext : text.map Char.toLower = hyphenated '-' digits) :
    ∃ read, text = hyphenated '-' read ∧ read.map Char.toLower = digits := by
  obtain ⟨a, b, c, d, e, rfl, ha, hb, hc, hd, -⟩ := exists_groups h
  simp only [hyphenated_groups ha hb hc hd, List.map_eq_append_iff, List.map_eq_cons_iff] at htext
  obtain ⟨a, _, rfl, rfl, _, _, rfl, h₁, b, _, rfl, rfl, _, _, rfl, h₂, c, _, rfl, rfl, _, _, rfl, h₃,
    d, _, rfl, rfl, _, e, rfl, h₄, rfl⟩ := htext
  obtain rfl := (Text.toLower_eq_iff (by simp)).mp h₁
  obtain rfl := (Text.toLower_eq_iff (by simp)).mp h₂
  obtain rfl := (Text.toLower_eq_iff (by simp)).mp h₃
  obtain rfl := (Text.toLower_eq_iff (by simp)).mp h₄
  simp only [List.length_map] at ha hb hc hd
  exact ⟨_, (hyphenated_groups ha hb hc hd).symm, by simp⟩

private theorem readHyphenated?_eq_some {text : List Char} {id : Uuid} :
    readHyphenated? text = some id ↔ text.map Char.toLower = id.text.toList := by
  have hlength : (id.digits.map Text.hexChar).length = 32 := by simp [id.length_digits]
  rw [readHyphenated?, Option.bind_eq_bind, Option.bind_eq_some_iff, Uuid.text, String.toList_ofList]
  simp only [readDigits?_eq_some]
  constructor
  · rintro ⟨read, hread, hdigits⟩
    have hcount : read.length = 32 := by rw [← hlength, ← hdigits, List.length_map]
    rw [(unhyphenated?_eq_some hcount).mp hread, map_hyphenated, hdigits]
    rfl
  · intro htext
    obtain ⟨read, rfl, hdigits⟩ := exists_of_map_hyphenated hlength htext
    have hcount : read.length = 32 := by rw [← hlength, ← hdigits, List.length_map]
    exact ⟨read, (unhyphenated?_eq_some hcount).mpr rfl, hdigits⟩

private theorem length_text (id : Uuid) : id.text.toList.length = 36 := by
  simp [text, hyphenated, id.length_digits]

private theorem readBraced_eq_some {text : List Char} {id : Uuid} (h : text.length = 38) :
    (if text.head? = some '\x7b' ∧ text.getLast? = some '\x7d' then
        readHyphenated? ((text.drop 1).take 36)
      else none) = some id ↔
      text.map Char.toLower = '\x7b' :: (id.text.toList ++ ['\x7d']) := by
  obtain ⟨first, rest, rfl⟩ := List.exists_cons_of_length_eq_add_one h
  have hrest : rest ≠ [] := List.ne_nil_of_length_pos (by simp at h; omega)
  obtain ⟨inner, last, rfl⟩ : ∃ inner last, rest = inner ++ [last] :=
    ⟨_, _, (List.dropLast_append_getLast hrest).symm⟩
  have hinner : inner.length = 36 := by simpa using h
  have hends : (inner ++ [last]).map Char.toLower = id.text.toList ++ ['\x7d'] ↔
      inner.map Char.toLower = id.text.toList ∧ last = '\x7d' := by
    rw [List.map_append, List.append_eq_append_iff_of_size_eq_left (by simp [hinner, length_text])]
    simp [Text.toLower_eq_iff]
  have hlast : (first :: (inner ++ [last])).getLast? = some last := by
    rw [← List.cons_append, List.getLast?_concat]
  have hcut : ((first :: (inner ++ [last])).drop 1).take 36 = inner := by
    simp [← hinner]
  rw [List.map_cons, List.cons.injEq, hends, hlast, hcut, List.head?_cons, Text.toLower_eq_iff (by simp),
    ← readHyphenated?_eq_some]
  simp only [Option.some_inj]
  grind

private theorem readUrn_eq_some {text : List Char} {id : Uuid} (h : text.length = 45) :
    (if Text.asciiLower (String.ofList (text.take 9)) = urnMark then
        readHyphenated? (text.drop 9)
      else none) = some id ↔
      text.map Char.toLower = urnMark.toList ++ id.text.toList := by
  have hmark : Text.asciiLower (String.ofList (text.take 9)) = urnMark ↔
      (text.take 9).map Char.toLower = urnMark.toList := by
    rw [← String.toList_inj, Text.asciiLower, String.toList_map, String.toList_ofList]
  have hparts : text.map Char.toLower = urnMark.toList ++ id.text.toList ↔
      (text.take 9).map Char.toLower = urnMark.toList ∧
        (text.drop 9).map Char.toLower = id.text.toList := by
    have hlength : ((text.take 9).map Char.toLower).length = urnMark.toList.length := by
      rw [List.length_map, List.length_take, h]
      decide
    rw [← List.append_eq_append_iff_of_size_eq_left hlength, ← List.map_append,
      List.take_append_drop]
  rw [hparts, ← hmark, ← readHyphenated?_eq_some]
  grind

/-- A text is read as the identifier that it is a form of, up to the case of its letters. -/
theorem ofText?_eq_some {text : String} {id : Uuid} :
    ofText? text = some id ↔ Text.asciiLower text ∈ id.forms := by
  have hlength {form : List Char} (h : text.toList.map Char.toLower = form) :
      text.toList.length = form.length := by rw [← h, List.length_map]
  have hbare := @hlength (id.digits.map Text.hexChar)
  have htext := @hlength id.text.toList
  have hbraced := @hlength ('\x7b' :: (id.text.toList ++ ['\x7d']))
  have hurn := @hlength (urnMark.toList ++ id.text.toList)
  have hmark : urnMark.toList.length = 9 := by decide
  simp only [List.length_map, List.length_cons, List.length_append, List.length_nil, length_text,
    id.length_digits, hmark] at hbare htext hbraced hurn
  have hforms : Text.asciiLower text ∈ id.forms ↔
      text.toList.map Char.toLower = id.digits.map Text.hexChar ∨
      text.toList.map Char.toLower = id.text.toList ∨
      text.toList.map Char.toLower = '\x7b' :: (id.text.toList ++ ['\x7d']) ∨
      text.toList.map Char.toLower = urnMark.toList ++ id.text.toList := by
    simp [forms, ← String.toList_inj, Text.asciiLower, String.toList_map]
  rw [ofText?, hforms]
  split
  case h_1 h =>
    rw [readDigits?_eq_some]
    grind
  case h_2 h =>
    rw [readHyphenated?_eq_some]
    grind
  case h_3 h =>
    rw [readBraced_eq_some h]
    grind
  case h_4 h =>
    rw [readUrn_eq_some h]
    grind
  case h_5 => grind

end Uuid

end TenantGrid
