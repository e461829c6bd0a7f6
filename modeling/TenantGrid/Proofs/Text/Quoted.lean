import TenantGrid.Text.Basic
/-!
# Reading quoted text

A reader of quoted text takes two quotes in a row for one and stops at a quote that stands alone. It
reads just what is written by quoting a text, and what follows is left to it as it is.
-/
namespace TenantGrid.Text

/-- What stands before the closing quote and what follows it, read after the opening quote. -/
def readInside? (quote : Char) : List Char → Option (List Char × List Char)
  | [] => none
  | c :: rest =>
    if c = quote then
      match rest with
      | [] => some ([], [])
      | d :: more =>
        if d = quote then (readInside? quote more).map fun read => (quote :: read.1, read.2)
        else some ([], d :: more)
    else (readInside? quote rest).map fun read => (c :: read.1, read.2)

/-- The text in quotes that a text begins with, and what follows it. -/
def readQuoted? (quote : Char) : List Char → Option (String × List Char)
  | [] => none
  | c :: rest =>
    if c = quote then (readInside? quote rest).map fun read => (String.ofList read.1, read.2)
    else none

section Inside

variable {quote : Char}

private theorem readInside?_close {rest : List Char} (h : rest.head? ≠ some quote) :
    readInside? quote (quote :: rest) = some ([], rest) := by
  cases rest with
  | nil => simp [readInside?]
  | cons d more =>
    have hd : d ≠ quote := by simpa using h
    simp [readInside?, hd]

private theorem readInside?_twice (rest : List Char) : readInside? quote (quote :: quote :: rest) =
    (readInside? quote rest).map fun read => (quote :: read.1, read.2) := by
  simp [readInside?]

private theorem readInside?_other {c : Char} (h : c ≠ quote) (rest : List Char) :
    readInside? quote (c :: rest) =
      (readInside? quote rest).map fun read => (c :: read.1, read.2) := by
  rw [readInside?.eq_def]
  exact if_neg h

private theorem readInside?_doubled {rest : List Char} (h : rest.head? ≠ some quote)
    (text : List Char) :
    readInside? quote (doubled quote text ++ quote :: rest) = some (text, rest) := by
  induction text with
  | nil => exact readInside?_close h
  | cons c text ih =>
    by_cases hc : c = quote
    · rw [doubled, if_pos hc, hc, List.cons_append, List.cons_append, readInside?_twice, ih]
      rfl
    · rw [doubled, if_neg hc, List.cons_append, readInside?_other hc, ih]
      rfl

private theorem eq_of_readInside? {written text rest : List Char}
    (h : readInside? quote written = some (text, rest)) :
    written = doubled quote text ++ quote :: rest ∧ rest.head? ≠ some quote := by
  fun_induction readInside? quote written generalizing text with
  | case1 => cases h
  | case2 =>
    cases h
    exact ⟨rfl, by simp⟩
  | case3 more ih =>
    obtain ⟨⟨inner, after⟩, hinner, heq⟩ := Option.map_eq_some_iff.mp h
    cases heq
    obtain ⟨hwritten, hafter⟩ := ih hinner
    exact ⟨by simp [doubled, hwritten], hafter⟩
  | case4 d more hd =>
    cases h
    exact ⟨rfl, by simpa using hd⟩
  | case5 c rest' hc ih =>
    obtain ⟨⟨inner, after⟩, hinner, heq⟩ := Option.map_eq_some_iff.mp h
    cases heq
    obtain ⟨hwritten, hafter⟩ := ih hinner
    exact ⟨by simp [doubled, hc, hwritten], hafter⟩

end Inside

theorem toList_quoted (quote : Char) (text : String) :
    (quoted quote text).toList = quote :: (doubled quote text.toList ++ [quote]) := by
  simp [quoted]

/-- A text in quotes is read at the front of another one just if it is written there and no further
quote follows. -/
theorem readQuoted?_eq_some {quote : Char} {written rest : List Char} {text : String} :
    readQuoted? quote written = some (text, rest) ↔
      written = (quoted quote text).toList ++ rest ∧ rest.head? ≠ some quote := by
  constructor
  · intro h
    cases written with
    | nil => cases h
    | cons c more =>
      rw [readQuoted?] at h
      split at h
      · rename_i hc
        obtain ⟨⟨inner, after⟩, hinner, heq⟩ := Option.map_eq_some_iff.mp h
        cases heq
        obtain ⟨hmore, hafter⟩ := eq_of_readInside? hinner
        refine ⟨?_, hafter⟩
        simp [toList_quoted, hc, hmore]
      · cases h
  · rintro ⟨rfl, hrest⟩
    have hinside := readInside?_doubled hrest text.toList
    rw [toList_quoted, List.cons_append, List.append_assoc, List.singleton_append, readQuoted?,
      if_pos rfl, hinside, Option.map_some, String.ofList_toList]

theorem length_of_readQuoted? {quote : Char} {written rest : List Char} {text : String}
    (h : readQuoted? quote written = some (text, rest)) : rest.length < written.length := by
  rw [(readQuoted?_eq_some.mp h).1, toList_quoted]
  simp only [List.length_append, List.length_cons]
  omega

/-- No two texts are the same in quotes. -/
theorem quoted_injective (quote : Char) : Function.Injective (quoted quote) := by
  intro s t h
  have hread (text : String) : readQuoted? quote (quoted quote text).toList = some (text, []) :=
    readQuoted?_eq_some.mpr ⟨(List.append_nil _).symm, by simp⟩
  have hsame := hread s
  rw [h, hread t] at hsame
  exact (Prod.ext_iff.mp (Option.some.inj hsame)).1.symm

end TenantGrid.Text
