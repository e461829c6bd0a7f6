import TenantGrid.Json.Written
import TenantGrid.Proofs.Number.Written
/-!
# Printed JSON can be told apart

The text of a value says where the value ends and what it is. A string ends at the first quote that
is not escaped, a number at the first character that no number has, and an array or object at the
bracket that follows an item in place of a comma.
-/
namespace TenantGrid.Json

open Written (readUnits?)

/-- The control characters whose escape is a letter. -/
def lettered : List Char :=
  ['\x08', '\x0c', '\n', '\r', '\t']

/-- What a printed character is read as. -/
def printedUnit (c : Char) : StringUnit :=
  if c.toNat < 32 ∧ c ∉ lettered then .code c.toNat else .char c

private theorem printedUnit_injective {c d : Char} (h : printedUnit c = printedUnit d) : c = d := by
  unfold printedUnit at h
  split at h <;> split at h
  · exact Char.toNat_inj.mp (StringUnit.code.inj h)
  · simp at h
  · simp at h
  · exact StringUnit.char.inj h

private theorem escapedChar_code {c : Char} (hcontrol : c.toNat < 32) (hletter : c ∉ lettered) :
    ∃ a b, escapedChar c = ['\\', 'u', '0', '0', a, b] ∧
      Text.hexadecimalValue? ['0', '0', a, b] = some c.toNat := by
  have hcodes : ∀ n : Fin 32, Char.ofNat n ∉ lettered →
      (escapedChar (Char.ofNat n)).length = 6 ∧
        (escapedChar (Char.ofNat n)).take 4 = ['\\', 'u', '0', '0'] ∧
        Text.hexadecimalValue? ((escapedChar (Char.ofNat n)).drop 2) = some n.val := by
    decide
  obtain ⟨hlength, hstart, hvalue⟩ := hcodes ⟨c.toNat, hcontrol⟩ (by simpa using hletter)
  simp only [Char.ofNat_toNat] at hlength hstart hvalue
  match hchars : escapedChar c, hlength with
  | [_, _, _, _, a, b], _ =>
    rw [hchars] at hstart hvalue
    simp only [List.take_succ_cons, List.take_zero, List.cons.injEq, and_true] at hstart
    obtain ⟨rfl, rfl, rfl, rfl⟩ := hstart
    exact ⟨a, b, rfl, hvalue⟩

private theorem readUnits?_escapedChar (c : Char) {text rest : List Char} {units : List StringUnit}
    (h : readUnits? text = some (units, rest)) :
    readUnits? (escapedChar c ++ text) = some (printedUnit c :: units, rest) := by
  by_cases hescaped : c = '"' ∨ c = '\\' ∨ c ∈ lettered
  · simp only [lettered, List.mem_cons, List.not_mem_nil, or_false] at hescaped
    rcases hescaped with rfl | rfl | rfl | rfl | rfl | rfl | rfl <;>
      simp [escapedChar, readUnits?, printedUnit, lettered, h] <;> rfl
  · simp only [not_or] at hescaped
    obtain ⟨hquote, hbackslash, hletter⟩ := hescaped
    by_cases hcontrol : c.toNat < 32
    · obtain ⟨a, b, hchars, hvalue⟩ := escapedChar_code hcontrol hletter
      simp [hchars, readUnits?, printedUnit, hvalue, hcontrol, hletter, h]
    · have hchars : escapedChar c = [c] := by
        simp only [lettered, List.mem_cons, List.not_mem_nil, or_false, not_or] at hletter
        simp [escapedChar, hquote, hbackslash, hletter, hcontrol]
      simp [hchars, readUnits?, printedUnit, hcontrol, hbackslash, h]

private theorem readUnits?_printed (text rest : List Char) :
    readUnits? (text.flatMap escapedChar ++ '"' :: rest) = some (text.map printedUnit, rest) := by
  induction text with
  | nil => rfl
  | cons c text ih =>
    rw [List.flatMap_cons, List.append_assoc]
    exact readUnits?_escapedChar c ih

private theorem quotedChars_unique {s t : String} {rest rest' : List Char}
    (h : quotedChars s ++ rest = quotedChars t ++ rest') : s = t ∧ rest = rest' := by
  have htexts : s.toList.flatMap escapedChar ++ '"' :: rest =
      t.toList.flatMap escapedChar ++ '"' :: rest' := by
    simpa [quotedChars] using h
  have hread := readUnits?_printed s.toList rest
  rw [htexts, readUnits?_printed] at hread
  obtain ⟨hunits, hrest⟩ := Prod.mk.inj (Option.some.inj hread)
  have hinjective : Function.Injective printedUnit := fun _ _ => printedUnit_injective
  exact ⟨String.toList_inj.mp (hinjective.list_map hunits).symm, hrest.symm⟩

/-- Whether a text does not go on with a number. -/
def EndsNumber (text : List Char) : Prop :=
  ∀ c ∈ text.head?, isNumeric c = false

private theorem endsNumber_cons {c : Char} (hc : isNumeric c = false) (text : List Char) :
    EndsNumber (c :: text) := by
  intro d hd
  obtain rfl : c = d := by simpa using hd
  exact hc

private theorem numeric_unique {run run' rest rest' : List Char}
    (hrun : ∀ c ∈ run, isNumeric c = true)
    (hrun' : ∀ c ∈ run', isNumeric c = true) (hrest : EndsNumber rest) (hrest' : EndsNumber rest')
    (h : run ++ rest = run' ++ rest') : run = run' ∧ rest = rest' := by
  have hends : ∀ {c : Char} {text more : List Char}, isNumeric c = true → EndsNumber text →
      text ≠ c :: more := by
    rintro c text more hc htext rfl
    rw [htext c (by simp)] at hc
    exact absurd hc (by decide)
  induction run generalizing run' with
  | nil =>
    cases run' with
    | nil => exact ⟨rfl, h⟩
    | cons d run' => exact absurd h (hends (hrun' d (by simp)) hrest)
  | cons c run ih =>
    cases run' with
    | nil => exact absurd h.symm (hends (hrun c (by simp)) hrest')
    | cons d run' =>
      obtain ⟨rfl, htail⟩ := List.cons.inj h
      obtain ⟨rfl, hrests⟩ := ih (fun c hc => hrun c (by simp [hc]))
        (fun c hc => hrun' c (by simp [hc])) htail
      exact ⟨rfl, hrests⟩

section Separated

variable {α : Type} {print : α → List Char} {close : Char}

private theorem intercalate_cons (x : α) (items : List α) :
    List.intercalate [','] ((x :: items).map print) =
      print x ++ items.flatMap fun y => ',' :: print y := by
  induction items generalizing x with
  | nil => simp
  | cons y items ih =>
    rw [List.map_cons, List.map_cons, List.intercalate_cons_cons, ← List.map_cons, ih]
    simp

/-- Whether two values with one text are one value, whatever follows each of them. -/
def IsPrintedApart (print : α → List Char) (x y : α) : Prop :=
  ∀ rest rest', EndsNumber rest → EndsNumber rest' → print x ++ rest = print y ++ rest' →
    x = y ∧ rest = rest'

private theorem further_unique (hcomma : close ≠ ',') (hclose : isNumeric close = false)
    {items items' : List α}
    (hitems : ∀ x ∈ items, ∀ y ∈ items', IsPrintedApart print x y) {rest rest' : List Char}
    (h : (items.flatMap fun x => ',' :: print x) ++ close :: rest =
      (items'.flatMap fun y => ',' :: print y) ++ close :: rest') :
    items = items' ∧ rest = rest' := by
  have hends : ∀ (items : List α) (rest : List Char),
      EndsNumber ((items.flatMap fun x => ',' :: print x) ++ close :: rest) := by
    intro items rest
    cases items with
    | nil => exact endsNumber_cons hclose rest
    | cons x items => exact endsNumber_cons (by decide) _
  induction items generalizing items' with
  | nil =>
    cases items' with
    | nil => exact ⟨rfl, by simpa using h⟩
    | cons y items' => exact absurd (by simpa using congrArg List.head? h) hcomma
  | cons x items ih =>
    cases items' with
    | nil => exact absurd (by simpa using congrArg List.head? h.symm) hcomma
    | cons y items' =>
      simp only [List.flatMap_cons, List.cons_append, List.append_assoc, List.cons.injEq,
        true_and] at h
      obtain ⟨rfl, htail⟩ := hitems x (by simp) y (by simp) _ _ (hends items rest)
        (hends items' rest') h
      obtain ⟨rfl, hrests⟩ := ih (fun x hx y hy => hitems x (by simp [hx]) y (by simp [hy])) htail
      exact ⟨rfl, hrests⟩

private theorem separated_unique (hcomma : close ≠ ',') (hclose : isNumeric close = false)
    {items items' : List α} (hstart : ∀ x ∈ items ++ items', ∃ c text, print x = c :: text ∧ c ≠ close)
    (hitems : ∀ x ∈ items, ∀ y ∈ items', IsPrintedApart print x y) {rest rest' : List Char}
    (h : List.intercalate [','] (items.map print) ++ close :: rest =
      List.intercalate [','] (items'.map print) ++ close :: rest') :
    items = items' ∧ rest = rest' := by
  have hopens : ∀ (x : α) (more : List α) (rest rest' : List Char), x ∈ items ++ items' →
      List.intercalate [','] ((x :: more).map print) ++ rest ≠ close :: rest' := by
    intro x more rest rest' hx heq
    obtain ⟨c, text, hprint, hne⟩ := hstart x hx
    rw [intercalate_cons, hprint] at heq
    exact hne (List.cons.inj heq).1
  cases items with
  | nil =>
    cases items' with
    | nil => exact ⟨rfl, by simpa using h⟩
    | cons y items' => exact absurd h.symm (hopens y items' _ rest (by simp))
  | cons x items =>
    cases items' with
    | nil => exact absurd h (hopens x items _ rest' (by simp))
    | cons y items' =>
      have hfurther : ((x :: items).flatMap fun x => ',' :: print x) ++ close :: rest =
          ((y :: items').flatMap fun y => ',' :: print y) ++ close :: rest' := by
        rw [intercalate_cons, intercalate_cons] at h
        simpa using h
      exact further_unique hcomma hclose hitems hfurther

end Separated

/-- Whether a double occurs in a value. -/
inductive HasReal (x : Double) : Json → Prop
  | number : HasReal x (.number (.real x))
  | item {item : Json} {items : List Json} (hmem : item ∈ items) (h : HasReal x item) :
    HasReal x (.array items)
  | member {entry : String × Json} {members : List (String × Json)} (hmem : entry ∈ members)
    (h : HasReal x entry.2) : HasReal x (.object members)

@[simp] theorem not_hasReal_string (x : Double) (s : String) : ¬ HasReal x (.string s) :=
  nofun

@[simp] theorem hasReal_array {x : Double} {items : List Json} :
    HasReal x (.array items) ↔ ∃ item ∈ items, HasReal x item := by
  constructor
  · rintro (_ | ⟨hmem, h⟩)
    exact ⟨_, hmem, h⟩
  · rintro ⟨item, hmem, h⟩
    exact .item hmem h

@[simp] theorem hasReal_object {x : Double} {members : List (String × Json)} :
    HasReal x (.object members) ↔ ∃ entry ∈ members, HasReal x entry.2 := by
  constructor
  · rintro (_ | _ | ⟨hmem, h⟩)
    exact ⟨_, hmem, h⟩
  · rintro ⟨entry, hmem, h⟩
    exact .member hmem h

/-- Whether the doubles of two values are finite, and equal if they are printed alike. -/
structure RealsApart (v w : Json) : Prop where
  finite : ∀ x, HasReal x v ∨ HasReal x w → x.isFinite = true
  printed : ∀ x y, HasReal x v → HasReal y w →
    jsonNumberStyle.text x = jsonNumberStyle.text y → x = y

private theorem RealsApart.item {items items' : List Json}
    (h : RealsApart (.array items) (.array items'))
    {x y : Json} (hx : x ∈ items) (hy : y ∈ items') : RealsApart x y where
  finite z hz := h.finite z (hz.imp (.item hx) (.item hy))
  printed z z' hz hz' := h.printed z z' (.item hx hz) (.item hy hz')

private theorem RealsApart.member {members members' : List (String × Json)}
    (h : RealsApart (.object members) (.object members')) {x y : String × Json} (hx : x ∈ members)
    (hy : y ∈ members') : RealsApart x.2 y.2 where
  finite z hz := h.finite z (hz.imp (.member hx) (.member hy))
  printed z z' hz hz' := h.printed z z' (.member hx hz) (.member hy hz')

def memberText (entry : String × Json) : List Char :=
  quotedChars entry.1 ++ ':' :: entry.2.chars

private theorem itemChars_eq_map (items : List Json) : itemChars items = items.map chars := by
  induction items with
  | nil => rfl
  | cons item items ih => rw [itemChars, ih, List.map_cons]

private theorem memberChars_eq_map (members : List (String × Json)) :
    memberChars members = members.map memberText := by
  induction members with
  | nil => rfl
  | cons entry members ih =>
    rw [memberChars, ih, List.map_cons, memberText]

/-- The form of a value, and that of the values whose text begins with a character. -/
def form : Json → Nat
  | null => 0
  | bool _ => 1
  | number _ => 2
  | string _ => 3
  | array _ => 4
  | object _ => 5

def formAt (c : Char) : Nat :=
  if c = 'n' then 0
  else if c = 't' ∨ c = 'f' then 1
  else if isNumeric c then 2
  else if c = '"' then 3
  else if c = '[' then 4
  else if c = '\x7b' then 5
  else 6

private theorem formAt_numeric {c : Char} (h : isNumeric c = true) : formAt c = 2 := by
  have hne : ∀ d : Char, isNumeric d = false → c ≠ d := by
    rintro d hd rfl
    rw [h] at hd
    exact absurd hd (by decide)
  simp [formAt, h, hne 'n' (by decide), hne 't' (by decide), hne 'f' (by decide)]

private theorem chars_start {v : Json} (hfinite : ∀ x, HasReal x v → x.isFinite = true) :
    ∃ c text, v.chars = c :: text ∧ formAt c = v.form := by
  cases v with
  | null => exact ⟨'n', _, rfl, rfl⟩
  | bool b => cases b <;> exact ⟨_, _, rfl, rfl⟩
  | string s => exact ⟨'"', _, rfl, rfl⟩
  | array items => exact ⟨'[', _, by rw [chars, List.cons_append], rfl⟩
  | object members => exact ⟨'\x7b', _, by rw [chars, List.cons_append], rfl⟩
  | number n =>
    have hreal : ∀ x, n = .real x → x.isFinite = true := by
      rintro x rfl
      exact hfinite x .number
    obtain ⟨hne, hnumeric⟩ := JsonNumber.text_numeric hreal
    rw [chars]
    cases htext : n.text.toList with
    | nil => exact absurd htext hne
    | cons c text => exact ⟨c, text, rfl, formAt_numeric (hnumeric c (by simp [htext]))⟩

private theorem form_eq_of_append {v w : Json} (h : RealsApart v w) {rest rest' : List Char}
    (hchars : v.chars ++ rest = w.chars ++ rest') : v.form = w.form := by
  obtain ⟨c, text, hv, hform⟩ := chars_start fun x hx => h.finite x (Or.inl hx)
  obtain ⟨d, text', hw, hform'⟩ := chars_start fun x hx => h.finite x (Or.inr hx)
  rw [hv, hw] at hchars
  rw [← hform, ← hform', (List.cons.inj hchars).1]

private theorem number_unique {n n' : JsonNumber} (h : RealsApart (.number n) (.number n')) :
    IsPrintedApart chars (.number n) (.number n') := by
  intro rest rest' hrest hrest' hchars
  have hfinite : ∀ x, n = .real x → x.isFinite = true := by
    rintro x rfl
    exact h.finite x (Or.inl .number)
  have hfinite' : ∀ x, n' = .real x → x.isFinite = true := by
    rintro x rfl
    exact h.finite x (Or.inr .number)
  have hprinted : ∀ x y, n = .real x → n' = .real y →
      jsonNumberStyle.text x = jsonNumberStyle.text y → x = y := by
    rintro x y rfl rfl
    exact h.printed x y .number .number
  rw [chars, chars] at hchars
  obtain ⟨htext, hrests⟩ := numeric_unique (JsonNumber.text_numeric hfinite).2
    (JsonNumber.text_numeric hfinite').2 hrest hrest' hchars
  have hnumber := JsonNumber.text_injective hfinite hfinite' hprinted (String.toList_inj.mp htext)
  exact ⟨congrArg number hnumber, hrests⟩

private theorem array_unique {items items' : List Json}
    (h : RealsApart (.array items) (.array items'))
    (hitems : ∀ x ∈ items, ∀ y ∈ items', IsPrintedApart chars x y) :
    IsPrintedApart chars (.array items) (.array items') := by
  intro rest rest' _ _ hchars
  have hstart : ∀ x ∈ items ++ items', ∃ c text, x.chars = c :: text ∧ c ≠ ']' := by
    intro x hx
    have hfinite : ∀ z, HasReal z x → z.isFinite = true := fun z hz =>
      h.finite z ((List.mem_append.mp hx).imp (HasReal.item · hz) (HasReal.item · hz))
    obtain ⟨c, text, htext, hform⟩ := chars_start hfinite
    refine ⟨c, text, htext, ?_⟩
    rintro rfl
    cases x <;> exact absurd hform (by simp [form]; decide)
  have hseparated : List.intercalate [','] (items.map chars) ++ ']' :: rest =
      List.intercalate [','] (items'.map chars) ++ ']' :: rest' := by
    simpa [chars, itemChars_eq_map] using hchars
  obtain ⟨hlists, hrests⟩ := separated_unique (by decide) (by decide) hstart hitems hseparated
  exact ⟨congrArg array hlists, hrests⟩

private theorem object_unique {members members' : List (String × Json)}
    (hvalues : ∀ x ∈ members, ∀ y ∈ members', IsPrintedApart chars x.2 y.2) :
    IsPrintedApart chars (.object members) (.object members') := by
  intro rest rest' _ _ hchars
  have hmembers : ∀ x ∈ members, ∀ y ∈ members', IsPrintedApart memberText x y := by
    intro x hx y hy after after' hafter hafter' htexts
    have hquoted : quotedChars x.1 ++ (':' :: x.2.chars ++ after) =
        quotedChars y.1 ++ (':' :: y.2.chars ++ after') := by
      simpa [memberText] using htexts
    obtain ⟨hname, hafters⟩ := quotedChars_unique hquoted
    obtain ⟨hvalue, hrests⟩ := hvalues x hx y hy after after' hafter hafter' (List.cons.inj hafters).2
    exact ⟨Prod.ext hname hvalue, hrests⟩
  have hstart : ∀ x ∈ members ++ members', ∃ c text, memberText x = c :: text ∧ c ≠ '\x7d' :=
    fun x _ => ⟨'"', _, rfl, by decide⟩
  have hseparated : List.intercalate [','] (members.map memberText) ++ '\x7d' :: rest =
      List.intercalate [','] (members'.map memberText) ++ '\x7d' :: rest' := by
    simpa [chars, memberChars_eq_map] using hchars
  obtain ⟨hlists, hrests⟩ := separated_unique (by decide) (by decide) hstart hmembers hseparated
  exact ⟨congrArg object hlists, hrests⟩

private theorem chars_unique (v w : Json) (h : RealsApart v w) : IsPrintedApart chars v w := by
  induction hsize : sizeOf v using Nat.strongRecOn generalizing v w with
  | _ n ih =>
    subst hsize
    intro rest rest' hrest hrest' hchars
    have hform := form_eq_of_append h hchars
    cases v with
    | null =>
      obtain rfl : w = .null := by cases w <;> simp [form] at hform ⊢
      exact ⟨rfl, List.append_cancel_left hchars⟩
    | bool b =>
      obtain ⟨b', rfl⟩ : ∃ b', w = .bool b' := by cases w <;> simp [form] at hform ⊢
      cases b <;> cases b' <;> simp_all [chars]
    | number n =>
      obtain ⟨n', rfl⟩ : ∃ n', w = .number n' := by cases w <;> simp [form] at hform ⊢
      exact number_unique h rest rest' hrest hrest' hchars
    | string s =>
      obtain ⟨s', rfl⟩ : ∃ s', w = .string s' := by cases w <;> simp [form] at hform ⊢
      rw [chars, chars] at hchars
      obtain ⟨rfl, hrests⟩ := quotedChars_unique hchars
      exact ⟨rfl, hrests⟩
    | array items =>
      obtain ⟨items', rfl⟩ : ∃ items', w = .array items' := by cases w <;> simp [form] at hform ⊢
      refine array_unique h (fun x hx y hy => ih (sizeOf x) ?_ x y (h.item hx hy) rfl) rest rest'
        hrest hrest' hchars
      have hlt := List.sizeOf_lt_of_mem hx
      simp only [array.sizeOf_spec]
      omega
    | object members =>
      obtain ⟨members', rfl⟩ : ∃ members', w = .object members' := by
        cases w <;> simp [form] at hform ⊢
      refine object_unique (fun x hx y hy => ih (sizeOf x.2) ?_ x.2 y.2 (h.member hx hy) rfl) rest
        rest' hrest hrest' hchars
      have hlt := List.sizeOf_lt_of_mem hx
      have hpair : sizeOf x.2 < sizeOf x := by
        obtain ⟨key, value⟩ := x
        simp only [Prod.mk.sizeOf_spec]
        omega
      simp only [object.sizeOf_spec]
      omega

/-- Printed JSON determines the value. -/
theorem text_unique {v w : Json} (h : RealsApart v w) (htext : v.text = w.text) : v = w := by
  have hchars : v.chars ++ [] = w.chars ++ [] := by
    rw [String.ofList_injective htext]
  have hend : EndsNumber [] := by simp [EndsNumber]
  exact (chars_unique v w h [] [] hend hend hchars).1

end TenantGrid.Json
