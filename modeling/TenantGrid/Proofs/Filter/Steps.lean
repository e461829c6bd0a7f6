import Mathlib.Data.List.Forall2
/-!
# Steps that can fail

A request is compiled step by step, and its first failure ends it. What each step keeps, a whole run
keeps that comes to its end.
-/
namespace TenantGrid

variable {α α' β β' ε ε' : Type}

/-- Two steps in a row succeed if both of them do. -/
theorem bind_eq_ok {x : Except ε α} {f : α → Except ε β} {b : β} (h : x >>= f = .ok b) :
    ∃ a, x = .ok a ∧ f a = .ok b := by
  cases x with
  | error e => simp [bind, Except.bind] at h
  | ok a => exact ⟨a, rfl, h⟩

/-- Two steps in a row fail if the first of them does, or else the second. -/
theorem bind_eq_error {x : Except ε α} {f : α → Except ε β} {e : ε} :
    x >>= f = .error e ↔ x = .error e ∨ ∃ a, x = .ok a ∧ f a = .error e := by
  cases x with
  | error e' => simp [bind, Except.bind]
  | ok a => simp [bind, Except.bind]

theorem map_eq_ok {f : α → β} {x : Except ε α} {b : β} (h : x.map f = .ok b) :
    ∃ a, x = .ok a ∧ b = f a := by
  cases x with
  | error e => simp [Except.map] at h
  | ok a => exact ⟨a, rfl, (Except.ok.inj h).symm⟩

theorem map_eq_error {f : α → β} {x : Except ε α} {e : ε} : x.map f = .error e ↔ x = .error e := by
  cases x <;> simp [Except.map]

theorem mapError_eq_ok {f : ε → ε'} {x : Except ε α} {a : α} :
    x.mapError f = .ok a ↔ x = .ok a := by
  cases x <;> simp [Except.mapError]

theorem mapError_eq_error {f : ε → ε'} {x : Except ε α} {e' : ε'} :
    x.mapError f = .error e' ↔ ∃ e, x = .error e ∧ f e = e' := by
  cases x <;> simp [Except.mapError]

/-- Choices that share a branch come to the same if they do so in the other one. -/
theorem ite_eq_ok {p : Prop} [Decidable p] {g : α → β} {r x y : Except ε α} {a b : α}
    (ha : (if p then r else x) = .ok a) (hb : (if p then r else y) = .ok b)
    (h : x = .ok a → y = .ok b → g a = g b) : g a = g b := by
  by_cases hp : p
  · rw [if_pos hp] at ha hb
    rw [Except.ok.inj (ha.symm.trans hb)]
  · rw [if_neg hp] at ha hb
    exact h ha hb

theorem mapM_eq_ok {f : α → Except ε β} {xs : List α} {ys : List β} :
    xs.mapM f = .ok ys ↔ List.Forall₂ (fun x y => f x = .ok y) xs ys := by
  induction xs generalizing ys with
  | nil =>
    rw [List.mapM_nil, List.forall₂_nil_left_iff]
    exact ⟨fun h => (Except.ok.inj h).symm, fun h => congrArg Except.ok h.symm⟩
  | cons x rest ih =>
    rw [List.mapM_cons, List.forall₂_cons_left_iff]
    constructor
    · intro h
      obtain ⟨y, hy, h⟩ := bind_eq_ok h
      obtain ⟨zs, hrest, h⟩ := bind_eq_ok h
      exact ⟨y, zs, hy, ih.mp hrest, (Except.ok.inj h).symm⟩
    · rintro ⟨y, zs, hy, hrest, rfl⟩
      rw [hy, ih.mpr hrest]
      rfl

theorem length_of_mapM {f : α → Except ε β} {xs : List α} {ys : List β} (h : xs.mapM f = .ok ys) :
    ys.length = xs.length :=
  (mapM_eq_ok.mp h).length_eq.symm

theorem mem_of_mapM {f : α → Except ε β} {xs : List α} {ys : List β} (h : xs.mapM f = .ok ys)
    {y : β} : y ∈ ys ↔ ∃ x ∈ xs, f x = .ok y := by
  have hpairs := mapM_eq_ok.mp h
  clear h
  induction hpairs with
  | nil => simp
  | cons hhead _ ih => simp [ih, hhead, eq_comm]

theorem exists_of_mapM {f : α → Except ε β} {xs : List α} {ys : List β} (h : xs.mapM f = .ok ys)
    {x : α} (hx : x ∈ xs) : ∃ y, f x = .ok y := by
  have hpairs := mapM_eq_ok.mp h
  clear h
  induction hpairs with
  | nil => exact nomatch hx
  | cons hhead _ ih =>
    rcases List.mem_cons.mp hx with rfl | hx
    · exact ⟨_, hhead⟩
    · exact ih hx

/-- What holds at the start and after each step holds at the end. -/
theorem foldlM_induction {f : β → α → Except ε β} {motive : List α → β → Prop} {start : β}
    (hstart : motive [] start)
    (hstep : ∀ done a b b', motive done b → f b a = .ok b' → motive (done ++ [a]) b')
    {xs : List α} {b : β} (h : xs.foldlM f start = .ok b) : motive xs b := by
  -- The run is followed from any point of it, with what was done before.
  suffices hgeneral : ∀ done start, motive done start → xs.foldlM f start = .ok b →
      motive (done ++ xs) b from hgeneral [] start hstart h
  clear h hstart
  induction xs with
  | nil =>
    intro done start hdone h
    obtain rfl : start = b := by simpa [pure, Except.pure] using h
    simpa using hdone
  | cons a rest ih =>
    intro done start hdone h
    rw [List.foldlM_cons] at h
    obtain ⟨next, hnext, h⟩ := bind_eq_ok h
    simpa using ih (done ++ [a]) next (hstep done a start next hdone hnext) h

theorem foldlM_option_induction {f : β → α → Option β} {P : β → Prop} {as : List α}
    (hstep : ∀ b, ∀ a ∈ as, ∀ b', P b → f b a = some b' → P b') {b b' : β} (hb : P b)
    (h : as.foldlM f b = some b') : P b' := by
  induction as generalizing b with
  | nil => simpa [← Option.some.inj h] using hb
  | cons a rest ih =>
    rw [List.foldlM_cons, Option.bind_eq_bind, Option.bind_eq_some_iff] at h
    obtain ⟨next, hnext, hrest⟩ := h
    apply ih _ (hstep b a List.mem_cons_self next hb hnext) hrest
    exact fun b a ha => hstep b a (List.mem_cons_of_mem _ ha)

theorem findSome?_eq_some_of_agree {f : α → Option β} {as : List α} {b : β}
    (hall : ∀ a ∈ as, ∀ c, f a = some c → c = b) (hsome : ∃ a ∈ as, f a = some b) :
    as.findSome? f = some b := by
  cases hfound : as.findSome? f with
  | none =>
    obtain ⟨a, ha, hb⟩ := hsome
    rw [List.findSome?_eq_none_iff] at hfound
    exact nomatch hb.symm.trans (hfound a ha)
  | some c =>
    obtain ⟨a, ha, hc⟩ := List.exists_of_findSome?_eq_some hfound
    rw [hall a ha c hc]

/-- Two runs over related lists keep what each pair of steps keeps. -/
theorem foldlM_related {f : β → α → Except ε β} {f' : β' → α' → Except ε' β'}
    {related : α → α' → Prop} {motive : β → β' → Prop}
    (hstep : ∀ a a' b b' d d', related a a' → motive b b' → f b a = .ok d → f' b' a' = .ok d' →
      motive d d')
    {xs : List α} {xs' : List α'} (hxs : List.Forall₂ related xs xs') {b : β} {b' : β'}
    (hstart : motive b b') {d : β} {d' : β'} (h : xs.foldlM f b = .ok d)
    (h' : xs'.foldlM f' b' = .ok d') : motive d d' := by
  induction hxs generalizing b b' with
  | nil =>
    obtain rfl : b = d := by simpa [pure, Except.pure] using h
    obtain rfl : b' = d' := by simpa [pure, Except.pure] using h'
    exact hstart
  | cons hhead _ ih =>
    rw [List.foldlM_cons] at h h'
    obtain ⟨next, hnext, h⟩ := bind_eq_ok h
    obtain ⟨next', hnext', h'⟩ := bind_eq_ok h'
    exact ih (hstep _ _ _ _ _ _ hhead hstart hnext hnext') h h'

/-- Whether a run fails with an error at one of its steps, all before it having succeeded. -/
def FailsWith (step : β → α → Except ε β) (start : β) (xs : List α) (error : ε) : Prop :=
  ∃ before a after b, xs = before ++ a :: after ∧ before.foldlM step start = .ok b ∧
    step b a = .error error

/-- The error of a run is that of its first failure. -/
theorem foldlM_eq_error {step : β → α → Except ε β} {start : β} {xs : List α} {error : ε} :
    xs.foldlM step start = .error error ↔ FailsWith step start xs error := by
  constructor
  · intro h
    induction xs generalizing start with
    | nil => simp [pure, Except.pure] at h
    | cons a rest ih =>
      rw [List.foldlM_cons] at h
      cases hnext : step start a with
      | error e =>
        rw [hnext] at h
        obtain rfl : e = error := Except.error.inj h
        exact ⟨[], a, rest, start, rfl, rfl, hnext⟩
      | ok next =>
        rw [hnext] at h
        obtain ⟨before, a', after, b, rfl, hbefore, hstep⟩ := ih h
        refine ⟨a :: before, a', after, b, rfl, ?_, hstep⟩
        rw [List.foldlM_cons, hnext]
        exact hbefore
  · rintro ⟨before, a, after, b, rfl, hbefore, hstep⟩
    rw [List.foldlM_append, hbefore]
    change (a :: after).foldlM step b = .error error
    rw [List.foldlM_cons, hstep]
    rfl

/-- Whether an error is that of the first item that a function fails on. -/
def FirstFailure (f : α → Except ε β) (xs : List α) (error : ε) : Prop :=
  ∃ before a after, xs = before ++ a :: after ∧ (∀ b ∈ before, ∃ y, f b = .ok y) ∧
    f a = .error error

private theorem firstFailure_cons {f : α → Except ε β} {x : α} {rest : List α} {error : ε} :
    FirstFailure f (x :: rest) error ↔
      f x = .error error ∨ (∃ y, f x = .ok y) ∧ FirstFailure f rest error := by
  constructor
  · rintro ⟨before, a, after, hsplit, hbefore, ha⟩
    cases before with
    | nil =>
      obtain ⟨rfl, rfl⟩ := List.cons.inj hsplit
      exact Or.inl ha
    | cons b before =>
      obtain ⟨rfl, rfl⟩ := List.cons.inj hsplit
      exact Or.inr ⟨hbefore x (by simp), before, a, after, rfl, fun b hb => hbefore b (by simp [hb]), ha⟩
  · rintro (hx | ⟨hx, before, a, after, rfl, hbefore, ha⟩)
    · exact ⟨[], x, rest, rfl, by simp, hx⟩
    · exact ⟨x :: before, a, after, rfl, by simpa using ⟨hx, hbefore⟩, ha⟩

/-- The error of a list is that of the first item that fails. -/
theorem mapM_eq_error {f : α → Except ε β} {xs : List α} {error : ε} :
    xs.mapM f = .error error ↔ FirstFailure f xs error := by
  induction xs with
  | nil => simp [FirstFailure, pure, Except.pure]
  | cons x rest ih =>
    have hrest : ∀ y, (rest.mapM f >>= fun ys => pure (y :: ys)) = .error error ↔
        rest.mapM f = .error error := by
      intro y
      rw [bind_eq_error]
      simp [pure, Except.pure]
    simp only [List.mapM_cons, bind_eq_error, hrest, ih, firstFailure_cons, exists_and_right]

/-- What is made of results changes nothing about the first failure. -/
theorem firstFailure_of_map {f : α → Except ε β} {g : α → Except ε α'} {h : α' → β} {xs : List α}
    (hfg : ∀ x ∈ xs, f x = (g x).map h) {error : ε} :
    FirstFailure f xs error ↔ FirstFailure g xs error := by
  induction xs with
  | nil => simp [FirstFailure]
  | cons x rest ih =>
    have hok : (∃ y, f x = .ok y) ↔ ∃ y, g x = .ok y := by
      rw [hfg x (by simp)]
      cases g x <;> simp [Except.map]
    rw [firstFailure_cons, firstFailure_cons, hok, ih fun a ha => hfg a (by simp [ha]),
      hfg x (by simp), map_eq_error]

/-- Whether two runs fail with the same error or come to related results. -/
inductive SameOutcome (related : α → β → Prop) : Except ε α → Except ε β → Prop
  | error (e : ε) : SameOutcome related (.error e) (.error e)
  | ok {a : α} {b : β} (h : related a b) : SameOutcome related (.ok a) (.ok b)

theorem SameOutcome.refl (x : Except ε α) : SameOutcome Eq x x := by
  cases x with
  | error e => exact .error e
  | ok a => exact .ok rfl

theorem SameOutcome.eq_error_iff {related : α → β → Prop} {x : Except ε α} {y : Except ε β}
    (h : SameOutcome related x y) {e : ε} : x = .error e ↔ y = .error e := by
  cases h with
  | error e' => simp
  | ok h => simp

theorem SameOutcome.imp {related related' : α → β → Prop} {x : Except ε α} {y : Except ε β}
    (h : SameOutcome related x y) (himp : ∀ a b, related a b → related' a b) :
    SameOutcome related' x y := by
  cases h with
  | error e => exact .error e
  | ok h => exact .ok (himp _ _ h)

theorem SameOutcome.bind {related : α → β → Prop} {related' : α' → β' → Prop} {x : Except ε α}
    {y : Except ε β} (h : SameOutcome related x y) {f : α → Except ε α'} {g : β → Except ε β'}
    (hstep : ∀ a b, x = .ok a → y = .ok b → related a b → SameOutcome related' (f a) (g b)) :
    SameOutcome related' (x >>= f) (y >>= g) := by
  cases h with
  | error e => exact .error e
  | ok h => exact hstep _ _ rfl rfl h

theorem SameOutcome.map {related : α → β → Prop} {related' : α' → β' → Prop} {x : Except ε α}
    {y : Except ε β} (h : SameOutcome related x y) {f : α → α'} {g : β → β'}
    (hmap : ∀ a b, related a b → related' (f a) (g b)) : SameOutcome related' (x.map f) (y.map g) := by
  cases h with
  | error e => exact .error e
  | ok h => exact .ok (hmap _ _ h)

theorem SameOutcome.mapError {related : α → β → Prop} {x : Except ε α} {y : Except ε β}
    (h : SameOutcome related x y) (f : ε → ε') :
    SameOutcome related (x.mapError f) (y.mapError f) := by
  cases h with
  | error e => exact .error (f e)
  | ok h => exact .ok h

/-- Two runs over one list fail alike if each pair of steps does. -/
theorem SameOutcome.foldlM {related : β → β' → Prop} {f : β → α → Except ε β}
    {g : β' → α → Except ε β'}
    (hstep : ∀ b b' a, related b b' → SameOutcome related (f b a) (g b' a)) (xs : List α) {b : β}
    {b' : β'} (hstart : related b b') : SameOutcome related (xs.foldlM f b) (xs.foldlM g b') := by
  induction xs generalizing b b' with
  | nil => exact .ok hstart
  | cons a rest ih =>
    rw [List.foldlM_cons, List.foldlM_cons]
    exact (hstep b b' a hstart).bind fun _ _ _ _ => ih

end TenantGrid
