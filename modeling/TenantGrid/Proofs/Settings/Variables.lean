import TenantGrid.Proofs.Filter.Steps
import TenantGrid.Proofs.Text.Runs
import TenantGrid.Settings.Variables
/-!
# Texts with references

A text splits in one way into plain characters, dollar signs that stand for themselves and references: in
braces, bare with the longest name that there is, or with a brace that is open to the end of the text. It
is expanded if every name is set, an open brace notwithstanding, and otherwise the first name that is not
set is reported.
-/
namespace TenantGrid.Settings

/-- A part of a text as it is written. -/
inductive WrittenPart where
  | plain (c : Char)
  /-- A dollar sign that refers to nothing. -/
  | dollar
  | closed (name : List Char)
  | bare (name : List Char)
  /-- A reference whose brace is not closed. -/
  | unclosed (name : List Char)

namespace WrittenPart

def chars : WrittenPart → List Char
  | plain c => [c]
  | dollar => ['$']
  | closed name => '$' :: '\x7b' :: (name ++ ['\x7d'])
  | bare name => '$' :: name
  | unclosed name => '$' :: '\x7b' :: name

/-- Whether a part ends where it does if the rest follows it. A bare name is as long as it can be. -/
def EndsBefore (rest : List Char) : WrittenPart → Prop
  | plain c => c ≠ '$'
  | dollar => ∀ c ∈ rest.head?, c ≠ '\x7b' ∧ isNameChar c = false
  | closed name => '\x7d' ∉ name
  | bare name => name ≠ [] ∧ (∀ c ∈ name, isNameChar c = true) ∧
      ∀ c ∈ rest.head?, isNameChar c = false
  | unclosed name => '\x7d' ∉ name ∧ rest = []

/-- The variable that a part refers to. -/
def name? : WrittenPart → Option String
  | closed name | bare name | unclosed name => some (String.ofList name)
  | _ => none

def IsSet (environment : Environment) (part : WrittenPart) : Prop :=
  ∀ name, part.name? = some name → ∃ value, environment name = some value

/-- What stands in the place of a part: what its variable holds, or else the part itself. -/
def expansion (environment : Environment) (part : WrittenPart) : List Char :=
  match part.name? >>= environment with
  | some value => value.toList
  | none => part.chars

end WrittenPart

/-- How a text splits into parts, from left to right. -/
inductive Splits : List Char → List WrittenPart → Prop
  | nil : Splits [] []
  | cons {part : WrittenPart} {rest : List Char} {parts : List WrittenPart}
      (hpart : part.EndsBefore rest) (hrest : Splits rest parts) :
      Splits (part.chars ++ rest) (part :: parts)

/-- A part as it is read. -/
def WrittenPart.read : WrittenPart → TextPart
  | plain c => .char c
  | dollar => .char '$'
  | closed name | bare name | unclosed name => .reference (String.ofList name)

private theorem not_isNameChar_brace : isNameChar '\x7b' = false := by
  simp only [isNameChar, Text.isAlphanumeric, Text.inRanges, ← Array.any_toList]
  decide +kernel

private theorem textParts_plain {c : Char} (h : c ≠ '$') (rest : List Char) :
    textParts (c :: rest) = .char c :: textParts rest := by
  rw [textParts]
  · exact fun _ hc => absurd hc h
  · exact h

private theorem textParts_brace (rest : List Char) :
    textParts ('$' :: '\x7b' :: rest) =
      .reference (String.ofList (rest.takeWhile (· != '\x7d'))) ::
        textParts (rest.drop ((rest.takeWhile (· != '\x7d')).length + 1)) := by
  rw [textParts]

private theorem textParts_dollar {rest : List Char} (h : rest.head? ≠ some '\x7b') :
    textParts ('$' :: rest) =
      if (rest.takeWhile isNameChar).isEmpty then .char '$' :: textParts rest
      else .reference (String.ofList (rest.takeWhile isNameChar)) ::
        textParts (rest.drop (rest.takeWhile isNameChar).length) := by
  rw [textParts]
  rintro _ rfl
  exact h rfl

private theorem bare_head? {name rest : List Char} (h : (WrittenPart.bare name).EndsBefore rest) :
    (name ++ rest).head? ≠ some '\x7b' := by
  obtain ⟨hsome, hname, -⟩ := h
  obtain ⟨c, more, rfl⟩ := List.exists_cons_of_ne_nil hsome
  rintro ⟨⟩
  exact absurd (hname '\x7b' List.mem_cons_self) (by simp [not_isNameChar_brace])

private theorem textParts_append {part : WrittenPart} {rest : List Char}
    (h : part.EndsBefore rest) : textParts (part.chars ++ rest) = part.read :: textParts rest := by
  have hinside {name : List Char} (hname : '\x7d' ∉ name) : ∀ c ∈ name, (c != '\x7d') = true := by
    intro c hc
    rw [bne_iff_ne]
    rintro rfl
    exact hname hc
  cases part with
  | plain c => exact textParts_plain h rest
  | dollar =>
    have hbrace : rest.head? ≠ some '\x7b' := fun hc => (h _ hc).1 rfl
    have hname : rest.takeWhile isNameChar = [] := Text.takeWhile_end fun c hc => (h c hc).2
    change textParts ('$' :: rest) = _
    rw [textParts_dollar hbrace, hname]
    rfl
  | closed name =>
    have hname : (name ++ '\x7d' :: rest).takeWhile (· != '\x7d') = name :=
      Text.takeWhile_run (hinside h) (by simp)
    have hchars : (WrittenPart.closed name).chars ++ rest =
        '$' :: '\x7b' :: (name ++ '\x7d' :: rest) := by
      simp [WrittenPart.chars]
    rw [hchars, textParts_brace, hname, ← List.drop_drop, List.drop_left]
    rfl
  | bare name =>
    have hbrace := bare_head? h
    obtain ⟨hsome, hname, hrest⟩ := h
    have hrun := Text.takeWhile_run hname hrest
    change textParts ('$' :: (name ++ rest)) = _
    rw [textParts_dollar hbrace, hrun, if_neg (by simpa using hsome), List.drop_left]
    rfl
  | unclosed name =>
    obtain ⟨hname, rfl⟩ := h
    have hrun : (name ++ []).takeWhile (· != '\x7d') = name := Text.takeWhile_run (hinside hname) nofun
    change textParts ('$' :: '\x7b' :: (name ++ [])) = _
    rw [textParts_brace, hrun, List.append_nil, List.drop_of_length_le (Nat.le_succ _)]
    rfl

private theorem textParts_of_splits {text : List Char} {parts : List WrittenPart}
    (h : Splits text parts) : textParts text = parts.map WrittenPart.read := by
  induction h with
  | nil => rw [textParts, List.map_nil]
  | cons hpart _ ih => rw [textParts_append hpart, ih, List.map_cons]

private theorem exists_splits (text : List Char) : ∃ parts, Splits text parts := by
  -- One case a branch of the reader; a name in braces has two, by what stops it.
  induction text using textParts.induct with
  | case1 => exact ⟨[], .nil⟩
  | case2 rest name ih =>
    obtain ⟨parts, hparts⟩ := ih
    obtain ⟨hsplit, hinside, hend⟩ := Text.run_split (· != '\x7d') rest
    have hname : '\x7d' ∉ name := fun hmem => absurd (hinside '\x7d' hmem) (by simp)
    rw [List.drop_add_one_eq_tail_drop] at hparts
    cases hafter : rest.drop name.length with
    | nil =>
      have hchars : '$' :: '\x7b' :: rest = (WrittenPart.unclosed name).chars ++ [] := by
        rw [hsplit, hafter]
        rfl
      rw [hchars]
      exact ⟨_, .cons ⟨hname, rfl⟩ .nil⟩
    | cons c after =>
      have hc : c = '\x7d' := by simpa [name, hafter] using hend c
      have hchars : '$' :: '\x7b' :: rest = (WrittenPart.closed name).chars ++ after := by
        rw [hsplit, hafter, hc]
        simp [WrittenPart.chars, name]
      rw [hafter] at hparts
      rw [hchars]
      exact ⟨_, .cons hname hparts⟩
  | case3 rest hbrace name hempty ih =>
    obtain ⟨parts, hparts⟩ := ih
    obtain ⟨-, -, hend⟩ := Text.run_split isNameChar rest
    have hnone : rest.takeWhile isNameChar = [] := List.isEmpty_iff.mp hempty
    rw [hnone] at hend
    have hpart : WrittenPart.dollar.EndsBefore rest := by
      intro c hc
      refine ⟨?_, hend c hc⟩
      rintro rfl
      obtain ⟨more, rfl⟩ := List.head?_eq_some_iff.mp hc
      exact hbrace more rfl
    exact ⟨_, .cons hpart hparts⟩
  | case4 rest hbrace name hsome ih =>
    obtain ⟨parts, hparts⟩ := ih
    obtain ⟨hsplit, hinside, hend⟩ := Text.run_split isNameChar rest
    have hchars : '$' :: rest = (WrittenPart.bare name).chars ++ rest.drop name.length := by
      rw [WrittenPart.chars, List.cons_append, ← hsplit]
    rw [hchars]
    exact ⟨_, .cons ⟨fun h => hsome (by rw [h]; rfl), hinside, hend⟩ hparts⟩
  | case5 c rest _ hc ih =>
    obtain ⟨parts, hparts⟩ := ih
    have hpart : (WrittenPart.plain c).EndsBefore rest := hc
    exact ⟨_, .cons hpart hparts⟩

private theorem bare_ne_brace {name rest rest' : List Char}
    (h : (WrittenPart.bare name).EndsBefore rest) :
    (WrittenPart.bare name).chars ++ rest ≠ '$' :: '\x7b' :: rest' := by
  intro hchars
  have hrest : name ++ rest = '\x7b' :: rest' := (List.cons.inj hchars).2
  exact bare_head? h (by rw [hrest, List.head?_cons])

private theorem closed_ne_unclosed {name other rest rest' : List Char}
    (h : (WrittenPart.unclosed other).EndsBefore rest') :
    (WrittenPart.closed name).chars ++ rest ≠ (WrittenPart.unclosed other).chars ++ rest' := by
  obtain ⟨hother, rfl⟩ := h
  intro hchars
  have hname : name ++ ['\x7d'] ++ rest = other := by
    simpa [WrittenPart.chars] using hchars
  exact hother (by simp [← hname])

private theorem WrittenPart.EndsBefore.unique {part other : WrittenPart} {rest rest' : List Char}
    (hpart : part.EndsBefore rest) (hother : other.EndsBefore rest')
    (h : part.chars ++ rest = other.chars ++ rest') : part = other := by
  have hread : part.read = other.read := by
    have hparts := congrArg textParts h
    rw [textParts_append hpart, textParts_append hother] at hparts
    exact (List.cons.inj hparts).1
  -- The reader forgets how a name was written, so that references are also told apart by their text.
  cases part <;> cases other <;>
    simp only [WrittenPart.read, reduceCtorEq, TextPart.char.injEq, TextPart.reference.injEq,
      String.ofList_inj] at hread
  case plain.plain => rw [hread]
  case plain.dollar => exact absurd hread hpart
  case dollar.plain => exact absurd hread.symm hother
  case dollar.dollar => rfl
  case closed.closed => rw [hread]
  case closed.bare => exact absurd h.symm (bare_ne_brace hother)
  case closed.unclosed => exact absurd h (closed_ne_unclosed hother)
  case bare.closed => exact absurd h (bare_ne_brace hpart)
  case bare.bare => rw [hread]
  case bare.unclosed => exact absurd h (bare_ne_brace hpart)
  case unclosed.closed => exact absurd h.symm (closed_ne_unclosed hpart)
  case unclosed.bare => exact absurd h.symm (bare_ne_brace hother)
  case unclosed.unclosed => rw [hread]

private theorem chars_ne_nil (part : WrittenPart) : part.chars ≠ [] := by
  cases part <;> exact List.cons_ne_nil _ _

private theorem Splits.unique {text : List Char} {parts others : List WrittenPart}
    (h : Splits text parts) (hothers : Splits text others) : others = parts := by
  induction h generalizing others with
  | nil =>
    generalize htext : ([] : List Char) = text at hothers
    cases hothers with
    | nil => rfl
    | cons _ _ => exact absurd (List.append_eq_nil_iff.mp htext.symm).1 (chars_ne_nil _)
  | @cons part rest parts hpart hrest ih =>
    generalize htext : part.chars ++ rest = text at hothers
    cases hothers with
    | nil => exact absurd (List.append_eq_nil_iff.mp htext).1 (chars_ne_nil part)
    | cons hother hothers =>
      obtain rfl := hpart.unique hother htext
      obtain rfl := List.append_cancel_left htext
      rw [ih hothers]

variable {environment : Environment}

/-- What stands in the place of a part, if its variable is set. -/
def partText (environment : Environment) (part : WrittenPart) : Except SettingsError (List Char) :=
  match part.name? with
  | none => .ok part.chars
  | some name =>
    match environment name with
    | some value => .ok value.toList
    | none => .error (.missingVariable name)

private theorem partText_eq_ok {part : WrittenPart} {text : List Char} :
    partText environment part = .ok text ↔
      part.IsSet environment ∧ part.expansion environment = text := by
  unfold partText WrittenPart.IsSet WrittenPart.expansion
  cases hname : part.name? with
  | none => simp
  | some name => cases hvalue : environment name <;> simp [hvalue]

private theorem partText_eq_error {part : WrittenPart} {error : SettingsError} :
    partText environment part = .error error ↔
      ∃ name, part.name? = some name ∧ environment name = none ∧ error = .missingVariable name := by
  unfold partText
  cases hname : part.name? with
  | none => simp
  | some name => cases hvalue : environment name <;> simp [hvalue, eq_comm]

private theorem expandVariables_eq {text : String} {parts : List WrittenPart}
    (h : Splits text.toList parts) :
    expandVariables environment text =
      (parts.mapM (partText environment)).map fun texts => String.ofList texts.flatten := by
  -- The step that the expansion takes has no name here and is known by its values.
  have hread : ∀ f : TextPart → Except SettingsError (List Char), (∀ c, f (.char c) = .ok [c]) →
      (∀ name, f (.reference name) = match environment name with
        | some value => .ok value.toList
        | none => .error (.missingVariable name)) →
      ∀ part : WrittenPart, f part.read = partText environment part := by
    intro f hchar hreference part
    cases part with
    | plain c => exact hchar c
    | dollar => exact hchar '$'
    | closed name => exact hreference _
    | bare name => exact hreference _
    | unclosed name => exact hreference _
  unfold expandVariables
  rw [textParts_of_splits h, List.mapM_map]
  rw [show (_ ∘ WrittenPart.read) = partText environment from
    funext (hread _ (fun _ => rfl) fun _ => rfl)]
  cases parts.mapM (partText environment) <;> rfl

private theorem mapM_partText_eq_ok {parts : List WrittenPart} {texts : List (List Char)} :
    parts.mapM (partText environment) = .ok texts ↔
      (∀ part ∈ parts, part.IsSet environment) ∧ parts.map (·.expansion environment) = texts := by
  rw [mapM_eq_ok, ← List.forall₂_eq_eq_eq, List.forall₂_map_left_iff, ← List.forall₂_and_left]
  simp only [partText_eq_ok]

private theorem expandVariables_eq_ok {text result : String} {parts : List WrittenPart}
    (h : Splits text.toList parts) :
    expandVariables environment text = .ok result ↔
      (∀ part ∈ parts, part.IsSet environment) ∧
        result = String.ofList (parts.flatMap (·.expansion environment)) := by
  rw [expandVariables_eq h, List.flatMap_def]
  constructor
  · intro hresult
    obtain ⟨texts, htexts, rfl⟩ := map_eq_ok hresult
    obtain ⟨hset, rfl⟩ := mapM_partText_eq_ok.mp htexts
    exact ⟨hset, rfl⟩
  · rintro ⟨hset, rfl⟩
    rw [mapM_partText_eq_ok.mpr ⟨hset, rfl⟩]
    rfl

private theorem expandVariables_eq_error {text : String} {error : SettingsError}
    {parts : List WrittenPart} (h : Splits text.toList parts) :
    expandVariables environment text = .error error ↔
      ∃ before part after name, parts = before ++ part :: after ∧
        (∀ earlier ∈ before, earlier.IsSet environment) ∧ part.name? = some name ∧
        environment name = none ∧ error = .missingVariable name := by
  have hset (part : WrittenPart) :
      (∃ text, partText environment part = .ok text) ↔ part.IsSet environment := by
    simp [partText_eq_ok]
  rw [expandVariables_eq h, map_eq_error, mapM_eq_error]
  simp only [FirstFailure, hset, partText_eq_error, exists_and_left]

/-- A text splits in one way, and it is expanded if all names are set, each reference being replaced by
what its variable holds; otherwise the first name that is not set is reported. A name is also looked up
if its brace is not closed. -/
theorem references_expanded (environment : Environment) (text : String) :
    ∃ parts, Splits text.toList parts ∧
      (∀ others, Splits text.toList others → others = parts) ∧
      (∀ result, expandVariables environment text = .ok result ↔
        (∀ part ∈ parts, part.IsSet environment) ∧
          result = String.ofList (parts.flatMap (·.expansion environment))) ∧
      ∀ error, expandVariables environment text = .error error ↔
        ∃ before part after name, parts = before ++ part :: after ∧
          (∀ earlier ∈ before, earlier.IsSet environment) ∧ part.name? = some name ∧
          environment name = none ∧ error = .missingVariable name := by
  obtain ⟨parts, hparts⟩ := exists_splits text.toList
  exact ⟨parts, hparts, fun others hothers => hparts.unique hothers,
    fun result => expandVariables_eq_ok hparts, fun error => expandVariables_eq_error hparts⟩

/-- A reference is expanded although its brace is not closed. -/
theorem unclosed_reference_expanded :
    expandVariables (fun name => if name = "ROSTER_TEST_VAR" then some "hello" else none)
        "$\x7bROSTER_TEST_VAR" = .ok "hello" ∧
      ∀ parts, Splits "$\x7bROSTER_TEST_VAR".toList parts → .unclosed "ROSTER_TEST_VAR".toList ∈ parts := by
  have hpart : (WrittenPart.unclosed "ROSTER_TEST_VAR".toList).EndsBefore [] := ⟨by decide, rfl⟩
  have hsplits : Splits "$\x7bROSTER_TEST_VAR".toList [.unclosed "ROSTER_TEST_VAR".toList] := .cons hpart .nil
  refine ⟨(expandVariables_eq_ok hsplits).mpr ⟨?_, by decide⟩, ?_⟩
  · simp [WrittenPart.IsSet, WrittenPart.name?]
  · intro parts hparts
    rw [hsplits.unique hparts]
    exact List.mem_singleton_self _

end TenantGrid.Settings
