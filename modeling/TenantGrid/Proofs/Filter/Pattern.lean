import Mathlib.Data.List.Forall2
import Mathlib.Data.Setoid.Basic
import TenantGrid.Proofs.Filter.Test
import TenantGrid.Proofs.Sql.Plain
/-!
# Patterns that match literally

A pattern operator escapes the wildcards of the text that it is given and puts wildcards of its own at
its ends. The pattern then has one exact part for each character of the text, and matches the stored
texts that have the given one at their beginning, at their end or anywhere. Which characters match when
case is ignored is left to the store, and may be any equivalence.
-/
namespace TenantGrid

open Sql (Collation Database Env Expr Value)

namespace Sql

/-- How the parts of a pattern match a text. Characters match that are alike. -/
inductive Matches (alike : Char → Char → Prop) : List PatternPart → List Char → Prop
  | nil : Matches alike [] []
  | run {parts : List PatternPart} {text : List Char} (skipped : List Char)
    (h : Matches alike parts text) : Matches alike (.run :: parts) (skipped ++ text)
  | one {parts : List PatternPart} {text : List Char} (d : Char)
    (h : Matches alike parts text) : Matches alike (.one :: parts) (d :: text)
  | exact {parts : List PatternPart} {text : List Char} {c d : Char} (hd : alike c d)
    (h : Matches alike parts text) : Matches alike (.exact c :: parts) (d :: text)

section Parts

variable {alike : Char → Char → Prop} {parts : List PatternPart} {text : List Char}

private theorem matches_nil : Matches alike [] text ↔ text = [] := by
  constructor
  · rintro ⟨⟩
    rfl
  · rintro rfl
    exact .nil

private theorem matches_run :
    Matches alike (.run :: parts) text ↔ ∃ rest, rest <:+ text ∧ Matches alike parts rest := by
  constructor
  · rintro ⟨⟩
    rename_i rest skipped h
    exact ⟨rest, ⟨skipped, rfl⟩, h⟩
  · rintro ⟨rest, ⟨skipped, rfl⟩, h⟩
    exact .run skipped h

private theorem matches_one :
    Matches alike (.one :: parts) text ↔ ∃ d rest, text = d :: rest ∧ Matches alike parts rest := by
  constructor
  · rintro ⟨⟩
    exact ⟨_, _, rfl, ‹_›⟩
  · rintro ⟨d, rest, rfl, h⟩
    exact .one d h

private theorem matches_exact {c : Char} :
    Matches alike (.exact c :: parts) text ↔
      ∃ d rest, text = d :: rest ∧ alike c d ∧ Matches alike parts rest := by
  constructor
  · rintro ⟨⟩
    exact ⟨_, _, rfl, ‹_›, ‹_›⟩
  · rintro ⟨d, rest, rfl, hd, h⟩
    exact .exact hd h

private theorem matches_exacts {literal : List Char} :
    Matches alike (literal.map .exact ++ parts) text ↔
      ∃ found rest, text = found ++ rest ∧ List.Forall₂ alike literal found ∧
        Matches alike parts rest := by
  induction literal generalizing text with
  | nil => simp
  | cons c literal ih =>
    rw [List.map_cons, List.cons_append, matches_exact]
    constructor
    · rintro ⟨d, text, rfl, hd, h⟩
      obtain ⟨found, rest, rfl, hfound, hrest⟩ := ih.mp h
      exact ⟨d :: found, rest, rfl, .cons hd hfound, hrest⟩
    · rintro ⟨_, rest, rfl, hliteral, hrest⟩
      obtain ⟨d, found, hd, hfound, rfl⟩ := List.forall₂_cons_left_iff.mp hliteral
      exact ⟨d, found ++ rest, rfl, hd, ih.mpr ⟨found, rest, rfl, hfound, hrest⟩⟩

end Parts

private theorem matchesParts_eq_true {fold : Char → Char} {parts : List PatternPart}
    {text : List Char} :
    matchesParts fold parts text = true ↔ Matches (fun c d => fold c = fold d) parts text := by
  induction parts generalizing text with
  | nil => rw [matches_nil, matchesParts, List.isEmpty_iff]
  | cons part parts ih =>
    cases part with
    | run => simp only [matchesParts, matches_run, List.any_eq_true, List.mem_tails, ih]
    | one => cases text <;> simp [matchesParts, matches_one, ih]
    | exact c => cases text <;> simp [matchesParts, matches_exact, ih]

namespace Collation

/-- Whether a store that ignores case tells characters apart just if they are not alike. -/
def Ignores (c : Collation) (alike : Setoid Char) : Prop :=
  ∀ a b, c.fold a = c.fold b ↔ alike a b

private theorem exists_ignores (alike : Setoid Char) : ∃ c : Collation, c.Ignores alike := by
  refine ⟨{ Collation.plain with fold := fun a => (Quotient.mk alike a).out }, fun a b => ?_⟩
  rw [Quotient.out_inj]
  exact Quotient.eq

private theorem Ignores.matchesParts {c : Collation} {alike : Setoid Char} (h : c.Ignores alike)
    {parts : List PatternPart} {text : List Char} :
    Sql.matchesParts c.fold parts text = true ↔ Matches alike parts text := by
  have heq : (fun a b => c.fold a = c.fold b) = (alike : Char → Char → Prop) := by
    funext a b
    exact propext (h a b)
  rw [matchesParts_eq_true, heq]

end Collation

end Sql

/-- Whether each escape in a pattern comes before a character that would mean something else without
it, and none is left over at the end. -/
inductive IsWellEscaped : List Char → Prop
  | nil : IsWellEscaped []
  | plain {c : Char} {rest : List Char} (hc : c ≠ escapeChar) (h : IsWellEscaped rest) :
    IsWellEscaped (c :: rest)
  | escaped {c : Char} {rest : List Char} (hc : c = '%' ∨ c = '_' ∨ c = escapeChar)
    (h : IsWellEscaped rest) : IsWellEscaped (escapeChar :: c :: rest)

private theorem escapedPattern_isWellEscaped (text : List Char) {rest : List Char}
    (h : IsWellEscaped rest) : IsWellEscaped (escapedPattern text ++ rest) := by
  induction text with
  | nil => exact h
  | cons c text ih =>
    rw [escapedPattern]
    split
    · exact .escaped ‹_› ih
    · exact .plain (fun hc => ‹¬ _› (Or.inr (Or.inr hc))) ih

theorem Sql.patternParts?_cons {escape : Option Char} {c : Char} (rest : List Char)
    (hc : escape ≠ some c) :
    patternParts? escape (c :: rest) = (patternParts? escape rest).map fun parts =>
      (if c = '%' then .run else if c = '_' then .one else .exact c) :: parts := by
  cases rest <;> exact if_neg hc

private theorem Sql.patternParts?_escape (c next : Char) (rest : List Char) :
    patternParts? (some c) (c :: next :: rest) =
      (patternParts? (some c) rest).map (.exact next :: ·) :=
  if_pos rfl

private theorem patternParts?_escaped (text rest : List Char) :
    Sql.patternParts? (some escapeChar) (escapedPattern text ++ rest) =
      (Sql.patternParts? (some escapeChar) rest).map (text.map .exact ++ ·) := by
  induction text with
  | nil => simp [escapedPattern]
  | cons c text ih =>
    rw [escapedPattern]
    split
    · rw [List.cons_append, List.cons_append, Sql.patternParts?_escape, ih]
      simp [Function.comp_def]
    · rename_i hc
      obtain ⟨hrun, hone, hescape⟩ : c ≠ '%' ∧ c ≠ '_' ∧ c ≠ escapeChar := by simpa using hc
      rw [List.cons_append, Sql.patternParts?_cons _ (by simpa using hescape.symm), ih]
      simp [hrun, hone, Function.comp_def]

/-- The pattern of a text between wildcards, where there are any. -/
def literalPattern (before after : Bool) (text : String) : String :=
  (if before then "%" else "") ++ escapeLike text ++ (if after then "%" else "")

private theorem literalPattern_isWellEscaped (before after : Bool) (text : String) :
    IsWellEscaped (literalPattern before after text).toList := by
  have hend : IsWellEscaped (if after then "%" else "").toList := by
    cases after
    · exact .nil
    · exact .plain (by decide) .nil
  have htext := escapedPattern_isWellEscaped text.toList hend
  cases before with
  | false => simpa [literalPattern, escapeLike] using htext
  | true => simpa [literalPattern, escapeLike] using IsWellEscaped.plain (c := '%') (by decide) htext

theorem patternParts?_literal (before after : Bool) (text : String) :
    Sql.patternParts? (some escapeChar) (literalPattern before after text).toList =
      some ((if before then [.run] else []) ++
        (text.toList.map .exact ++ if after then [.run] else [])) := by
  have hend : Sql.patternParts? (some escapeChar) (if after then "%" else "").toList =
      some (if after then [.run] else []) := by
    cases after <;> rfl
  have htext := patternParts?_escaped text.toList (if after then "%" else "").toList
  rw [hend] at htext
  cases before with
  | false => simpa [literalPattern, escapeLike] using htext
  | true =>
    have hstart := @Sql.patternParts?_cons (some escapeChar) '%'
      (escapedPattern text.toList ++ (if after then "%" else "").toList) (by decide)
    rw [htext] at hstart
    simpa [literalPattern, escapeLike] using hstart

namespace Operator

/-- Whether an operator compares with a pattern whose text stands for itself. -/
def IsLiteral (escapeNegated : Bool) : Operator → Prop
  | startsWith | endsWith | contains => True
  | doesNotContain => escapeNegated = true
  | _ => False

/-- Whether a stored text is one that a pattern operator looks for. -/
def Finds (alike : Setoid Char) (text stored : List Char) : Operator → Prop
  | startsWith => ∃ found, List.Forall₂ alike text found ∧ found <+: stored
  | endsWith => ∃ found, List.Forall₂ alike text found ∧ found <:+ stored
  | contains => ∃ found, List.Forall₂ alike text found ∧ found <:+: stored
  | doesNotContain => ¬ ∃ found, List.Forall₂ alike text found ∧ found <:+: stored
  | _ => False

end Operator

section Finds

variable {alike : Setoid Char} {text stored : List Char}

private theorem matches_startsWith :
    Sql.Matches alike (text.map .exact ++ [.run]) stored ↔
      Operator.startsWith.Finds alike text stored := by
  simp only [Sql.matches_exacts, Sql.matches_run, Sql.matches_nil, Operator.Finds]
  constructor
  · rintro ⟨found, rest, rfl, hfound, _⟩
    exact ⟨found, hfound, rest, rfl⟩
  · rintro ⟨found, hfound, rest, rfl⟩
    exact ⟨found, rest, rfl, hfound, [], List.nil_suffix, rfl⟩

private theorem matches_endsWith :
    Sql.Matches alike (.run :: (text.map .exact ++ [])) stored ↔
      Operator.endsWith.Finds alike text stored := by
  simp only [Sql.matches_run, Sql.matches_exacts, Sql.matches_nil, Operator.Finds]
  constructor
  · rintro ⟨_, hsuffix, found, _, rfl, hfound, rfl⟩
    exact ⟨found, hfound, by simpa using hsuffix⟩
  · rintro ⟨found, hfound, hsuffix⟩
    exact ⟨found, hsuffix, found, [], by simp, hfound, rfl⟩

private theorem matches_contains :
    Sql.Matches alike (.run :: (text.map .exact ++ [.run])) stored ↔
      Operator.contains.Finds alike text stored := by
  rw [Sql.matches_run]
  simp only [matches_startsWith, Operator.Finds]
  constructor
  · rintro ⟨rest, hsuffix, found, hfound, hprefix⟩
    exact ⟨found, hfound, hprefix.isInfix.trans hsuffix.isInfix⟩
  · rintro ⟨found, hfound, front, back, rfl⟩
    exact ⟨found ++ back, ⟨front, by simp⟩, found, hfound, List.prefix_append _ _⟩

end Finds

/-- The pattern that an operator makes of a text. -/
def Operator.pattern (text : String) : Operator → String
  | startsWith => literalPattern false true text
  | endsWith => literalPattern true false text
  | _ => literalPattern true true text

private theorem Operator.pattern_isWellEscaped (op : Operator) (text : String) :
    IsWellEscaped (op.pattern text).toList := by
  cases op <;> exact literalPattern_isWellEscaped _ _ _

/-- The test that an operator makes with its pattern. -/
def Operator.patternTest (op : Operator) (text : String) : Test :=
  .like (op.pattern text) (some escapeChar) (op = .doesNotContain)

private theorem literalTest_outcome {c : Collation} {alike : Setoid Char} (hc : c.Ignores alike)
    (before after negated : Bool) (text stored : String) :
    (Test.like (literalPattern before after text) (some escapeChar) negated).outcome c
        (.text stored) = .bool true ↔
      (Sql.Matches alike ((if before then [.run] else []) ++
        (text.toList.map .exact ++ if after then [.run] else [])) stored.toList ↔ negated = false) := by
  rw [Test.outcome, Collation.like, patternParts?_literal, ← hc.matchesParts]
  cases negated <;> simp [Sql.Truth.negatedIf]

private theorem Operator.patternTest_outcome {escapeNegated : Bool} {op : Operator}
    (hop : op.IsLiteral escapeNegated) {c : Collation} {alike : Setoid Char} (hc : c.Ignores alike)
    (text stored : String) :
    (op.patternTest text).outcome c (.text stored) = .bool true ↔
      op.Finds alike text.toList stored.toList := by
  cases op with
  | startsWith =>
    rw [← matches_startsWith]
    simpa [patternTest, pattern] using literalTest_outcome hc false true false text stored
  | endsWith =>
    rw [← matches_endsWith]
    simpa [patternTest, pattern] using literalTest_outcome hc true false false text stored
  | contains =>
    rw [← matches_contains]
    simpa [patternTest, pattern] using literalTest_outcome hc true true false text stored
  | doesNotContain =>
    change _ ↔ ¬ Operator.contains.Finds alike text.toList stored.toList
    rw [← matches_contains]
    simpa [patternTest, pattern] using literalTest_outcome hc true true true text stored
  | equals | notEquals | isEmpty | isNotEmpty | isAnyOf | isNotOf | gt | lt | gte | lte | after
  | before | onOrAfter | onOrBefore => exact hop.elim

namespace Subject

variable {s : Subject} {value : Json} {text : String}

private theorem matching_literal {before after negated : Bool} (htext : value.toText? = some text)
    (hblank : value.isBlank = false) :
    s.matching before after negated true value =
      .ok (some ((Test.like (literalPattern before after text) (some escapeChar) negated).on
        s.column)) := by
  simp [matching, hblank, textOf_of_toText? htext, Except.map, Test.on, literalPattern]

/-- A pattern operator compares a column with the pattern of the text that it is given. -/
theorem predicate_pattern {escapeNegated : Bool} {op : Operator} (htype : s.type = .text)
    (hop : op.IsLiteral escapeNegated) (htext : value.toText? = some text)
    (hblank : value.isBlank = false) :
    s.predicate escapeNegated op value = .ok (some ((op.patternTest text).on s.column)) := by
  cases op with
  | startsWith | endsWith | contains =>
    simpa [predicate, Operator.supports, Operator.patternTest, Operator.pattern, htype] using
      matching_literal htext hblank
  | doesNotContain =>
    rw [show escapeNegated = true from hop]
    simpa [predicate, Operator.supports, Operator.patternTest, Operator.pattern, htype] using
      matching_literal htext hblank
  | equals | notEquals | isEmpty | isNotEmpty | isAnyOf | isNotOf | gt | lt | gte | lte | after
  | before | onOrAfter | onOrBefore => exact hop.elim

/-- A pattern operator matches the text that it is given literally. Its pattern has no escape that is
not needed and none left over, and its condition is true of the stored texts that begin with the given
one, end with it, contain it or do not contain it, up to any equivalence of characters that a store may
ignore. -/
theorem pattern_matches_literally {escapeNegated : Bool} {op : Operator} (htype : s.type = .text)
    (hop : op.IsLiteral escapeNegated) (htext : value.toText? = some text)
    (hblank : value.isBlank = false) (alike : Setoid Char) :
    ∃ pattern : String,
      s.predicate escapeNegated op value = .ok (some (.like s.column (.param (.text pattern))
        (some escapeChar) (op = .doesNotContain) true)) ∧
      IsWellEscaped pattern.toList ∧
      (∃ c : Collation, c.Ignores alike) ∧
      ∀ c : Collation, c.Ignores alike → ∀ (db : Database) (group : Multiset Env) (env : Env)
        (stored : String), s.column.value c db group env = .text stored →
        ((Expr.like s.column (.param (.text pattern)) (some escapeChar) (op = .doesNotContain)
            true).Holds c db group env ↔ op.Finds alike text.toList stored.toList) := by
  refine ⟨op.pattern text, predicate_pattern htype hop htext hblank, op.pattern_isWellEscaped text,
    Sql.Collation.exists_ignores alike, ?_⟩
  intro c hc db group env stored hstored
  rw [← Operator.patternTest_outcome hop hc, ← hstored, ← Test.value_on c db group env]
  exact Iff.rfl

/-- On a name that is compared with wildcards and an escape. -/
theorem pattern_matches_literally_sample :
    let s : Subject := { field := "name", column := .ofTable "artists" "name", type := .text }
    let alike := Setoid.ker Collation.plain.fold
    s.type = .text ∧ Operator.doesNotContain.IsLiteral true ∧
      (Json.string "5%_\\").toText? = some "5%_\\" ∧ (Json.string "5%_\\").isBlank = false ∧
      ∃ pattern : String,
        s.predicate true .doesNotContain (.string "5%_\\") = .ok (some (.like s.column
          (.param (.text pattern)) (some escapeChar) true true)) ∧
        IsWellEscaped pattern.toList ∧
        ∀ (db : Database) (group : Multiset Env) (env : Env) (stored : String),
          s.column.value .plain db group env = .text stored →
          ((Expr.like s.column (.param (.text pattern)) (some escapeChar) true true).Holds .plain db
              group env ↔
            ¬ ∃ found, List.Forall₂ alike "5%_\\".toList found ∧ found <:+: stored.toList) := by
  obtain ⟨pattern, hput, hescaped, _, hfinds⟩ := @pattern_matches_literally
    { field := "name", column := .ofTable "artists" "name", type := .text } (.string "5%_\\") _ true
    .doesNotContain rfl rfl rfl rfl (Setoid.ker Collation.plain.fold)
  exact ⟨rfl, rfl, rfl, rfl, pattern, hput, hescaped, hfinds .plain fun _ _ => Iff.rfl⟩

end Subject

end TenantGrid
