import TenantGrid.Catalog.Schema
import TenantGrid.Proofs.Filter.Steps
import TenantGrid.Proofs.Filter.Test
/-!
# List operators

An item that lists values says of a stored value what the items say together that name these values
one at a time: that one of them equals it, or that all of them differ from it. Nulls in a list are passed
over, and a list without another value puts no condition.
-/
namespace TenantGrid

open Sql (Collation Database Env Expr Value)

/-- The values that an item lists: the items of a list other than null, or a value that is no list. -/
inductive Json.Lists : Json → List Json → Prop
  | nothing : Lists .null []
  | items (items : List Json) : Lists (.array items) (items.filter fun item => !item.isNull)
  | itself {value : Json} (hnull : value ≠ .null) (hlist : ∀ items, value ≠ .array items) :
    Lists value [value]

theorem Json.Lists.eq_listed {value : Json} {listed : List Json} (h : value.Lists listed) :
    listed = value.listed := by
  cases h with
  | nothing => rfl
  | items items => rfl
  | itself hnull hlist =>
    cases value with
    | null => exact absurd rfl hnull
    | array items => exact absurd rfl (hlist items)
    | bool | number | string | object => rfl

private theorem Json.not_isNull_of_mem_listed {value item : Json} (h : item ∈ value.listed) :
    item.isNull = false := by
  cases value with
  | null => exact nomatch h
  | array items => simpa using (List.mem_filter.mp h).2
  | bool | number | string | object =>
    rw [List.mem_singleton.mp h]
    rfl

namespace Test

variable {c : Collation} {v : Value} {values : List Value}

private theorem among_passes :
    (among values false).outcome c v = .bool true ↔
      ∃ w ∈ values, (compare .eq w).outcome c v = .bool true := by
  simp [outcome, Sql.Truth.negatedIf, Collation.binary, Collation.among_eq_true,
    Collation.equal_eq_true]

private theorem notAmong_passes :
    (among values true).outcome c v = .bool true ↔
      ∀ w ∈ values, (compare .ne w).outcome c v = .bool true := by
  simp [outcome, Sql.Truth.negatedIf, Collation.binary, Collation.among_eq_some_false]

end Test

namespace Subject

variable {s : Subject} {escapeNegated : Bool} {value item : Json}

private theorem predicate_of_not_supports {op : Operator} (h : op.supports s.type = false) :
    s.predicate escapeNegated op value = .error (.unsupportedOperator s.field op.name s.type) := by
  simp [predicate, h]

private theorem predicate_equals (htype : s.type ≠ .json) (hitem : item.isNull = false) :
    s.predicate escapeNegated .equals item =
      (s.coerce item).map fun v => some ((Test.compare .eq v).on s.column) := by
  simp [predicate, Operator.supports, htype, comparedUnlessNull, hitem, compared, Test.on]

private theorem predicate_notEquals (htype : s.type ≠ .json) (hitem : item.isNull = false) :
    s.predicate escapeNegated .notEquals item =
      (s.coerce item).map fun v => some ((Test.compare .ne v).on s.column) := by
  simp [predicate, Operator.supports, htype, comparedUnlessNull, hitem, compared, Test.on]

private theorem predicate_isAnyOf (htype : s.type ≠ .json) :
    s.predicate escapeNegated .isAnyOf value = s.amongListed false value := by
  simp [predicate, Operator.supports, htype]

private theorem predicate_isNotOf (htype : s.type ≠ .json) :
    s.predicate escapeNegated .isNotOf value = s.amongListed true value := by
  simp [predicate, Operator.supports, htype]

variable {negated : Bool}

private theorem amongListed_eq_none :
    s.amongListed negated value = .ok none ↔ value.listed = [] := by
  unfold amongListed
  by_cases h : value.listed = []
  · simp [h]
  · cases hvalues : value.listed.mapM s.coerce <;> simp [h, Except.map]

private theorem amongListed_eq_error {error : RequestError} :
    s.amongListed negated value = .error error ↔ FirstFailure s.coerce value.listed error := by
  unfold amongListed
  by_cases h : value.listed = []
  · simp [h, FirstFailure]
  · simp only [List.isEmpty_iff, h, if_false, map_eq_error, mapM_eq_error]

private theorem amongListed_eq_some {e : Expr} (h : s.amongListed negated value = .ok (some e)) :
    ∃ values, value.listed.mapM s.coerce = .ok values ∧
      e = (Test.among values negated).on s.column := by
  unfold amongListed at h
  split at h
  · exact nomatch h
  · obtain ⟨values, hvalues, he⟩ := map_eq_ok h
    exact ⟨values, hvalues, Option.some.inj he⟩

private theorem firstFailure_equals (htype : s.type ≠ .json) {error : RequestError} :
    FirstFailure (s.predicate escapeNegated .equals) value.listed error ↔
      FirstFailure s.coerce value.listed error :=
  firstFailure_of_map fun _ hitem => predicate_equals htype (Json.not_isNull_of_mem_listed hitem)

section Holds

variable {c : Collation} {db : Database} {group : Multiset Env} {env : Env}

private theorem anyOf_holds (htype : s.type ≠ .json) {e : Expr}
    (h : s.amongListed false value = .ok (some e)) :
    e.Holds c db group env ↔ ∃ item ∈ value.listed, ∃ single,
      s.predicate escapeNegated .equals item = .ok (some single) ∧ single.Holds c db group env := by
  obtain ⟨values, hvalues, rfl⟩ := amongListed_eq_some h
  simp only [Expr.Holds, Test.value_on, Test.among_passes, mem_of_mapM hvalues]
  constructor
  · rintro ⟨v, ⟨item, hitem, hv⟩, hpasses⟩
    refine ⟨item, hitem, (Test.compare .eq v).on s.column, ?_, by rwa [Test.value_on]⟩
    rw [predicate_equals htype (Json.not_isNull_of_mem_listed hitem), hv]
    rfl
  · rintro ⟨item, hitem, single, hput, hpasses⟩
    rw [predicate_equals htype (Json.not_isNull_of_mem_listed hitem)] at hput
    obtain ⟨v, hv, hsingle⟩ := map_eq_ok hput
    rw [Option.some.inj hsingle, Test.value_on] at hpasses
    exact ⟨v, ⟨item, hitem, hv⟩, hpasses⟩

private theorem noneOf_holds (htype : s.type ≠ .json) {e : Expr}
    (h : s.amongListed true value = .ok (some e)) :
    e.Holds c db group env ↔ ∀ item ∈ value.listed, ∃ single,
      s.predicate escapeNegated .notEquals item = .ok (some single) ∧
        single.Holds c db group env := by
  obtain ⟨values, hvalues, rfl⟩ := amongListed_eq_some h
  simp only [Expr.Holds, Test.value_on, Test.notAmong_passes]
  constructor
  · intro hpasses item hitem
    obtain ⟨v, hv⟩ := exists_of_mapM hvalues hitem
    refine ⟨(Test.compare .ne v).on s.column, ?_, ?_⟩
    · rw [predicate_notEquals htype (Json.not_isNull_of_mem_listed hitem), hv]
      rfl
    · rw [Test.value_on]
      exact hpasses v ((mem_of_mapM hvalues).mpr ⟨item, hitem, hv⟩)
  · intro hitems v hv
    obtain ⟨item, hitem, hv⟩ := (mem_of_mapM hvalues).mp hv
    obtain ⟨single, hput, hpasses⟩ := hitems item hitem
    rw [predicate_notEquals htype (Json.not_isNull_of_mem_listed hitem), hv] at hput
    rwa [← Option.some.inj (Except.ok.inj hput), Test.value_on] at hpasses

end Holds

end Subject

/-- How the items that list values agree with those that name one of these values. -/
structure Subject.ListsAgree (s : Subject) (escapeNegated : Bool) (value : Json)
    (listed : List Json) : Prop where
  /-- Documents are compared in neither way. -/
  unsupported : s.type = .json →
    ∀ op ∈ [Operator.equals, .notEquals, .isAnyOf, .isNotOf],
      s.predicate escapeNegated op value = .error (.unsupportedOperator s.field op.name s.type)
  nothing : s.type ≠ .json → ∀ op ∈ [Operator.isAnyOf, .isNotOf],
    (s.predicate escapeNegated op value = .ok none ↔ listed = [])
  fails : s.type ≠ .json → ∀ op ∈ [Operator.isAnyOf, .isNotOf], ∀ error,
    s.predicate escapeNegated op value = .error error ↔
      FirstFailure (s.predicate escapeNegated .equals) listed error
  anyOf : s.type ≠ .json → ∀ e, s.predicate escapeNegated .isAnyOf value = .ok (some e) →
    ∀ c db group env, e.Holds c db group env ↔ ∃ item ∈ listed, ∃ single,
      s.predicate escapeNegated .equals item = .ok (some single) ∧ single.Holds c db group env
  noneOf : s.type ≠ .json → ∀ e, s.predicate escapeNegated .isNotOf value = .ok (some e) →
    ∀ c db group env, e.Holds c db group env ↔ ∀ item ∈ listed, ∃ single,
      s.predicate escapeNegated .notEquals item = .ok (some single) ∧ single.Holds c db group env

/-- Lists of values agree with their values one at a time, whatever the column holds. -/
theorem lists_agree (s : Subject) (escapeNegated : Bool) {value : Json} {listed : List Json}
    (hlisted : value.Lists listed) : s.ListsAgree escapeNegated value listed := by
  obtain rfl := hlisted.eq_listed
  constructor
  case unsupported =>
    intro htype op hop
    refine Subject.predicate_of_not_supports ?_
    rw [htype]
    revert op
    decide
  case nothing =>
    intro htype
    simp [Subject.predicate_isAnyOf htype, Subject.predicate_isNotOf htype,
      Subject.amongListed_eq_none]
  case fails =>
    intro htype
    simp [Subject.predicate_isAnyOf htype, Subject.predicate_isNotOf htype,
      Subject.amongListed_eq_error, Subject.firstFailure_equals htype]
  case anyOf =>
    intro htype e he c db group env
    rw [Subject.predicate_isAnyOf htype] at he
    exact Subject.anyOf_holds htype he
  case noneOf =>
    intro htype e he c db group env
    rw [Subject.predicate_isNotOf htype] at he
    exact Subject.noneOf_holds htype he

/-- Two statuses by label and by code, with a null between them. -/
theorem lists_agree_sample :
    (Json.array [.string "signed", .null, .ofInt 1]).Lists [.string "signed", .ofInt 1] ∧
      ({ field := "evaluation.status", column := .ofTable "evaluation_1" "status",
         type := .choice Schema.evaluationStatus } : Subject).ListsAgree false
        (.array [.string "signed", .null, .ofInt 1]) [.string "signed", .ofInt 1] :=
  ⟨.items _, lists_agree _ false (.items _)⟩

end TenantGrid
