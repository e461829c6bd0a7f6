import TenantGrid.Filter.Predicate
import TenantGrid.Proofs.Sql.Condition
/-!
# Tests of a column

The condition that an item puts on a column is one of a few tests, and which one does not depend on
the column. A test can therefore be made of a value directly, as well as of any column that holds
the value.
-/
namespace TenantGrid

open Sql (Collation Database Env Expr Value)

/-- A condition on one column, without the column. -/
inductive Test where
  | compare (op : Sql.BinaryOp) (value : Value)
  | null (negated : Bool)
  | among (values : List Value) (negated : Bool)
  | like (pattern : String) (escape : Option Char) (negated : Bool)

namespace Test

def on (column : Expr) : Test → Expr
  | compare op value => .binary op column (.param value)
  | null negated => .isNull column negated
  | among values negated => .inList column (values.map .param) negated
  | like pattern escape negated => .like column (.param (.text pattern)) escape negated true

/-- What a test says of a value. -/
def outcome (c : Collation) (v : Value) : Test → Value
  | compare op value => c.binary op v value
  | null negated => .bool (v.isNull != negated)
  | among values negated => ((c.among v values).negatedIf negated).value
  | like pattern escape negated => ((c.like escape true v (.text pattern)).negatedIf negated).value

theorem value_on (c : Collation) (db : Database) (group : Multiset Env) (env : Env) (column : Expr)
    (t : Test) : (t.on column).value c db group env = t.outcome c (column.value c db group env) := by
  cases t <;>
    simp [on, outcome, Expr.value, Sql.valuesOfEach_eq_map, Function.comp_def]

theorem on_readsOnly {names : List String} {column : Expr} (h : column.ReadsOnly names)
    (t : Test) : (t.on column).ReadsOnly names := by
  intro c db group group' env env' henv
  rw [value_on, value_on, h c db group group' env env' henv]

end Test

/-- Whether the condition put on a column is the same test for every column. -/
def IsTest (put : Expr → Except RequestError (Option Expr)) : Prop :=
  ∃ r : Except RequestError (Option Test), ∀ column, put column = r.map (Option.map (Test.on column))

private theorem isTest_error (e : RequestError) : IsTest fun _ => .error e :=
  ⟨.error e, fun _ => rfl⟩

private theorem isTest_nothing : IsTest fun _ => .ok none :=
  ⟨.ok none, fun _ => rfl⟩

private theorem isTest_null (negated : Bool) :
    IsTest fun column => .ok (some (.isNull column negated)) :=
  ⟨.ok (some (.null negated)), fun _ => rfl⟩

private theorem isTest_map {α : Type} (r : Except RequestError α) (test : α → Test) :
    IsTest fun column => r.map fun a => some ((test a).on column) := by
  refine ⟨r.map fun a => some (test a), fun column => ?_⟩
  cases r <;> rfl

private theorem isTest_ite {p : Prop} [Decidable p]
    {put put' : Expr → Except RequestError (Option Expr)} (h : IsTest put) (h' : IsTest put') :
    IsTest fun column => if p then put column else put' column := by
  by_cases hp : p
  · simpa [hp] using h
  · simpa [hp] using h'

namespace Subject

variable (s : Subject)

private theorem compared_isTest (op : Sql.BinaryOp) (value : Json) :
    IsTest fun column => { s with column }.compared op value :=
  isTest_map (s.coerce value) (.compare op)

private theorem comparedUnlessBlank_isTest (op : Sql.BinaryOp) (value : Json) :
    IsTest fun column => { s with column }.comparedUnlessBlank op value :=
  isTest_ite isTest_nothing (s.compared_isTest op value)

private theorem comparedUnlessNull_isTest (op : Sql.BinaryOp) (negated : Bool) (value : Json) :
    IsTest fun column => { s with column }.comparedUnlessNull op negated value :=
  isTest_ite (isTest_null negated) (s.compared_isTest op value)

private theorem amongListed_isTest (negated : Bool) (value : Json) :
    IsTest fun column => { s with column }.amongListed negated value :=
  isTest_ite isTest_nothing
    (isTest_map (value.listed.mapM s.coerce) fun values => .among values negated)

private theorem matching_isTest (before after negated escaped : Bool) (value : Json) :
    IsTest fun column => { s with column }.matching before after negated escaped value :=
  isTest_ite isTest_nothing (isTest_map (textOf s.field value) fun text =>
    .like ((if before then "%" else "") ++ (if escaped then escapeLike text else text)
      ++ (if after then "%" else "")) (if escaped then some escapeChar else none) negated)

theorem predicate_isTest (escapeNegated : Bool) (op : Operator) (value : Json) :
    IsTest fun column => { s with column }.predicate escapeNegated op value := by
  by_cases hsupported : (!op.supports s.type) = true
  · simp only [predicate, hsupported, if_true]
    exact isTest_error _
  simp only [predicate, hsupported]
  cases op with
  | equals => exact s.comparedUnlessNull_isTest .eq false value
  | notEquals => exact s.comparedUnlessNull_isTest .ne true value
  | isEmpty => exact isTest_null false
  | isNotEmpty => exact isTest_null true
  | isAnyOf => exact s.amongListed_isTest false value
  | isNotOf => exact s.amongListed_isTest true value
  | gt | after => exact s.comparedUnlessBlank_isTest .gt value
  | lt | before => exact s.comparedUnlessBlank_isTest .lt value
  | gte | onOrAfter => exact s.comparedUnlessBlank_isTest .gte value
  | lte | onOrBefore => exact s.comparedUnlessBlank_isTest .lte value
  | startsWith => exact s.matching_isTest false true false true value
  | endsWith => exact s.matching_isTest true false false true value
  | contains => exact s.matching_isTest true true false true value
  | doesNotContain => exact s.matching_isTest true true true escapeNegated value

end Subject

/-- Whether an operator on a relation asks that no related row passes its test. -/
def Operator.isNegative (op : Operator) : Bool :=
  op = .isEmpty || op.opposite?.isSome

namespace Membership

private theorem positiveInner_isTest (escapeNegated : Bool) (field : String)
    (op positive : Operator) (value : Json) :
    IsTest fun column => positiveInner escapeNegated field column op positive value :=
  isTest_ite
    (isTest_map (textOf field value) fun text => .like ("%" ++ text ++ "%") none false)
    (({ field, column := .bare field, type := .text } : Subject).predicate_isTest escapeNegated
      positive value)

/-- The test that an item makes of a relation is one of the related rows, or that there is one, and
which it is does not depend on the column. -/
theorem ofItem_isTest (escapeNegated : Bool) (field : String) (op : Operator) (value : Json) :
    ∃ r : Except RequestError (Option (Option Test)), ∀ column,
      ofItem escapeNegated field column op value =
        r.map (Option.map fun inner => ⟨inner.map (Test.on column), op.isNegative⟩) := by
  obtain ⟨r, hr⟩ := positiveInner_isTest escapeNegated field op (op.opposite?.getD op) value
  by_cases hempty : op = .isEmpty
  · exact ⟨.ok (some none), fun column => by simp [ofItem, hempty, Operator.isNegative, Except.map]⟩
  by_cases hfull : op = .isNotEmpty
  · exact ⟨.ok (some none), fun column => by
      simp [ofItem, hfull, Operator.isNegative, Operator.opposite?, Except.map]⟩
  by_cases hrelational : (op.opposite?.getD op).isRelational = true
  · by_cases hblank : value.isBlank = true
    · exact ⟨.ok none, fun column => by simp [ofItem, hempty, hfull, hrelational, hblank, Except.map]⟩
    · refine ⟨r.map (Option.map some), fun column => ?_⟩
      have hc := hr column
      simp only [ofItem, hempty, hfull, hrelational, hblank, if_false, Bool.not_true,
        Bool.false_eq_true, hc, Operator.isNegative, decide_false, Bool.false_or]
      rcases r with e | _ | t <;> rfl
  · exact ⟨.error (.unsupportedOperator field op.name .text), fun column => by
      simp [ofItem, hempty, hfull, hrelational, Except.map]⟩

end Membership

end TenantGrid
