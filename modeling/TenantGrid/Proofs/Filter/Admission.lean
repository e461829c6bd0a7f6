import TenantGrid.Proofs.Catalog.Typing
import TenantGrid.Proofs.Filter.Shape
import TenantGrid.Proofs.Filter.Test
/-!
# Values that reach a column

Whatever a request compares a column with has gone through the coercion to the type of that column. A
condition is therefore a test that fits the column, and the column is one of the table that the route
of the field leads to.
-/
namespace TenantGrid

open Sql (Expr Value)

theorem Json.toCode?_choice {choices : List Choice} {value : Json} {code : Int}
    (h : value.toCode? (.choice choices) = some code) : ∃ choice ∈ choices, choice.code = code := by
  have hlabel : ((ColumnType.choice choices).choiceLabel? code).isSome = true :=
    (Option.filter_eq_some_iff.mp h).2
  simp only [ColumnType.choiceLabel?, Option.isSome_map, List.find?_isSome] at hlabel
  obtain ⟨choice, hchoice, hcode⟩ := hlabel
  exact ⟨choice, hchoice, by simpa using hcode⟩

private theorem coerce_admits {field : String} {type : ColumnType} {percent : Bool} {value : Json}
    {v : Value} (h : coerce field type percent value = .ok v) : type.Admits v := by
  cases type with
  | text | int | real | bool | timestamp | uuid =>
    obtain ⟨_, _, rfl⟩ := map_eq_ok h
    trivial
  | choice choices =>
    cases hcode : value.toCode? (.choice choices) with
    | none =>
      rw [coerce, hcode] at h
      exact nomatch h
    | some code =>
      rw [coerce, hcode] at h
      have hv : v = .int code := (Except.ok.inj h).symm
      rw [hv]
      exact Json.toCode?_choice hcode
  | json => exact nomatch h

/-- Whether the operator compares two values. -/
def Sql.BinaryOp.isComparison : Sql.BinaryOp → Bool
  | .eq | .ne | .lt | .gt | .lte | .gte => true
  | .and | .or | .concat => false

/-- Whether a test compares with values that a column of the type holds, and with one at least. Its
pattern, if any, is escaped with the one escape character. -/
def Test.Fits (type : ColumnType) : Test → Prop
  | .compare op value => op.isComparison = true ∧ type.Admits value
  | .null _ => True
  | .among values _ => values ≠ [] ∧ ∀ value ∈ values, type.Admits value
  | .like pattern escape _ => type.Admits (.text pattern) ∧ ∀ c ∈ escape, c = escapeChar

/-- Whether a condition, if there is one, is a test of the column that fits its type. -/
def FitsColumn (column : Expr) (type : ColumnType) (put : Option Expr) : Prop :=
  ∀ e ∈ put, ∃ t : Test, e = t.on column ∧ t.Fits type

theorem FitsColumn.none (column : Expr) (type : ColumnType) : FitsColumn column type none :=
  fun _ he => nomatch he

private theorem FitsColumn.some {column : Expr} {type : ColumnType} (t : Test) (h : t.Fits type) :
    FitsColumn column type (some (t.on column)) :=
  fun _ he => ⟨t, (Option.some.inj he).symm, h⟩

namespace Subject

variable {s : Subject} {value : Json} {put : Option Expr}

private theorem compared_fits {op : Sql.BinaryOp} (hop : op.isComparison = true)
    (h : s.compared op value = .ok put) : FitsColumn s.column s.type put := by
  obtain ⟨v, hv, rfl⟩ := map_eq_ok h
  exact .some (.compare op v) ⟨hop, coerce_admits hv⟩

private theorem comparedUnlessBlank_fits {op : Sql.BinaryOp} (hop : op.isComparison = true)
    (h : s.comparedUnlessBlank op value = .ok put) : FitsColumn s.column s.type put := by
  unfold comparedUnlessBlank at h
  split at h
  · rw [← Except.ok.inj h]
    exact .none _ _
  · exact compared_fits hop h

private theorem comparedUnlessNull_fits {op : Sql.BinaryOp} {negated : Bool}
    (hop : op.isComparison = true) (h : s.comparedUnlessNull op negated value = .ok put) :
    FitsColumn s.column s.type put := by
  unfold comparedUnlessNull at h
  split at h
  · rw [← Except.ok.inj h]
    exact .some (.null negated) trivial
  · exact compared_fits hop h

private theorem amongListed_fits {negated : Bool} (h : s.amongListed negated value = .ok put) :
    FitsColumn s.column s.type put := by
  unfold amongListed at h
  split at h
  · rw [← Except.ok.inj h]
    exact .none _ _
  · rename_i hlisted
    obtain ⟨values, hvalues, rfl⟩ := map_eq_ok h
    have hput : values ≠ [] := by
      intro hnil
      have hlength := length_of_mapM hvalues
      rw [hnil] at hlength
      exact hlisted (List.isEmpty_iff.mpr (List.length_eq_zero_iff.mp hlength.symm))
    refine .some (.among values negated) ⟨hput, fun v hv => ?_⟩
    obtain ⟨item, _, hitem⟩ := (mem_of_mapM hvalues).mp hv
    exact coerce_admits hitem

private theorem matching_fits {before after negated escaped : Bool} (htype : s.type = .text)
    (h : s.matching before after negated escaped value = .ok put) :
    FitsColumn s.column s.type put := by
  unfold matching at h
  split at h
  · rw [← Except.ok.inj h]
    exact .none _ _
  · obtain ⟨text, _, rfl⟩ := map_eq_ok h
    rw [htype]
    refine .some (.like _ _ negated) ⟨trivial, fun c hc => ?_⟩
    cases escaped with
    | false => exact nomatch hc
    | true => exact (Option.some.inj hc).symm

/-- The condition of an item is a test that fits the type of its column. -/
theorem predicate_fits {escapeNegated : Bool} {op : Operator}
    (h : s.predicate escapeNegated op value = .ok put) : FitsColumn s.column s.type put := by
  unfold predicate at h
  split at h
  · exact nomatch h
  · rename_i hsupports
    have hsupports : op.supports s.type = true := by simpa using hsupports
    cases op with
    | equals | notEquals => exact comparedUnlessNull_fits rfl h
    | isEmpty =>
      rw [← Except.ok.inj h]
      exact .some (.null false) trivial
    | isNotEmpty =>
      rw [← Except.ok.inj h]
      exact .some (.null true) trivial
    | isAnyOf | isNotOf => exact amongListed_fits h
    | gt | lt | gte | lte | after | before | onOrAfter | onOrBefore =>
      exact comparedUnlessBlank_fits rfl h
    | startsWith | endsWith | contains | doesNotContain =>
      exact matching_fits (by simpa [Operator.supports] using hsupports) h

end Subject

/-- The test that an item makes of a relation fits its text column. -/
theorem Membership.ofItem_fits {escapeNegated : Bool} {field : String} {column : Expr} {op : Operator}
    {value : Json} {m : Membership}
    (h : Membership.ofItem escapeNegated field column op value = .ok (some m)) :
    FitsColumn column .text m.inner := by
  unfold Membership.ofItem at h
  split at h
  · rw [← Option.some.inj (Except.ok.inj h)]
    exact .none _ _
  split at h
  · rw [← Option.some.inj (Except.ok.inj h)]
    exact .none _ _
  simp only at h
  split at h
  · exact nomatch h
  split at h
  · exact nomatch h
  · obtain ⟨inner, hinner, hm⟩ := map_eq_ok h
    have hfits : FitsColumn column .text inner := by
      unfold Membership.positiveInner at hinner
      split at hinner
      · obtain ⟨text, _, rfl⟩ := map_eq_ok hinner
        exact .some (.like _ _ false) ⟨trivial, nofun⟩
      · exact Subject.predicate_fits hinner
    cases inner with
    | none => exact nomatch hm
    | some e =>
      rw [Option.some.inj hm]
      exact hfits

/-- The table whose column a route reads, the name of the column and the type it is read as. -/
def Route.reading? : Route → Option (Table × String × ColumnType)
  | .artist column => some (Schema.artists, column.name, column.type)
  | .statistic _ metric => some (Schema.statistics, metric.column, .real)
  | .evaluation column => some (Schema.evaluations, column.name, column.type)
  | .membership column | .attribution column =>
    some (Schema.memberships, column.name, column.type)
  | .tags _ | .users => none

/-- Whether the column that a route reads is one of its table, with the type it is read as. -/
def Route.IsTyped (route : Route) : Prop :=
  ∀ table name type, route.reading? = some (table, name, type) →
    ∃ column, table.column? name = some column ∧ column.type = type

private theorem Table.column?_name {table : Table} {name : String} {column : Column}
    (h : table.column? name = some column) : table.column? column.name = some column := by
  have hname : column.name = name := by simpa using List.find?_some h
  rw [hname]
  exact h

private theorem Route.columnExcept?_some {table : Table} {hidden : List String} {name : List Char}
    {column : Column} (h : columnExcept? table hidden name = some column) :
    table.column? column.name = some column :=
  Table.column?_name (Option.filter_eq_some_iff.mp h).1

private theorem Metric.column_real (metric : Metric) :
    ∃ column, Schema.statistics.column? metric.column = some column ∧ column.type = .real := by
  cases metric <;> exact ⟨_, rfl, rfl⟩

private theorem Route.isTyped_of_reading {route : Route} {table : Table} {column : Column}
    (hreading : route.reading? = some (table, column.name, column.type))
    (h : table.column? column.name = some column) : route.IsTyped := by
  intro table' name type heq
  obtain ⟨rfl, rfl, rfl⟩ := by simpa using hreading.symm.trans heq
  exact ⟨column, h, rfl⟩

private theorem Route.isTyped_of_none {route : Route} (h : route.reading? = none) :
    route.IsTyped := by
  intro table name type heq
  simp [h] at heq

theorem Route.ofField?_isTyped {catalog : Catalog} {field : String} {route : Route}
    (h : ofField? catalog field = some route) : route.IsTyped := by
  unfold ofField? at h
  simp only at h
  split at h
  · obtain ⟨typeId, metric, rfl, _, _⟩ := statistic?_some h
    intro table name type heq
    obtain ⟨rfl, rfl, rfl⟩ : Schema.statistics = table ∧ metric.column = name ∧
        ColumnType.real = type := by simpa [reading?] using heq
    exact metric.column_real
  split at h
  · obtain ⟨column, hcolumn, rfl⟩ := Option.map_eq_some_iff.mp h
    exact isTyped_of_reading rfl (columnExcept?_some hcolumn)
  split at h
  · unfold membership? at h
    split at h
    · obtain ⟨column, hcolumn, rfl⟩ := Option.map_eq_some_iff.mp h
      exact isTyped_of_reading rfl (Table.column?_name hcolumn)
    · obtain ⟨column, hcolumn, rfl⟩ := Option.map_eq_some_iff.mp h
      exact isTyped_of_reading rfl (columnExcept?_some hcolumn)
  · unfold plain? at h
    split at h
    · rw [← Option.some.inj h]
      exact isTyped_of_none rfl
    split at h
    · rw [← Option.some.inj h]
      exact isTyped_of_none rfl
    split at h
    · rw [← Option.some.inj h]
      exact isTyped_of_none rfl
    · obtain ⟨column, hcolumn, rfl⟩ := Option.map_eq_some_iff.mp h
      exact isTyped_of_reading rfl (columnExcept?_some hcolumn)

end TenantGrid
