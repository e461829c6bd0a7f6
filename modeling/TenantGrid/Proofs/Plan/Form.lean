import TenantGrid.Proofs.Filter.Admission
import TenantGrid.Proofs.Plan.Invariant
import TenantGrid.Proofs.Plan.Sorting
/-!
# The form of a plan

Every condition of a plan is a test of a column that the tables of the plan have, or asks whether the
artist has related rows. Every key of a sort is the artist's id or an aggregate of such a column.
-/
namespace TenantGrid

open Sql (Expr OrderKey Query)

/-- The tables of the artist and its joins, each under its name. -/
def JoinSet.tables (joins : JoinSet) : List (String × Table) :=
  (Schema.artists.name, Schema.artists) :: joins.map fun j => (j.aliasName, j.target.table)

theorem JoinSet.mem_tables {joins : JoinSet} {j : JoinedTable} (h : j ∈ joins) :
    (j.aliasName, j.target.table) ∈ joins.tables := by
  apply List.mem_cons_of_mem
  exact List.mem_map_of_mem h

theorem JoinTarget.table_mem (target : JoinTarget) : target.table ∈ Schema.tables := by
  cases target <;> simp [JoinTarget.table, Schema.tables]

theorem JoinSet.table_mem {joins : JoinSet} {ref : String} {table : Table}
    (h : (ref, table) ∈ joins.tables) : table ∈ Schema.tables := by
  rcases List.mem_cons.mp h with heq | hmem
  · rw [(Prod.mk.inj heq).2]
    exact List.mem_cons_self
  · obtain ⟨j, _, heq⟩ := List.mem_map.mp hmem
    rw [← (Prod.mk.inj heq).2]
    exact j.target.table_mem

theorem JoinSet.AllocatedFrom.tables_subset {start joins : JoinSet} (h : start.AllocatedFrom joins) :
    start.tables ⊆ joins.tables := by
  obtain ⟨more, rfl⟩ := h.exists_append
  intro entry hentry
  simp only [JoinSet.tables, List.map_append, List.mem_cons, List.mem_append] at hentry ⊢
  tauto

/-- The conditions that a filter can put. -/
inductive IsCondition (tenant : String) (tables : List (String × Table)) : Expr → Prop
  | test {ref name : String} {table : Table} {column : Column} (t : Test)
    (hmem : (ref, table) ∈ tables) (hcolumn : table.column? name = some column)
    (hfits : t.Fits column.type) : IsCondition tenant tables (t.on (.ofTable ref name))
  | tagged (type : TagType) (inner : Option Test) (negated : Bool)
    (hfits : ∀ t ∈ inner, t.Fits .text) :
    IsCondition tenant tables (.inQuery artistId
      (tagQuery tenant type (inner.map (Test.on (.ofTable tagAlias "tag")))) negated)
  | attributed (inner : Option Test) (negated : Bool) (hfits : ∀ t ∈ inner, t.Fits .text) :
    IsCondition tenant tables (.inQuery artistId
      (userQuery tenant (inner.map (Test.on (.ofTable userAlias "user_id")))) negated)

variable {tenant : String} {tables more : List (String × Table)} {e : Expr}

theorem IsCondition.mono (h : IsCondition tenant tables e) (hsub : tables ⊆ more) :
    IsCondition tenant more e := by
  cases h with
  | test t hmem hcolumn hfits => exact .test t (hsub hmem) hcolumn hfits
  | tagged type inner negated hfits => exact .tagged type inner negated hfits
  | attributed inner negated hfits => exact .attributed inner negated hfits

private theorem Route.IsTyped.isCondition {route : Route} (h : route.IsTyped) {table : Table}
    {name : String} {type : ColumnType} (hreading : route.reading? = some (table, name, type))
    {ref : String} (hmem : (ref, table) ∈ tables)
    (hfits : FitsColumn (.ofTable ref name) type (some e)) : IsCondition tenant tables e := by
  obtain ⟨column, hcolumn, rfl⟩ := h table name type hreading
  obtain ⟨t, rfl, ht⟩ := hfits e rfl
  exact .test t hmem hcolumn ht

namespace Compiler

variable {compiler : Compiler}

private theorem columnPredicate_fits {item : FilterItem} {table : String} {column : Column}
    {put : Option Expr} (h : compiler.columnPredicate item table column = .ok put) :
    FitsColumn (.ofTable table column.name) column.type put := by
  obtain ⟨op, _, h⟩ := bind_eq_ok h
  exact Subject.predicate_fits h

private theorem statisticPredicate_fits {item : FilterItem} {aliasName : String} {metric : Metric}
    {put : Option Expr} (h : compiler.statisticPredicate item aliasName metric = .ok put) :
    FitsColumn (.ofTable aliasName metric.column) .real put := by
  obtain ⟨op, _, h⟩ := bind_eq_ok h
  exact Subject.predicate_fits h

private theorem attributionPredicate_fits {item : FilterItem} {aliasName : String} {column : Column}
    {put : Option Expr} (h : compiler.attributionPredicate item aliasName column = .ok put) :
    FitsColumn (.ofTable aliasName column.name) column.type put := by
  obtain ⟨chosen, _, h⟩ := bind_eq_ok h
  cases chosen with
  | none =>
    rw [← Except.ok.inj h]
    exact .none _ _
  | some op => exact Subject.predicate_fits h

private theorem relationPredicate_form {item : FilterItem} {column : Expr}
    {related : Option Expr → Query}
    (h : compiler.relationPredicate item column related = .ok (some e)) :
    ∃ (inner : Option Test) (negated : Bool), (∀ t ∈ inner, t.Fits .text) ∧
      e = .inQuery artistId (related (inner.map (Test.on column))) negated := by
  obtain ⟨op, _, h⟩ := bind_eq_ok h
  obtain ⟨put, hput, h⟩ := bind_eq_ok h
  cases put with
  | none => exact nomatch h
  | some m =>
    have hfits := Membership.ofItem_fits hput
    have he : e = .inQuery artistId (related m.inner) m.negated := (Option.some.inj (Except.ok.inj h)).symm
    cases hinner : m.inner with
    | none => exact ⟨none, m.negated, by simp, by rw [he, hinner]; rfl⟩
    | some f =>
      obtain ⟨t, ht, hfits⟩ := hfits f hinner
      refine ⟨some t, m.negated, ?_, ?_⟩
      · intro other hother
        rw [← Option.some.inj hother]
        exact hfits
      · rw [he, hinner, ht]
        rfl

private theorem itemPredicate_form {joins : JoinSet} {item : FilterItem} {route : Route}
    (hroute : compiler.catalog.route item.field = .ok route)
    (h : compiler.itemPredicate tenant joins item route = .ok (some e)) :
    IsCondition tenant (joinsAfter joins route.joinTarget?).tables e := by
  have htyped := Route.ofField?_isTyped (Catalog.route_ok hroute)
  have hnew : ∀ target : JoinTarget,
      (joins.nextAlias target, target.table) ∈ (joins.allocate target).tables := by
    intro target
    exact JoinSet.mem_tables (j := ⟨target, joins.nextAlias target⟩) (by simp [JoinSet.allocate])
  cases route with
  | artist column => exact htyped.isCondition rfl List.mem_cons_self (columnPredicate_fits h)
  | statistic typeId metric =>
    exact htyped.isCondition rfl (hnew (.statistic typeId)) (statisticPredicate_fits h)
  | evaluation column => exact htyped.isCondition rfl (hnew .evaluation) (columnPredicate_fits h)
  | membership column => exact htyped.isCondition rfl (hnew .membership) (columnPredicate_fits h)
  | attribution column =>
    exact htyped.isCondition rfl (hnew .membership) (attributionPredicate_fits h)
  | tags type =>
    obtain ⟨inner, negated, hfits, rfl⟩ := relationPredicate_form h
    exact .tagged type inner negated hfits
  | users =>
    obtain ⟨inner, negated, hfits, rfl⟩ := relationPredicate_form h
    exact .attributed inner negated hfits

end Compiler

/-- Whether every condition of a plan has one of the forms, over the tables of the plan. -/
def FilterPlan.HasForm (plan : FilterPlan) : Prop :=
  ∀ e ∈ plan.predicates, IsCondition plan.tenant plan.joins.tables e

namespace Compiler

variable {compiler : Compiler}

private theorem addItem_hasForm {plan after : FilterPlan} {item : FilterItem} (hplan : plan.HasForm)
    (h : compiler.addItem plan item = .ok after) : after.HasForm := by
  obtain ⟨route, hroute, ⟨_, rfl⟩ | ⟨e, he, rfl⟩⟩ := addItem_cases h
  · exact hplan
  · intro condition hcondition
    rcases List.mem_append.mp hcondition with hcondition | hcondition
    · apply (hplan condition hcondition).mono
      cases route.joinTarget? with
      | none => exact List.Subset.refl _
      | some target => exact (JoinSet.AllocatedFrom.allocate target .start).tables_subset
    · have heq : condition = e := List.mem_singleton.mp hcondition
      rw [heq]
      exact itemPredicate_form hroute he

theorem planWithin_hasForm {scope : Scope} {items : List FilterItem} {plan : FilterPlan}
    (h : compiler.planWithin tenant scope items = .ok plan) : plan.HasForm := by
  apply foldlM_induction (motive := fun _ plan => plan.HasForm) _ _ h
  · intro e he
    exact nomatch he
  · intro _ _ before after hbefore hstep
    exact addItem_hasForm hbefore hstep

theorem aggregate_eq (compiler : Compiler) (key : Expr) (type : ColumnType)
    (direction : Sql.Direction) :
    ∃ function, compiler.aggregate key type direction = .call function false [key] ∧
      (Sql.Aggregate.ofName? function).isSome := by
  by_cases hbool : type = .bool ∧ compiler.dialect = .postgres
  · cases direction with
    | asc => exact ⟨"BOOL_AND", if_pos hbool, rfl⟩
    | desc => exact ⟨"BOOL_OR", if_pos hbool, rfl⟩
  · cases direction with
    | asc => exact ⟨"MIN", if_neg hbool, rfl⟩
    | desc => exact ⟨"MAX", if_neg hbool, rfl⟩

/-- The expressions that a sort orders by, over the tables of its joins. -/
inductive IsSortKey (compiler : Compiler) (tables : List (String × Table)) : Expr → Prop
  | id : IsSortKey compiler tables artistId
  | aggregate {ref name : String} {table : Table} {column : Column} (direction : Sql.Direction)
    (hmem : (ref, table) ∈ tables) (hcolumn : table.column? name = some column) :
    IsSortKey compiler tables (compiler.aggregate (.ofTable ref name) column.type direction)

private theorem IsSortKey.mono (h : IsSortKey compiler tables e) (hsub : tables ⊆ more) :
    IsSortKey compiler more e := by
  cases h with
  | id => exact .id
  | aggregate direction hmem hcolumn => exact .aggregate direction (hsub hmem) hcolumn

end Compiler

private theorem JoinSet.mem_reuseOrAllocate (joins : JoinSet) (target : JoinTarget) :
    ((joins.reuseOrAllocate target).1, target.table) ∈ (joins.reuseOrAllocate target).2.tables := by
  unfold reuseOrAllocate
  split
  · rename_i j hj
    have htarget : j.target = target := by simpa using List.find?_some hj
    rw [← htarget]
    exact mem_tables (List.mem_of_find?_eq_some hj)
  · exact mem_tables (j := ⟨target, joins.nextAlias target⟩) (by simp [allocate])

/-- A sort reads the column of its route, under a name that its joins have. -/
theorem Route.sortColumn?_reading {joins joins' : JoinSet} {route : Route} {key : Expr}
    {type : ColumnType} (h : route.sortColumn? joins = some (key, type, joins')) :
    ∃ ref table name, route.reading? = some (table, name, type) ∧ key = .ofTable ref name ∧
      (ref, table) ∈ joins'.tables := by
  cases route with
  | artist column =>
    have hsome := Prod.mk.inj (Option.some.inj h)
    have hrest := Prod.mk.inj hsome.2
    rw [← hsome.1, ← hrest.1, ← hrest.2]
    exact ⟨_, _, _, rfl, rfl, List.mem_cons_self⟩
  | statistic typeId metric =>
    have hsome := Prod.mk.inj (Option.some.inj h)
    have hrest := Prod.mk.inj hsome.2
    rw [← hsome.1, ← hrest.1, ← hrest.2]
    exact ⟨_, _, _, rfl, rfl, joins.mem_reuseOrAllocate _⟩
  | evaluation column | membership column | attribution column =>
    have hsome := Prod.mk.inj (Option.some.inj h)
    have hrest := Prod.mk.inj hsome.2
    rw [← hsome.1, ← hrest.1, ← hrest.2]
    exact ⟨_, _, _, rfl, rfl, joins.mem_reuseOrAllocate _⟩
  | tags type => exact nomatch h
  | users => exact nomatch h

namespace Compiler

variable {compiler : Compiler}

private theorem addSort_form {before after : JoinSet × List (OrderKey Expr)} {item : SortItem}
    (h : compiler.addSort before item = .ok after) :
    ∃ key, after.2 = before.2 ++ [key] ∧ IsSortKey compiler after.1.tables key.expr := by
  obtain ⟨route, hroute, h⟩ := bind_eq_ok h
  split at h
  · exact nomatch h
  · rename_i key type joins hsort
    obtain ⟨ref, table, name, hreading, rfl, hmem⟩ := Route.sortColumn?_reading hsort
    split at h
    · rw [← Except.ok.inj h]
      exact ⟨_, rfl, .id⟩
    split at h
    · exact nomatch h
    · obtain ⟨column, hcolumn, rfl⟩ :=
        Route.ofField?_isTyped (Catalog.route_ok hroute) table name type hreading
      rw [← Except.ok.inj h]
      exact ⟨_, rfl, .aggregate item.direction hmem hcolumn⟩

theorem orderKeys_form {joins joins' : JoinSet} {sort : List SortItem} {keys : List (OrderKey Expr)}
    (h : compiler.orderKeys joins sort = .ok (joins', keys)) :
    ∀ key ∈ keys, IsSortKey compiler joins'.tables key.expr := by
  obtain ⟨⟨joins', first⟩, hsort, h⟩ := bind_eq_ok h
  obtain ⟨rfl, rfl⟩ := Prod.mk.inj (Except.ok.inj h)
  have hfirst : ∀ key ∈ first, IsSortKey compiler joins'.tables key.expr := by
    apply foldlM_induction (motive := fun _ (sorted : JoinSet × List (OrderKey Expr)) =>
      ∀ key ∈ sorted.2, IsSortKey compiler sorted.1.tables key.expr) (by simp) _ hsort
    intro _ item before after hbefore hstep key hkey
    obtain ⟨added, hadded, hform⟩ := addSort_form hstep
    rw [hadded] at hkey
    rcases List.mem_append.mp hkey with hkey | hkey
    · exact (hbefore key hkey).mono (addSort_cases hstep).1.tables_subset
    · rw [List.mem_singleton.mp hkey]
      exact hform
  intro key hkey
  rcases List.mem_append.mp hkey with hkey | hkey
  · exact hfirst key hkey
  · rw [List.mem_singleton.mp hkey]
    exact .id

end Compiler

end TenantGrid
