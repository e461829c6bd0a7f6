import TenantGrid.Plan.Queries
import TenantGrid.Proofs.Filter.Allocation
import TenantGrid.Proofs.Plan.Items
/-!
# What a sort adds

A sort allocates joins after those of the filter, and orders by aggregates of single columns and by
the id of the artist, which comes last in any case.
-/
namespace TenantGrid

open Sql (Collation Database Env Expr OrderKey Query)

/-- A sort by a route reads a column of a table, for which it needs one further join at most. -/
theorem Route.sortColumn?_some {joins joins' : JoinSet} {route : Route} {key : Expr}
    {type : ColumnType} (h : route.sortColumn? joins = some (key, type, joins')) :
    (∃ table name, key = .ofTable table name) ∧ joins.AllocatedFrom joins' := by
  cases route with
  | artist column =>
    obtain ⟨rfl, _, rfl⟩ : Expr.ofTable Schema.artists.name column.name = key ∧ _ ∧ joins = joins' := by
      simpa [sortColumn?] using h
    exact ⟨⟨_, _, rfl⟩, .start⟩
  | tags type => simp [sortColumn?] at h
  | users => simp [sortColumn?] at h
  | statistic typeId metric =>
    obtain ⟨rfl, _, rfl⟩ : Expr.ofTable (joins.reuseOrAllocate _).1 metric.column = key ∧ _ ∧
        (joins.reuseOrAllocate _).2 = joins' := by
      simpa [sortColumn?] using h
    exact ⟨⟨_, _, rfl⟩, joins.reuseOrAllocate_allocatedFrom _⟩
  | evaluation column | membership column | attribution column =>
    obtain ⟨rfl, _, rfl⟩ : Expr.ofTable (joins.reuseOrAllocate _).1 column.name = key ∧ _ ∧
        (joins.reuseOrAllocate _).2 = joins' := by
      simpa [sortColumn?] using h
    exact ⟨⟨_, _, rfl⟩, joins.reuseOrAllocate_allocatedFrom _⟩

namespace Compiler

variable {compiler : Compiler}

/-- The expressions that a sort orders by. -/
inductive IsOrderKey (compiler : Compiler) : Expr → Prop
  | id : compiler.IsOrderKey artistId
  | aggregate (table name : String) (type : ColumnType) (direction : Sql.Direction) :
    compiler.IsOrderKey (compiler.aggregate (.ofTable table name) type direction)

theorem addSort_cases {before after : JoinSet × List (OrderKey Expr)} {item : SortItem}
    (h : compiler.addSort before item = .ok after) :
    before.1.AllocatedFrom after.1 ∧
      ∃ key, after.2 = before.2 ++ [key] ∧ compiler.IsOrderKey key.expr := by
  obtain ⟨route, _, h⟩ := bind_eq_ok h
  split at h
  · simp at h
  · rename_i key type joins hcolumn
    obtain ⟨⟨table, name, rfl⟩, hjoins⟩ := Route.sortColumn?_some hcolumn
    split at h
    · obtain rfl := Except.ok.inj h
      exact ⟨.start, _, rfl, .id⟩
    split at h
    · simp at h
    · obtain rfl := Except.ok.inj h
      exact ⟨hjoins, _, rfl, .aggregate _ _ _ _⟩

/-- A sort adds joins to those of the filter, and its keys end in the id. -/
theorem orderKeys_cases {joins joins' : JoinSet} {sort : List SortItem} {keys : List (OrderKey Expr)}
    (h : compiler.orderKeys joins sort = .ok (joins', keys)) :
    joins.AllocatedFrom joins' ∧ ∃ first, keys = first ++ [{ expr := artistId }] ∧
      ∀ key ∈ keys, compiler.IsOrderKey key.expr := by
  obtain ⟨⟨joins', first⟩, hsort, h⟩ := bind_eq_ok h
  obtain ⟨rfl, rfl⟩ := Prod.mk.inj (Except.ok.inj h)
  have hsorted : joins.AllocatedFrom joins' ∧ ∀ key ∈ first, compiler.IsOrderKey key.expr := by
    refine foldlM_induction (motive := fun _ sorted =>
      joins.AllocatedFrom sorted.1 ∧ ∀ key ∈ sorted.2, compiler.IsOrderKey key.expr)
      ⟨.start, by simp⟩ ?_ hsort
    rintro done item before after ⟨hjoins, hkeys⟩ hstep
    obtain ⟨hadded, key, hkey, hisKey⟩ := addSort_cases hstep
    refine ⟨hjoins.trans hadded, ?_⟩
    simp only [hkey, List.mem_append, List.mem_singleton]
    rintro k (hk | rfl)
    · exact hkeys k hk
    · exact hisKey
  refine ⟨hsorted.1, first, rfl, ?_⟩
  simp only [List.mem_append, List.mem_singleton]
  rintro key (hkey | rfl)
  · exact hsorted.2 key hkey
  · exact .id

/-- A sorted query groups the rows of a plan over the joins of the sort as well. -/
theorem sortedQuery_cases {plan : FilterPlan} {sort : List SortItem} {query : Query}
    (h : compiler.sortedQuery plan sort = .ok query) :
    ∃ joins keys, compiler.orderKeys plan.joins sort = .ok (joins, keys) ∧
      query = { plan.baseQuery joins artistId with groupBy := [artistId], orderBy := keys } := by
  obtain ⟨⟨joins, keys⟩, hkeys, h⟩ := bind_eq_ok h
  exact ⟨joins, keys, hkeys, (Except.ok.inj h).symm⟩

end Compiler

end TenantGrid
