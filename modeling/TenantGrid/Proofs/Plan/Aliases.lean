import TenantGrid.Proofs.Filter.Field
import TenantGrid.Proofs.Plan.Results
import TenantGrid.Proofs.Plan.Sorting
/-!
# Aliases of a request

Joins are numbered as they are called for, whatever the calls. The joins of a page are those of its filter
and after them one for each target that only the sort reads, and every order key reads the first join of
its own target.
-/
namespace TenantGrid

open Sql (Expr OrderKey Query)

/-- The column that a route reads of the rows joined for it, and its type. -/
def Route.joinedColumn? : Route → Option (String × ColumnType)
  | .statistic _ metric => some (metric.column, .real)
  | .evaluation column | .membership column | .attribution column => some (column.name, column.type)
  | .artist _ | .tags _ | .users => none

namespace Compiler

/-- The target of the rows that a sort item reads, if they are others than the artist's own. -/
def sortTarget? (compiler : Compiler) (item : SortItem) : Option JoinTarget :=
  (Route.ofField? compiler.catalog item.field).bind Route.joinTarget?

/-- Whether an order key is that of a sort item: the id of the artist, or the aggregate of a column of the
artist or of the first join of the item's own target. -/
inductive IsKeyOf (compiler : Compiler) (joins : JoinSet) (item : SortItem) : OrderKey Expr → Prop
  | id (hfield : item.field = "id") : IsKeyOf compiler joins item ⟨artistId, some item.direction, none⟩
  | artist {column : Column} (hroute : compiler.catalog.route item.field = .ok (.artist column)) :
    IsKeyOf compiler joins item
      ⟨compiler.aggregate (.ofTable Schema.artists.name column.name) column.type item.direction,
        some item.direction, some .last⟩
  | joined {route : Route} {target : JoinTarget} {name : String} {type : ColumnType} {j : JoinedTable}
      (hroute : compiler.catalog.route item.field = .ok route) (htarget : route.joinTarget? = some target)
      (hcolumn : route.joinedColumn? = some (name, type)) (hfirst : joins.IsFirst target j) :
    IsKeyOf compiler joins item
      ⟨compiler.aggregate (.ofTable j.aliasName name) type item.direction,
        some item.direction, some .last⟩

variable {compiler : Compiler}

private theorem IsKeyOf.append {joins : JoinSet} {item : SortItem} {key : OrderKey Expr}
    (h : compiler.IsKeyOf joins item key) (more : JoinSet) :
    compiler.IsKeyOf (joins ++ more) item key := by
  cases h with
  | id hfield => exact .id hfield
  | artist hroute => exact .artist hroute
  | joined hroute htarget hcolumn hfirst => exact .joined hroute htarget hcolumn (hfirst.append more)

private theorem sortColumn?_eq_some {joins joins' : JoinSet} {route : Route} {key : Expr}
    {type : ColumnType} (h : route.sortColumn? joins = some (key, type, joins')) :
    (∃ column, route = .artist column ∧ key = .ofTable Schema.artists.name column.name ∧
      type = column.type ∧ joins' = joins) ∨
    ∃ target name, route.joinTarget? = some target ∧ route.joinedColumn? = some (name, type) ∧
      key = .ofTable (joins.reuseOrAllocate target).1 name ∧ joins' = (joins.reuseOrAllocate target).2 := by
  cases route with
  | artist column =>
    obtain ⟨rfl, rfl, rfl⟩ : Expr.ofTable Schema.artists.name column.name = key ∧ column.type = type ∧
        joins = joins' := by
      simpa [Route.sortColumn?] using h
    exact Or.inl ⟨column, rfl, rfl, rfl, rfl⟩
  | tags type => simp [Route.sortColumn?] at h
  | users => simp [Route.sortColumn?] at h
  | statistic typeId metric =>
    obtain ⟨rfl, rfl, rfl⟩ : Expr.ofTable (joins.reuseOrAllocate (.statistic typeId)).1 metric.column = key ∧
        ColumnType.real = type ∧ (joins.reuseOrAllocate (.statistic typeId)).2 = joins' := by
      simpa [Route.sortColumn?] using h
    exact Or.inr ⟨_, _, rfl, rfl, rfl, rfl⟩
  | evaluation column =>
    obtain ⟨rfl, rfl, rfl⟩ : Expr.ofTable (joins.reuseOrAllocate .evaluation).1 column.name = key ∧
        column.type = type ∧ (joins.reuseOrAllocate .evaluation).2 = joins' := by
      simpa [Route.sortColumn?] using h
    exact Or.inr ⟨_, _, rfl, rfl, rfl, rfl⟩
  | membership column | attribution column =>
    obtain ⟨rfl, rfl, rfl⟩ : Expr.ofTable (joins.reuseOrAllocate .membership).1 column.name = key ∧
        column.type = type ∧ (joins.reuseOrAllocate .membership).2 = joins' := by
      simpa [Route.sortColumn?] using h
    exact Or.inr ⟨_, _, rfl, rfl, rfl, rfl⟩

private theorem sortTarget?_id (direction : Sql.Direction) :
    compiler.sortTarget? ⟨"id", direction⟩ = none := by
  have hroute : Route.ofField? compiler.catalog "id" =
      some (.artist { Column.uuid "id" with primaryKey := true }) := by
    rw [Route.ofField?_eq_some]
    exact Route.HasName.artist (by simp [Schema.artists]) (by decide)
  rw [sortTarget?, hroute]
  rfl

private theorem addSort_eq_ok {before after : JoinSet × List (OrderKey Expr)} {item : SortItem}
    (h : compiler.addSort before item = .ok after) :
    after.1 = before.1.after ((compiler.sortTarget? item).toList.map .reuse) ∧
      ∃ key, after.2 = before.2 ++ [key] ∧ compiler.IsKeyOf after.1 item key := by
  obtain ⟨route, hroute, h⟩ := bind_eq_ok h
  have htarget : compiler.sortTarget? item = route.joinTarget? := by
    rw [sortTarget?, Catalog.route_ok hroute, Option.bind_some]
  split at h
  · simp at h
  rename_i key type joins hcolumn
  split at h
  · rename_i hfield
    obtain rfl := Except.ok.inj h
    obtain ⟨field, direction⟩ := item
    obtain rfl : field = "id" := hfield
    rw [sortTarget?_id]
    exact ⟨rfl, _, rfl, .id rfl⟩
  split at h
  · simp at h
  · obtain rfl := Except.ok.inj h
    rw [htarget]
    rcases sortColumn?_eq_some hcolumn with
      ⟨column, rfl, rfl, rfl, rfl⟩ | ⟨target, name, hsome, hname, rfl, rfl⟩
    · exact ⟨rfl, _, rfl, .artist hroute⟩
    · obtain ⟨j, hfirst, halias⟩ := before.1.exists_isFirst_reuseOrAllocate target
      rw [hsome, halias]
      exact ⟨rfl, _, rfl, .joined hroute hsome hname hfirst⟩

private theorem orderKeys_eq_ok {joins joins' : JoinSet} {sort : List SortItem}
    {keys : List (OrderKey Expr)} (h : compiler.orderKeys joins sort = .ok (joins', keys)) :
    joins' = joins.after ((sort.filterMap compiler.sortTarget?).map .reuse) ∧
      ∃ first, keys = first ++ [{ expr := artistId }] ∧
        List.Forall₂ (compiler.IsKeyOf joins') sort first := by
  obtain ⟨⟨joins', first⟩, hsort, h⟩ := bind_eq_ok h
  obtain ⟨rfl, rfl⟩ := Prod.mk.inj (Except.ok.inj h)
  have hsorted : joins' = joins.after ((sort.filterMap compiler.sortTarget?).map .reuse) ∧
      List.Forall₂ (compiler.IsKeyOf joins') sort first := by
    refine foldlM_induction (motive := fun done sorted =>
      sorted.1 = joins.after ((done.filterMap compiler.sortTarget?).map .reuse) ∧
        List.Forall₂ (compiler.IsKeyOf sorted.1) done sorted.2) ⟨rfl, .nil⟩ ?_ hsort
    rintro done item before after ⟨hjoins, hkeys⟩ hstep
    obtain ⟨hadded, key, hkey, hisKey⟩ := addSort_eq_ok hstep
    obtain ⟨more, hmore⟩ := before.1.isPrefix_after ((compiler.sortTarget? item).toList.map .reuse)
    rw [← hadded] at hmore
    constructor
    · rw [hadded, hjoins, ← JoinSet.after_append, ← List.map_append, List.filterMap_append]
      cases htarget : compiler.sortTarget? item <;> simp [htarget]
    · rw [hkey]
      refine List.rel_append ?_ (.cons hisKey .nil)
      rw [← hmore]
      exact hkeys.imp fun _ _ hold => hold.append more
  exact ⟨hsorted.1, first, rfl, hsorted.2⟩

end Compiler

/-- Whatever calls were made, aliases are numbered and joins stay, and a further call is answered by the
alias of the join that it leaves for its target. A page has the joins of its filter, and then those that
its sort alone needs. -/
theorem aliases_allocated :
    (∀ calls more : List JoinSet.Call, JoinSet.after [] calls <+: JoinSet.after [] (calls ++ more)) ∧
    (∀ calls : List JoinSet.Call, let joins := JoinSet.after [] calls
      joins.IsNumbered ∧ ∀ target : JoinTarget,
        (∃ next, joins.answer (.next target) = (next, joins) ∧
          joins.answer (.allocate target) = (next, joins ++ [⟨target, next⟩])) ∧
        (∀ j, joins.IsFirst target j → joins.answer (.reuse target) = (j.aliasName, joins)) ∧
        ((∀ j ∈ joins, j.target ≠ target) →
          joins.answer (.reuse target) = joins.answer (.allocate target))) ∧
    ∀ (compiler : Compiler) (plan : FilterPlan) sort page query,
      compiler.pageQuery plan sort page = .ok query →
        ∃ added : JoinSet,
          query.joins = (plan.joins ++ added).map (fun joined =>
            ⟨.left, { table := joined.target.table.name, aliasName := some joined.aliasName },
              plan.joinCondition joined⟩) ∧
          (added.map JoinedTable.target).Nodup ∧
          added.map JoinedTable.target =
            JoinSet.newTargets (plan.joins.map JoinedTable.target) (sort.filterMap compiler.sortTarget?) ∧
          (∃ keys, query.orderBy = keys ++ [{ expr := artistId }] ∧
            List.Forall₂ (compiler.IsKeyOf (plan.joins ++ added)) sort keys) ∧
          ∀ tenant scope items, compiler.planWithin tenant scope items = .ok plan →
            ∃ calls more, plan.joins = JoinSet.after [] calls ∧
              plan.joins ++ added = JoinSet.after [] (calls ++ more) := by
  refine ⟨?_, ?_, ?_⟩
  · intro calls more
    rw [JoinSet.after_append]
    exact JoinSet.isPrefix_after _ more
  · intro calls joins
    refine ⟨(JoinSet.after_allocatedFrom [] calls).isNumbered, fun target => ⟨?_, ?_, ?_⟩⟩
    · exact ⟨_, rfl, rfl⟩
    · exact fun j hfirst => hfirst.reuseOrAllocate
    · exact fun hnew => JoinSet.reuseOrAllocate_of_new hnew
  · intro compiler plan sort page query hquery
    obtain ⟨sorted, hsorted, hquery⟩ := bind_eq_ok hquery
    obtain ⟨joins, keys, hkeys, rfl⟩ := Compiler.sortedQuery_cases hsorted
    obtain ⟨hjoins, first, hfirst, hread⟩ := Compiler.orderKeys_eq_ok hkeys
    obtain ⟨added, hadded, htargets⟩ := JoinSet.after_reuse plan.joins (sort.filterMap compiler.sortTarget?)
    rw [hadded] at hjoins
    subst hjoins
    rw [← Except.ok.inj hquery]
    refine ⟨added, rfl, htargets ▸ JoinSet.newTargets_nodup _ _, htargets, ⟨first, hfirst, hread⟩, ?_⟩
    intro tenant scope items hplan
    obtain ⟨calls, hcalls⟩ := (Compiler.planWithin_isScoped hplan).allocated.exists_calls
    refine ⟨calls, (sort.filterMap compiler.sortTarget?).map .reuse, hcalls, ?_⟩
    rw [JoinSet.after_append, ← hcalls, hadded]

/-- A target with a join, one without, and a sort that needs one join beside those of its filter. -/
theorem aliases_allocated_sample :
    (JoinSet.after [] [.allocate (.statistic 7), .reuse (.statistic 5)]).answer (.reuse (.statistic 5)) =
      ("statistic_2", JoinSet.after [] [.allocate (.statistic 7), .reuse (.statistic 5)]) ∧
    (JoinSet.after [] [.allocate (.statistic 7)]).answer (.reuse .membership) =
      (JoinSet.after [] [.allocate (.statistic 7)]).answer (.allocate .membership) ∧
    ∃ plan query, Compiler.sample.planWithin "t" .standard Compiler.sampleItems = .ok plan ∧
      Compiler.sample.pageQuery plan
        [⟨"statistic.7-avg", .desc⟩, ⟨"evaluation.label", .asc⟩, ⟨"evaluation.status", .asc⟩] ⟨0, 10⟩ =
          .ok query ∧
      ∃ added calls more, added.map JoinedTable.target = [.evaluation] ∧
        plan.joins = JoinSet.after [] calls ∧
          plan.joins ++ added = JoinSet.after [] (calls ++ more) := by
  obtain ⟨_, hcalls, hpage⟩ := aliases_allocated
  obtain ⟨plan, query, hplan, hquery, hjoined⟩ : ∃ plan query,
      Compiler.sample.planWithin "t" .standard Compiler.sampleItems = .ok plan ∧
      Compiler.sample.pageQuery plan
        [⟨"statistic.7-avg", .desc⟩, ⟨"evaluation.label", .asc⟩, ⟨"evaluation.status", .asc⟩] ⟨0, 10⟩ =
          .ok query ∧
      plan.joins.map JoinedTable.target = [.membership, .statistic 7] := ⟨_, _, rfl, rfl, rfl⟩
  have hread : [(⟨"statistic.7-avg", .desc⟩ : SortItem), ⟨"evaluation.label", .asc⟩,
      ⟨"evaluation.status", .asc⟩].filterMap Compiler.sample.sortTarget? =
        [.statistic 7, .evaluation, .evaluation] := by decide +kernel
  refine ⟨?_, ?_, plan, query, hplan, hquery, ?_⟩
  · have hfirst : JoinSet.IsFirst
        (JoinSet.after [] [.allocate (.statistic 7), .reuse (.statistic 5)]) (.statistic 5)
        ⟨.statistic 5, "statistic_2"⟩ := by
      rw [← JoinSet.find?_eq_some_iff]
      rfl
    exact ((hcalls _).2 _).2.1 _ hfirst
  · exact ((hcalls _).2 _).2.2 (by decide)
  · obtain ⟨added, _, _, htargets, _, hallocated⟩ := hpage _ _ _ _ _ hquery
    obtain ⟨calls, more, hstart, hjoins⟩ := hallocated _ _ _ hplan
    rw [hjoined, hread] at htargets
    exact ⟨added, calls, more, htargets.trans (by decide +kernel), hstart, hjoins⟩

end TenantGrid
