import TenantGrid.Plan.Change
import TenantGrid.Proofs.Plan.Invariant
import TenantGrid.Proofs.Plan.Sorting
import TenantGrid.Proofs.Sql.Agreement
/-!
# Isolation of tenants

What one tenant sees does not depend on the rows of others. Every query that reads a table with rows
of several tenants restricts them to its own, and an update changes no others.
-/
namespace TenantGrid

open Sql (Collation Database Env Expr OrderKey Query Record Value)

/-- Whether two databases are the same to a tenant: they share all that belongs to no tenant, the
tenant's rows, and the tags of no organization. -/
structure AgreeFor (tenant : String) (db db' : Database) : Prop where
  shared : ∀ t ∈ [Schema.artists, Schema.evaluations, Schema.statistics, Schema.statisticTypes,
    Schema.artistLinks, Schema.linkSources], db t.name = db' t.name
  owned : ∀ t ∈ [Schema.memberships, Schema.userArtists],
    (db t.name).filter (fun row => row "organization_id" = .text tenant) =
      (db' t.name).filter fun row => row "organization_id" = .text tenant
  tags : (db Schema.tags.name).filter
      (fun row => row "organization_id" = .null ∨ row "organization_id" = .text tenant) =
    (db' Schema.tags.name).filter
      fun row => row "organization_id" = .null ∨ row "organization_id" = .text tenant

variable {c : Collation} {db db' : Database} {tenant : String}

private theorem Test.on_sameOn {column : Expr} (t : Test) (h : column.SameOn c db db') :
    (t.on column).SameOn c db db' := by
  intro group env
  rw [value_on, value_on, h group env]

private theorem andInner_test_sameOn {e column : Expr} (inner : Option Test)
    (he : e.SameOn c db db') (hcolumn : column.SameOn c db db') :
    (andInner e (inner.map (Test.on column))).SameOn c db db' := by
  cases inner with
  | none => exact he
  | some t => exact he.and (t.on_sameOn hcolumn)

theorem artistId_sameOn : artistId.SameOn c db db' :=
  .column _ _

private theorem countDistinct_sameOn {e : Expr} (he : e.SameOn c db db') :
    e.countDistinct.SameOn c db db' := by
  refine .call _ _ fun f hf => ?_
  obtain rfl := List.mem_singleton.mp hf
  exact he

private theorem Compiler.IsOrderKey.sameOn {compiler : Compiler} {e : Expr}
    (h : compiler.IsOrderKey e) : e.SameOn c db db' := by
  cases h with
  | id => exact artistId_sameOn
  | aggregate table name type direction =>
    have hcolumn : ∀ e ∈ [Expr.ofTable table name], e.SameOn c db db' := by
      intro e he
      obtain rfl := List.mem_singleton.mp he
      exact .column _ _
    unfold Compiler.aggregate
    cases direction <;> dsimp only <;> split <;> exact .call _ _ hcolumn

namespace AgreeFor

variable (h : AgreeFor tenant db db')

include h

private theorem tenantScope_sameOn (scope : Scope) :
    (tenantScope tenant scope).SameOn c db db' := by
  unfold tenantScope
  rw [scopeQuery_eq]
  refine artistId_sameOn.inQuery false (Sql.columnQuery_sameOn
    (scopeCondition_readsOnly tenant scope) ?_ (fun row hholds => ?_)
    (h.owned Schema.memberships (by simp)))
  · refine .foldl_and (.eq (.column _ _) (.param _)) fun e he => ?_
    obtain ⟨flag, _, rfl⟩ := List.mem_map.mp he
    exact .eq (.column _ _) (.literal _)
  · rw [scopeCondition_holds, Collation.same_text_iff] at hholds
    exact hholds.1

private theorem tagQuery_sameOn (type : TagType) (inner : Option Test) :
    (tagQuery tenant type (inner.map (Test.on (.ofTable tagAlias "tag")))).SameOn c db db' := by
  rw [tagQuery_eq]
  refine Sql.columnQuery_sameOn (andInner_test_readsOnly inner (tagCondition_readsOnly tenant type)
    (.ofTable _ (by simp))) (andInner_test_sameOn inner ?_ (.column _ _)) (fun row hholds => ?_) h.tags
  · exact .and (.eq (.column _ _) (.param _))
      (.paren (.or (.isNull false (.column _ _)) (.eq (.column _ _) (.param _))))
  · rw [andInner_holds, tagCondition_holds, Collation.same_text_iff] at hholds
    exact hholds.1.2

private theorem userQuery_sameOn (inner : Option Test) :
    (userQuery tenant (inner.map (Test.on (.ofTable userAlias "user_id")))).SameOn c db db' := by
  rw [userQuery_eq]
  refine Sql.columnQuery_sameOn (andInner_test_readsOnly inner (userCondition_readsOnly tenant)
    (.ofTable _ (by simp))) (andInner_test_sameOn inner ?_ (.column _ _)) (fun row hholds => ?_)
    (h.owned Schema.userArtists (by simp))
  · exact .eq (.column _ _) (.param _)
  · rw [andInner_holds, userCondition_holds, Collation.same_text_iff] at hholds
    exact hholds.1

private theorem itemPredicate_sameOn {compiler : Compiler} {joins : JoinSet} {item : FilterItem}
    {route : Route} {e : Expr}
    (he : compiler.itemPredicate tenant joins item route = .ok (some e)) : e.SameOn c db db' := by
  cases route with
  | artist column =>
    obtain ⟨t, rfl, _⟩ := (compiler.columnPredicate_testsColumn item column).exists_test he
    exact t.on_sameOn (.column _ _)
  | statistic typeId metric =>
    obtain ⟨t, rfl, _⟩ := (compiler.statisticPredicate_testsColumn item metric).exists_test he
    exact t.on_sameOn (.column _ _)
  | evaluation column | membership column =>
    obtain ⟨t, rfl, _⟩ := (compiler.columnPredicate_testsColumn item column).exists_test he
    exact t.on_sameOn (.column _ _)
  | attribution column =>
    obtain ⟨t, rfl, _⟩ := (compiler.attributionPredicate_testsColumn item column).exists_test he
    exact t.on_sameOn (.column _ _)
  | tags type =>
    obtain ⟨op, inner, rfl, _⟩ := compiler.relationPredicate_some he
    exact artistId_sameOn.inQuery _ (h.tagQuery_sameOn type inner)
  | users =>
    obtain ⟨op, inner, rfl, _⟩ := compiler.relationPredicate_some he
    exact artistId_sameOn.inQuery _ (h.userQuery_sameOn inner)

private theorem condition_sameOn {compiler : Compiler} {scope : Scope} {items : List FilterItem}
    {plan : FilterPlan} (hplan : compiler.planWithin tenant scope items = .ok plan) :
    plan.condition.SameOn c db db' := by
  obtain ⟨htenant, hpredicates⟩ : plan.tenant = tenant ∧
      ∀ e ∈ plan.predicates, e.SameOn c db db' := by
    refine foldlM_induction (motive := fun _ plan => plan.tenant = tenant ∧
      ∀ e ∈ plan.predicates, e.SameOn c db db') ⟨rfl, by simp⟩ ?_ hplan
    rintro done item before after ⟨htenant, hpredicates⟩ hstep
    obtain ⟨route, _, ⟨_, rfl⟩ | ⟨e, he, rfl⟩⟩ := Compiler.addItem_cases hstep
    · exact ⟨htenant, hpredicates⟩
    · refine ⟨htenant, ?_⟩
      simp only [List.mem_append, List.mem_singleton]
      rintro p (hp | rfl)
      · exact hpredicates p hp
      · exact h.itemPredicate_sameOn (htenant ▸ he)
  unfold FilterPlan.condition
  rw [htenant]
  exact .foldl_and (h.tenantScope_sameOn plan.scope) hpredicates

private theorem leftJoin_sameOn {plan : FilterPlan} (htenant : plan.tenant = tenant)
    (joined : JoinedTable) (outer : Env) {row : Env}
    (hfresh : joined.aliasName ∉ row.map Prod.fst) :
    Sql.joinMatches c db (plan.leftJoin joined) outer row =
      Sql.joinMatches c db' (plan.leftJoin joined) outer row := by
  obtain ⟨target, aliasName⟩ := joined
  cases target with
  | statistic typeId =>
    exact Sql.joinMatches_sameOn_of_eq
      (.and (.eq (.column _ _) artistId_sameOn) (.eq (.column _ _) (.param _)))
      (h.shared Schema.statistics (by simp)) outer row
  | evaluation =>
    exact Sql.joinMatches_sameOn_of_eq (.eq (.column _ _) (.column _ _))
      (h.shared Schema.evaluations (by simp)) outer row
  | membership =>
    refine Sql.joinMatches_sameOn (.and (.and (.eq (.column _ _) artistId_sameOn)
      (.eq (.column _ _) (.param _))) (.eq (.column _ _) (.literal _))) (fun record hholds => ?_)
      (h.owned Schema.memberships (by simp))
    have hnone := (Sql.lookup_eq_none_iff_notMem row aliasName).mpr hfresh
    simp only [FilterPlan.leftJoin, FilterPlan.joinCondition, Expr.holds_and, Expr.holds_eq,
      Expr.value_param, Expr.value_ofTable, Sql.readColumn, Sql.TableRef.referenceName,
      Option.getD_some, htenant, Collation.same_text_iff] at hholds
    simpa [List.lookup_append, hnone] using hholds.1.2

private theorem planned_sameOn {plan : FilterPlan} (htenant : plan.tenant = tenant)
    (hcondition : plan.condition.SameOn c db db') {joins : JoinSet} (hallocated : joins.Allocated)
    {query : Query} (hsource : query.source = some { table := Schema.artists.name })
    (hjoins : query.joins = joins.map plan.leftJoin) (hfilter : query.filter = some plan.condition)
    (hselect : ∀ item ∈ query.select, item.expr.SameOn c db db')
    (hgroup : ∀ e ∈ query.groupBy, e.SameOn c db db')
    (horder : ∀ key ∈ query.orderBy, key.expr.SameOn c db db') : query.SameOn c db db' := by
  intro outer
  refine Sql.queryResults_sameOn ?_ hselect hgroup horder
  refine Query.kept_sameOn hsource (h.shared Schema.artists (by simp)) ?_ ?_ ?_
  · rw [hjoins, List.map_map]
    exact hallocated.nodup
  · rw [hjoins]
    intro join hjoin row hfresh
    obtain ⟨joined, _, rfl⟩ := List.mem_map.mp hjoin
    exact h.leftJoin_sameOn htenant joined outer hfresh
  · rw [hfilter]
    intro e he
    obtain rfl := Option.mem_some.mp he
    exact hcondition

section Plan

variable {compiler planner : Compiler} {scope : Scope} {items : List FilterItem} {plan : FilterPlan}
  (hplan : planner.planWithin tenant scope items = .ok plan)

include hplan

private theorem idQuery_sameOn : plan.idQuery.SameOn c db db' := by
  refine h.planned_sameOn (Compiler.planWithin_request hplan).1 (h.condition_sameOn hplan)
    (Compiler.planWithin_isScoped hplan).allocated rfl rfl rfl ?_ (List.forall_mem_nil _)
    (List.forall_mem_nil _)
  intro item hitem
  obtain rfl := List.mem_singleton.mp hitem
  exact artistId_sameOn

private theorem countQuery_sameOn : plan.countQuery.SameOn c db db' := by
  refine h.planned_sameOn (Compiler.planWithin_request hplan).1 (h.condition_sameOn hplan)
    (Compiler.planWithin_isScoped hplan).allocated rfl rfl rfl ?_ (List.forall_mem_nil _)
    (List.forall_mem_nil _)
  intro item hitem
  obtain rfl := List.mem_singleton.mp hitem
  exact countDistinct_sameOn artistId_sameOn

private theorem sortedQuery_sameOn {sort : List SortItem} {query : Query}
    (hquery : compiler.sortedQuery plan sort = .ok query) (window : Option Sql.Window) :
    Query.SameOn c db db' { query with window } := by
  obtain ⟨joins, keys, hsort, rfl⟩ := Compiler.sortedQuery_cases hquery
  obtain ⟨hjoins, _, _, hkeys⟩ := Compiler.orderKeys_cases hsort
  refine h.planned_sameOn (Compiler.planWithin_request hplan).1 (h.condition_sameOn hplan)
    ((Compiler.planWithin_isScoped hplan).allocated.trans hjoins) rfl rfl rfl ?_ ?_ ?_
  · intro item hitem
    obtain rfl := List.mem_singleton.mp hitem
    exact artistId_sameOn
  · intro e he
    obtain rfl := List.mem_singleton.mp he
    exact artistId_sameOn
  · exact fun key hkey => (hkeys key hkey).sameOn

theorem modeQuery_sameOn {sort : List SortItem} {page : Page} {mode : Mode} {query : Query}
    (hquery : compiler.modeQuery plan sort page mode = .ok query) : query.SameOn c db db' := by
  cases mode with
  | count =>
    obtain rfl := Except.ok.inj hquery
    exact h.countQuery_sameOn hplan
  | rows =>
    obtain ⟨sorted, hsorted, hquery⟩ := bind_eq_ok hquery
    obtain rfl := Except.ok.inj hquery
    exact h.sortedQuery_sameOn hplan hsorted _
  | ids =>
    simp only [Compiler.modeQuery, Compiler.idsQuery] at hquery
    split at hquery
    · obtain rfl := Except.ok.inj hquery
      exact h.idQuery_sameOn hplan
    · exact h.sortedQuery_sameOn hplan hquery query.window

theorem labelQuery_sameOn : plan.labelQuery.SameOn c db db' := by
  intro outer
  have hnames : [Schema.artists.name, currentEvaluationAlias].Nodup := by decide
  refine Sql.queryResults_sameOn (Query.kept_sameOn rfl (h.shared Schema.artists (by simp))
    hnames ?_ ?_) ?_ ?_ ?_
  · intro join hjoin row _
    obtain rfl := List.mem_singleton.mp hjoin
    exact Sql.joinMatches_sameOn_of_eq (.eq (.column _ _) (.column _ _))
      (h.shared Schema.evaluations (by simp)) outer row
  · intro e he
    obtain rfl := Option.mem_some.mp he
    exact artistId_sameOn.inQuery false (h.idQuery_sameOn hplan)
  · simp only [FilterPlan.labelQuery, Query.leftJoined, Query.joined, Query.filtered, List.mem_cons,
      List.not_mem_nil, or_false]
    rintro item (rfl | rfl)
    · exact .column _ _
    · exact countDistinct_sameOn artistId_sameOn
  · intro e he
    obtain rfl := List.mem_singleton.mp he
    exact .column _ _
  · simp only [FilterPlan.labelQuery, Query.leftJoined, Query.joined, Query.filtered, List.mem_cons,
      List.not_mem_nil, or_false]
    rintro key (rfl | rfl)
    · exact countDistinct_sameOn artistId_sameOn
    · exact .column _ _

end Plan

theorem lookupQuery_sameOn (id : Uuid) : (lookupQuery tenant id).SameOn c db db' := by
  intro outer
  refine Sql.queryResults_sameOn (Query.kept_sameOn rfl (h.shared Schema.artists (by simp))
    (List.nodup_singleton _) (List.forall_mem_nil _) ?_) ?_ (List.forall_mem_nil _)
    (List.forall_mem_nil _)
  · intro e he
    obtain rfl := Option.mem_some.mp he
    exact .and (artistId_sameOn.eq (.param _)) (h.tenantScope_sameOn _)
  · intro item hitem
    obtain rfl := List.mem_singleton.mp hitem
    exact artistId_sameOn

end AgreeFor

namespace FilterPlan

variable (plan : FilterPlan) (change : MembershipChange) (row : Record)

private theorem membershipUpdate_selects
    (hselects : (plan.membershipUpdate change).selects c db row = true) :
    row "organization_id" = .text plan.tenant := by
  have hholds : (((Expr.bare "organization_id").eq (.param (.text plan.tenant))).Holds c db
      {[(Schema.memberships.name, row)]} [(Schema.memberships.name, row)]) := by
    simp only [Sql.Update.selects, membershipUpdate, Sql.Update.filtered, Expr.conjoin, Sql.meets,
      decide_eq_true_eq] at hselects
    exact (Expr.holds_and _ _).mp ((Expr.holds_and _ _).mp hselects).1 |>.1
  rw [Expr.holds_eq, Expr.value_param, Collation.same_text_iff] at hholds
  simpa [Expr.bare, Expr.value, Sql.readColumn] using hholds

theorem membershipUpdate_changed_of_ne (hne : row "organization_id" ≠ .text plan.tenant) :
    (plan.membershipUpdate change).changed c db row = row := by
  unfold Sql.Update.changed
  rw [if_neg fun hselects => hne (plan.membershipUpdate_selects change row hselects)]

/-- No row changes hands. -/
theorem membershipUpdate_changed_organization :
    (plan.membershipUpdate change).changed c db row "organization_id" = row "organization_id" := by
  unfold Sql.Update.changed
  split
  · cases change <;>
      simp [membershipUpdate, MembershipChange.assignments, Sql.Update.filtered]
  · rfl

/-- An update leaves the rows of all other organizations as they are. -/
theorem membershipUpdate_others :
    ((plan.membershipUpdate change).apply c db Schema.memberships.name).filter
        (fun row => row "organization_id" ≠ .text plan.tenant) =
      (db Schema.memberships.name).filter fun row => row "organization_id" ≠ .text plan.tenant := by
  have happly : (plan.membershipUpdate change).apply c db Schema.memberships.name =
      (db Schema.memberships.name).map ((plan.membershipUpdate change).changed c db) :=
    Function.update_self _ _ _
  rw [happly, Multiset.filter_map]
  simp only [Function.comp_def, membershipUpdate_changed_organization]
  refine (Multiset.map_congr rfl fun row hrow => ?_).trans (Multiset.map_id' _)
  exact plan.membershipUpdate_changed_of_ne change row (Multiset.mem_filter.mp hrow).2

end FilterPlan

end TenantGrid
