import TenantGrid.Proofs.Filter.Faults
import TenantGrid.Proofs.Plan.Invariant
/-!
# Items of a plan on their own

The alias that an item would get depends on the items before it, but whether the item fails, puts no
condition or puts one does not, and neither does the test that it makes. A plan is therefore put
together from the plans of its items: it fails like the first item that fails, and items without a
condition leave no trace in it.
-/
namespace TenantGrid

open Sql (Expr)

/-- What one item puts into a plan: a condition, and the join that the condition reads if it reads
one. -/
structure Share where
  join? : Option JoinedTable
  predicate : Expr

namespace FilterPlan

/-- The plan with the shares of further items. -/
def withShares (plan : FilterPlan) (shares : List Share) : FilterPlan :=
  { plan with
    joins := plan.joins ++ shares.filterMap Share.join?
    predicates := plan.predicates ++ shares.map Share.predicate }

@[simp]
theorem withShares_nil (plan : FilterPlan) : plan.withShares [] = plan := by
  simp [withShares]

@[simp]
theorem withShares_withShares (plan : FilterPlan) (shares more : List Share) :
    (plan.withShares shares).withShares more = plan.withShares (shares ++ more) := by
  simp [withShares]

/-- Whether the only item of a plan puts a share into longer ones. A condition that reads a join is the
same test there, of the rows that the share's own join adds. -/
inductive Yields (own : FilterPlan) : Option JoinTarget → Share → Prop
  | direct {e : Expr} (hjoins : own.joins = []) (hpredicates : own.predicates = [e]) :
    Yields own none ⟨none, e⟩
  | joined {target : JoinTarget} {first aliasName name : String} {t : Test}
    (hjoins : own.joins = [⟨target, first⟩])
    (hpredicates : own.predicates = [t.on (.ofTable first name)]) :
    Yields own (some target) ⟨some ⟨target, aliasName⟩, t.on (.ofTable aliasName name)⟩

variable {own : FilterPlan} {target : Option JoinTarget} {share : Share}

private theorem Yields.predicates_ne_nil (h : own.Yields target share) : own.predicates ≠ [] := by
  cases h with
  | direct _ hpredicates | joined _ hpredicates => simp [hpredicates]

private theorem Yields.target_eq (h : own.Yields target share) :
    share.join?.map JoinedTable.target = target := by
  cases h <;> rfl

end FilterPlan

namespace Compiler

variable {compiler : Compiler} {tenant : String} {scope : Scope} {item : FilterItem}

/-- Whether two conditions are the same but for the alias that the next join of a target gets. -/
def SameButAlias (joins joins' : JoinSet) : Option JoinTarget → Expr → Expr → Prop
  | none, e, e' => e = e'
  | some target, e, e' => ∃ (t : Test) (name : String),
    e = t.on (.ofTable (joins.nextAlias target) name) ∧
      e' = t.on (.ofTable (joins'.nextAlias target) name)

private theorem TestsColumn.sameOutcome {name : String} {passes : Sql.Collation → Sql.Value → Prop}
    {put : String → Except RequestError (Option Expr)} (h : TestsColumn name passes put)
    (joins joins' : JoinSet) (target : JoinTarget) :
    SameOutcome (Option.Rel (SameButAlias joins joins' (some target)))
      (put (joins.nextAlias target)) (put (joins'.nextAlias target)) := by
  obtain ⟨r, hput, _⟩ := h
  rw [hput, hput]
  refine (SameOutcome.refl r).map fun found found' hfound => ?_
  subst hfound
  cases found with
  | none => exact .none
  | some t => exact .some ⟨t, name, rfl, rfl⟩

private theorem itemPredicate_sameButAlias (tenant : String) (joins joins' : JoinSet)
    (item : FilterItem) (route : Route) :
    SameOutcome (Option.Rel (SameButAlias joins joins' route.joinTarget?))
      (compiler.itemPredicate tenant joins item route)
      (compiler.itemPredicate tenant joins' item route) := by
  cases route with
  | statistic typeId metric =>
    exact (compiler.statisticPredicate_testsColumn item metric).sameOutcome joins joins' _
  | evaluation column | membership column =>
    exact (compiler.columnPredicate_testsColumn item column).sameOutcome joins joins' _
  | attribution column =>
    exact (compiler.attributionPredicate_testsColumn item column).sameOutcome joins joins' _
  | artist column | tags type | users =>
    refine (SameOutcome.refl _).imp fun put put' hput => ?_
    subst hput
    cases put with
    | none => exact .none
    | some e => exact .some rfl

/-- Whether an item does to a plan what it does on its own: nothing, or add its share. -/
def AddsAlike (compiler : Compiler) (item : FilterItem) (plan after own : FilterPlan) : Prop :=
  (own.predicates = [] ∧ after = plan) ∨
    ∃ route share, compiler.catalog.route item.field = .ok route ∧
      own.Yields route.joinTarget? share ∧ after = plan.withShares [share]

private theorem exists_share (plan own : FilterPlan) {target : Option JoinTarget} {e e' : Expr}
    (h : SameButAlias plan.joins own.joins target e e') (hjoins : own.joins = [])
    (hpredicates : own.predicates = []) :
    ∃ share, FilterPlan.Yields { own with joins := joinsAfter own.joins target
                                          predicates := own.predicates ++ [e'] } target share ∧
      { plan with joins := joinsAfter plan.joins target, predicates := plan.predicates ++ [e] } =
        plan.withShares [share] := by
  cases target with
  | none =>
    obtain rfl : e = e' := h
    exact ⟨⟨none, e⟩, .direct hjoins (by simp [hpredicates]), by simp [FilterPlan.withShares, joinsAfter]⟩
  | some target =>
    obtain ⟨t, name, rfl, rfl⟩ := h
    have hjoined : joinsAfter own.joins (some target) = [⟨target, own.joins.nextAlias target⟩] := by
      simp [joinsAfter, JoinSet.allocate, hjoins]
    exact ⟨⟨some ⟨target, plan.joins.nextAlias target⟩, _⟩, .joined hjoined (by simp [hpredicates]), rfl⟩

private theorem addItem_alike (plan : FilterPlan) (scope : Scope) (item : FilterItem) :
    SameOutcome (compiler.AddsAlike item plan) (compiler.addItem plan item)
      (compiler.planWithin plan.tenant scope [item]) := by
  have halone : compiler.planWithin plan.tenant scope [item] =
      compiler.addItem { tenant := plan.tenant, scope } item := by
    rw [planWithin, List.foldlM_cons]
    exact bind_pure _
  rw [halone]
  refine (SameOutcome.refl (compiler.catalog.route item.field)).bind fun route route' hroute _ heq => ?_
  subst heq
  refine (itemPredicate_sameButAlias plan.tenant plan.joins [] item route).bind
    fun put put' _ _ hput => ?_
  cases hput with
  | none => exact .ok (.inl ⟨rfl, rfl⟩)
  | some he =>
    obtain ⟨share, hyields, hafter⟩ := exists_share plan { tenant := plan.tenant, scope } he rfl rfl
    exact .ok (.inr ⟨route, share, hroute, hyields, hafter⟩)

private theorem itemPredicate_pointsAt (tenant : String) (joins : JoinSet) (item : FilterItem)
    (route : Route) : PointsAt item.field (compiler.itemPredicate tenant joins item route) := by
  have hoperator : ∀ type, PointsAt item.field (operator item type) := by
    intro type
    unfold operator
    split
    · exact .ok _
    · exact .error rfl
  have hsubject : ∀ (s : Subject) (op : Operator), s.field = item.field →
      PointsAt item.field (s.predicate compiler.escapeNegated op item.value) :=
    fun s op hfield => hfield ▸ s.predicate_pointsAt item.value compiler.escapeNegated op
  cases route with
  | artist | evaluation | membership | statistic =>
    exact (hoperator _).bind fun op => hsubject _ op rfl
  | attribution column =>
    refine (attributionOperator_pointsAt item.field item.value).bind fun found => ?_
    cases found with
    | none => exact .ok none
    | some op => exact hsubject _ op rfl
  | tags | users =>
    exact (hoperator .text).bind fun op =>
      (Membership.ofItem_pointsAt _ _ _ op item.value).bind fun _ => .ok _

private theorem addItem_pointsAt (plan : FilterPlan) (item : FilterItem) :
    PointsAt item.field (compiler.addItem plan item) := by
  refine (compiler.catalog.route_pointsAt item.field).bind fun route =>
    (itemPredicate_pointsAt plan.tenant plan.joins item route).bind fun put => ?_
  cases put <;> exact .ok _

/-- Whether an item puts a condition into the plan of its own. -/
def yields (compiler : Compiler) (tenant : String) (scope : Scope) (item : FilterItem) : Bool :=
  match compiler.planWithin tenant scope [item] with
  | .ok own => !own.predicates.isEmpty
  | .error _ => false

/-- The join that the route of an item reads. -/
def joinTarget? (compiler : Compiler) (item : FilterItem) : Option JoinTarget :=
  match compiler.catalog.route item.field with
  | .ok route => route.joinTarget?
  | .error _ => none

/-- Whether a share is that of an item, by the plan of its own. -/
def IsShareOf (compiler : Compiler) (tenant : String) (scope : Scope) (item : FilterItem)
    (share : Share) : Prop :=
  ∃ own, compiler.planWithin tenant scope [item] = .ok own ∧
    own.Yields (compiler.joinTarget? item) share

private theorem yields_eq_false {own : FilterPlan}
    (hown : compiler.planWithin tenant scope [item] = .ok own)
    (hput : own.predicates = []) : compiler.yields tenant scope item = false := by
  simp [yields, hown, hput]

private theorem IsShareOf.yields {share : Share} (h : compiler.IsShareOf tenant scope item share) :
    compiler.yields tenant scope item = true := by
  obtain ⟨own, hown, hyields⟩ := h
  simp [Compiler.yields, hown, hyields.predicates_ne_nil]

private theorem addItem_of_alone {plan own : FilterPlan}
    (hown : compiler.planWithin plan.tenant scope [item] = .ok own) :
    (compiler.yields plan.tenant scope item = false ∧ compiler.addItem plan item = .ok plan) ∨
      ∃ share, compiler.IsShareOf plan.tenant scope item share ∧
        compiler.addItem plan item = .ok (plan.withShares [share]) := by
  have halike := compiler.addItem_alike plan scope item
  rw [hown] at halike
  generalize hstep : compiler.addItem plan item = step at halike
  cases halike with
  | ok h =>
    obtain ⟨hput, rfl⟩ | ⟨route, share, hroute, hyields, rfl⟩ := h
    · exact .inl ⟨yields_eq_false hown hput, rfl⟩
    · refine .inr ⟨share, ⟨own, hown, ?_⟩, rfl⟩
      rwa [joinTarget?, hroute]

private theorem foldlM_addItem_of_alone (items : List FilterItem) (plan : FilterPlan)
    (scope : Scope)
    (h : ∀ item ∈ items, ∃ own, compiler.planWithin plan.tenant scope [item] = .ok own) :
    ∃ shares, List.Forall₂ (compiler.IsShareOf plan.tenant scope)
        (items.filter (compiler.yields plan.tenant scope)) shares ∧
      items.foldlM compiler.addItem plan = .ok (plan.withShares shares) ∧
      (items.filter (compiler.yields plan.tenant scope)).foldlM compiler.addItem plan =
        .ok (plan.withShares shares) := by
  induction items generalizing plan with
  | nil => exact ⟨[], .nil, by simp [pure, Except.pure], by simp [pure, Except.pure]⟩
  | cons item rest ih =>
    obtain ⟨own, hown⟩ := h item (by simp)
    have hrest := fun other hother => h other (List.mem_cons_of_mem item hother)
    obtain ⟨hput, hstep⟩ | ⟨share, hshare, hstep⟩ := addItem_of_alone hown
    · obtain ⟨shares, hshares, hall, hkept⟩ := ih plan hrest
      refine ⟨shares, ?_, ?_, ?_⟩
      · rwa [List.filter_cons_of_neg (by simp [hput])]
      · rw [List.foldlM_cons, hstep]
        exact hall
      · rwa [List.filter_cons_of_neg (by simp [hput])]
    · obtain ⟨shares, hshares, hall, hkept⟩ := ih (plan.withShares [share]) hrest
      rw [FilterPlan.withShares_withShares] at hall hkept
      refine ⟨share :: shares, ?_, ?_, ?_⟩
      · rw [List.filter_cons_of_pos hshare.yields]
        exact .cons hshare hshares
      · rw [List.foldlM_cons, hstep]
        exact hall
      · rw [List.filter_cons_of_pos hshare.yields, List.foldlM_cons, hstep]
        exact hkept

private theorem joinTargets_of_shares {items : List FilterItem} {shares : List Share}
    (h : List.Forall₂ (compiler.IsShareOf tenant scope) items shares) :
    (shares.filterMap Share.join?).map JoinedTable.target = items.filterMap compiler.joinTarget? := by
  induction h with
  | nil => rfl
  | @cons item share items shares hshare _ ih =>
    obtain ⟨own, _, hyields⟩ := hshare
    have htarget := hyields.target_eq
    cases hjoin : share.join? with
    | none =>
      rw [hjoin] at htarget
      rw [List.filterMap_cons_none hjoin, List.filterMap_cons_none htarget.symm, ih]
    | some joined =>
      rw [hjoin] at htarget
      rw [List.filterMap_cons_some hjoin, List.filterMap_cons_some htarget.symm, List.map_cons, ih]

private theorem planWithin_append_error {before after : List FilterItem} {error : RequestError}
    (hbefore : ∀ other ∈ before, ∃ own, compiler.planWithin tenant scope [other] = .ok own)
    (hitem : compiler.planWithin tenant scope [item] = .error error) :
    compiler.planWithin tenant scope (before ++ item :: after) = .error error := by
  obtain ⟨shares, _, hrun, _⟩ :=
    compiler.foldlM_addItem_of_alone before { tenant, scope } scope hbefore
  refine foldlM_eq_error.mpr ⟨before, item, after, _, rfl, hrun, ?_⟩
  exact (addItem_alike (FilterPlan.withShares { tenant, scope } shares) scope item).eq_error_iff.mpr hitem

private theorem planWithin_without {before after : List FilterItem} {own : FilterPlan}
    {scope' : Scope} (hown : compiler.planWithin tenant scope [item] = .ok own)
    (hput : own.predicates = []) :
    compiler.planWithin tenant scope' (before ++ item :: after) =
      compiler.planWithin tenant scope' (before ++ after) := by
  unfold planWithin
  rw [List.foldlM_append, List.foldlM_append]
  cases hbefore : before.foldlM compiler.addItem { tenant, scope := scope' } with
  | error e => rfl
  | ok plan =>
    have htenant : plan.tenant = tenant := (planWithin_request hbefore).1
    rw [← htenant] at hown
    obtain ⟨_, hstep⟩ | ⟨share, hshare, _⟩ := addItem_of_alone hown
    · change (item :: after).foldlM compiler.addItem plan = after.foldlM compiler.addItem plan
      rw [List.foldlM_cons, hstep]
      rfl
    · have hyields := hshare.yields
      rw [yields_eq_false hown hput] at hyields
      exact nomatch hyields

/-- The statement of a mode for items within a scope. -/
def statementWithin (compiler : Compiler) (tenant : String) (scope : Scope) (items : List FilterItem)
    (sort : List SortItem) (page : Page) (mode : Mode) : Except RequestError Sql.Statement := do
  let plan ← compiler.planWithin tenant scope items
  let query ← compiler.modeQuery plan sort page mode
  .ok (query.statement compiler.dialect)

/-- A plan is put together from the plans of its items. It fails like the first item that fails on its
own, with an error that points at the item's field. If none fails, it is the plan of the items that
yield a condition on their own, with one condition and the join of its route for each of them, in order.
Every other item can be put in or left out anywhere without a change to any statement. -/
theorem planWithin_itemByItem (compiler : Compiler) (tenant : String) (scope : Scope)
    (items : List FilterItem) :
    (∀ before item after error, items = before ++ item :: after →
      (∀ other ∈ before, ∃ own, compiler.planWithin tenant scope [other] = .ok own) →
      compiler.planWithin tenant scope [item] = .error error →
        compiler.planWithin tenant scope items = .error error ∧ error.field = item.field) ∧
    ((∀ item ∈ items, ∃ own, compiler.planWithin tenant scope [item] = .ok own) →
      let kept := items.filter (compiler.yields tenant scope)
      ∃ plan shares, compiler.planWithin tenant scope items = .ok plan ∧
        compiler.planWithin tenant scope kept = .ok plan ∧
        List.Forall₂ (compiler.IsShareOf tenant scope) kept shares ∧
        plan.predicates = shares.map Share.predicate ∧
        plan.joins = shares.filterMap Share.join? ∧
        plan.joins.map JoinedTable.target = kept.filterMap compiler.joinTarget?) ∧
    (∀ before item after own, items = before ++ item :: after →
      compiler.planWithin tenant scope [item] = .ok own → own.predicates = [] →
        compiler.planWithin tenant scope items = compiler.planWithin tenant scope (before ++ after) ∧
        ∀ sort page mode,
          compiler.statementWithin tenant scope items sort page mode =
            compiler.statementWithin tenant scope (before ++ after) sort page mode ∧
          ∀ muted, compiler.compile tenant ⟨items, muted⟩ sort page mode =
            compiler.compile tenant ⟨before ++ after, muted⟩ sort page mode) := by
  refine ⟨?_, ?_, ?_⟩
  · rintro before item after error rfl hbefore hitem
    refine ⟨planWithin_append_error hbefore hitem, ?_⟩
    have hstep := (compiler.addItem_alike { tenant, scope } scope item).eq_error_iff.mpr hitem
    exact addItem_pointsAt _ item error hstep
  · intro halone kept
    obtain ⟨shares, hshares, hall, hkept⟩ :=
      compiler.foldlM_addItem_of_alone items { tenant, scope } scope halone
    exact ⟨_, shares, hall, hkept, hshares, by simp [FilterPlan.withShares],
      by simp [FilterPlan.withShares], by simpa [FilterPlan.withShares] using joinTargets_of_shares hshares⟩
  · rintro before item after own rfl hown hput
    have hplan : ∀ scope', compiler.planWithin tenant scope' (before ++ item :: after) =
        compiler.planWithin tenant scope' (before ++ after) := fun _ => planWithin_without hown hput
    refine ⟨hplan scope, fun sort page mode => ⟨?_, fun muted => ?_⟩⟩
    · unfold statementWithin
      rw [hplan]
    · unfold compile plan
      rw [show FilterModel.muteMode ⟨before ++ item :: after, muted⟩ =
        FilterModel.muteMode ⟨before ++ after, muted⟩ from rfl, hplan]

/-- Between two filters on memberships, one that chooses nothing takes no alias. -/
theorem planWithin_itemByItem_sample :
    ({} : Compiler).planWithin "t" .standard [⟨"organization.attribution_type", "equals", .null⟩] =
        .ok ⟨"t", .standard, [], []⟩ ∧
      ∃ plan, ({} : Compiler).planWithin "t" .standard
          [⟨"organization.favorite", "equals", .bool true⟩,
            ⟨"organization.attribution_type", "equals", .null⟩,
            ⟨"organization.muted", "equals", .bool false⟩] = .ok plan ∧
        ({} : Compiler).planWithin "t" .standard
          [⟨"organization.favorite", "equals", .bool true⟩,
            ⟨"organization.muted", "equals", .bool false⟩] = .ok plan ∧
        plan.joins = [⟨.membership, "organization_1"⟩, ⟨.membership, "organization_2"⟩] := by
  have hown : ({} : Compiler).planWithin "t" .standard
      [⟨"organization.attribution_type", "equals", .null⟩] = .ok ⟨"t", .standard, [], []⟩ := rfl
  have hsame := ((planWithin_itemByItem {} "t" .standard _).2.2
    [⟨"organization.favorite", "equals", .bool true⟩] _
    [⟨"organization.muted", "equals", .bool false⟩] _ rfl hown rfl).1
  refine ⟨hown, _, hsame, rfl, ?_⟩
  decide

end Compiler

end TenantGrid
