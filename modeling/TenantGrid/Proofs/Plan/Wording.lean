import TenantGrid.Plan.Change
import TenantGrid.Proofs.Filter.Shape
import TenantGrid.Proofs.Plan.Invariant
import TenantGrid.Proofs.Plan.Sorting
/-!
# Wording of statements

The text of a statement depends on what a request asks for, but not on the values it holds or on the
tenant. Two requests of one shape are compiled to the same words, step by step.
-/
namespace TenantGrid

open Sql (Expr OrderKey Query Statement)

private theorem columnQuery_words (table aliasName column : String) (distinct : Bool) {e e' : Expr}
    (h : e.words = e'.words) : (Sql.columnQuery table aliasName column distinct e).words =
      (Sql.columnQuery table aliasName column distinct e').words :=
  Query.SameFrame.words ⟨rfl, rfl, rfl, rfl, congrArg some h, rfl, rfl, rfl⟩

private theorem tenantScope_words (tenant tenant' : String) (scope : Scope) :
    (tenantScope tenant scope).words = (tenantScope tenant' scope).words := by
  unfold tenantScope
  rw [scopeQuery_eq, scopeQuery_eq]
  refine Expr.words_inQuery artistId false (columnQuery_words _ _ _ _ ?_)
  exact Expr.words_foldl_and (Expr.words_binary .eq rfl (Expr.words_param _ _)) rfl

private theorem andInner_words {e e' : Expr} {inner inner' : Option Expr} (he : e.words = e'.words)
    (hinner : inner.map Expr.words = inner'.map Expr.words) :
    (andInner e inner).words = (andInner e' inner').words := by
  cases inner with
  | none =>
    cases inner' with
    | none => exact he
    | some i' => simp at hinner
  | some i =>
    cases inner' with
    | none => simp at hinner
    | some i' => exact Expr.words_and he (Option.some.inj hinner)

private theorem tagQuery_words (tenant tenant' : String) (type : TagType)
    {inner inner' : Option Expr} (h : inner.map Expr.words = inner'.map Expr.words) :
    (tagQuery tenant type inner).words = (tagQuery tenant' type inner').words := by
  rw [tagQuery_eq, tagQuery_eq]
  exact columnQuery_words _ _ _ _ (andInner_words rfl h)

private theorem userQuery_words (tenant tenant' : String) {inner inner' : Option Expr}
    (h : inner.map Expr.words = inner'.map Expr.words) :
    (userQuery tenant inner).words = (userQuery tenant' inner').words := by
  rw [userQuery_eq, userQuery_eq]
  exact columnQuery_words _ _ _ _ (andInner_words rfl h)

namespace Compiler

variable {compiler compiler' : Compiler} {tenant tenant' : String} {item item' : FilterItem}

section Items

variable (hitem : item.SameShape item') (hescape : compiler.escapeNegated = compiler'.escapeNegated)

include hitem

private theorem operator_unique {type : ColumnType} {op op' : Operator}
    (h : operator item type = .ok op) (h' : operator item' type = .ok op') : op = op' := by
  have hop := operator_ok h
  rw [hitem.operator] at hop
  exact Option.some.inj (hop.symm.trans (operator_ok h'))

include hescape

private theorem predicate_words_of_operator {column : Expr} {type : ColumnType} {percent : Bool}
    {e e' : Option Expr}
    (he : (operator item type >>= fun op => ({ field := item.field, column, type, percent } :
      Subject).predicate compiler.escapeNegated op item.value) = .ok e)
    (he' : (operator item' type >>= fun op => ({ field := item'.field, column, type, percent } :
      Subject).predicate compiler'.escapeNegated op item'.value) = .ok e') :
    e.map Expr.words = e'.map Expr.words := by
  obtain ⟨op, hop, he⟩ := bind_eq_ok he
  obtain ⟨op', hop', he'⟩ := bind_eq_ok he'
  obtain rfl := operator_unique hitem hop hop'
  rw [← hitem.field, ← hescape] at he'
  exact Subject.predicate_words hitem.value he he'

private theorem attributionPredicate_words {aliasName : String} {column : Column}
    {e e' : Option Expr} (hfield : item.field = "organization.attribution_type")
    (he : compiler.attributionPredicate item aliasName column = .ok e)
    (he' : compiler'.attributionPredicate item' aliasName column = .ok e') :
    e.map Expr.words = e'.map Expr.words := by
  obtain ⟨chosen, hchosen, he⟩ := bind_eq_ok he
  obtain ⟨chosen', hchosen', he'⟩ := bind_eq_ok he'
  obtain ⟨choice, hchoice, rfl⟩ := attributionOperator_ok hchosen
  obtain ⟨choice', hchoice', rfl⟩ := attributionOperator_ok hchosen'
  rw [hitem.choice hfield] at hchoice
  obtain rfl := Option.some.inj (hchoice.symm.trans hchoice')
  cases choice with
  | none => rw [← Except.ok.inj he, ← Except.ok.inj he']
  | some b =>
    simp only [Option.map_some] at he he'
    rw [← hitem.field, ← hescape] at he'
    exact Subject.predicate_words hitem.value he he'

private theorem relationPredicate_words {column : Expr} {related related' : Option Expr → Query}
    (hrelated : ∀ inner inner', inner.map Expr.words = inner'.map Expr.words →
      (related inner).words = (related' inner').words) {e e' : Option Expr}
    (he : compiler.relationPredicate item column related = .ok e)
    (he' : compiler'.relationPredicate item' column related' = .ok e') :
    e.map Expr.words = e'.map Expr.words := by
  obtain ⟨op, hop, he⟩ := bind_eq_ok he
  obtain ⟨op', hop', he'⟩ := bind_eq_ok he'
  obtain rfl := operator_unique hitem hop hop'
  obtain ⟨m, hm, he⟩ := bind_eq_ok he
  obtain ⟨n, hn, he'⟩ := bind_eq_ok he'
  rw [← hitem.field, ← hescape] at hn
  have hwords := Membership.ofItem_words hitem.value hm hn
  rw [← Except.ok.inj he, ← Except.ok.inj he']
  cases m with
  | none => cases n <;> simp_all
  | some m =>
    cases n with
    | none => simp at hwords
    | some n =>
      simp only [Option.map_some, Option.some.injEq, Prod.mk.injEq] at hwords
      obtain ⟨hinner, hnegated⟩ := hwords
      simp only [Option.map_some, hnegated]
      exact congrArg some (Expr.words_inQuery artistId _ (hrelated _ _ hinner))

private theorem itemPredicate_words {joins : JoinSet} {route : Route} {e e' : Option Expr}
    (hroute : compiler.catalog.route item.field = .ok route)
    (he : compiler.itemPredicate tenant joins item route = .ok e)
    (he' : compiler'.itemPredicate tenant' joins item' route = .ok e') :
    e.map Expr.words = e'.map Expr.words := by
  cases route with
  | artist column | statistic typeId metric | evaluation column | membership column =>
    exact predicate_words_of_operator hitem hescape he he'
  | attribution column =>
    have hfield := Route.ofField?_attribution (Catalog.route_ok hroute)
    exact attributionPredicate_words hitem hescape hfield he he'
  | tags type =>
    exact relationPredicate_words hitem hescape (fun _ _ => tagQuery_words tenant tenant' type) he he'
  | users =>
    exact relationPredicate_words hitem hescape (fun _ _ => userQuery_words tenant tenant') he he'

end Items

end Compiler

/-- Whether two plans differ in their tenants and in bound values alone. -/
structure FilterPlan.SameWords (plan plan' : FilterPlan) : Prop where
  scope : plan.scope = plan'.scope
  joins : plan.joins = plan'.joins
  predicates : plan.predicates.map Expr.words = plan'.predicates.map Expr.words

namespace Compiler

variable {compiler compiler' : Compiler}

private theorem addItem_words (hescape : compiler.escapeNegated = compiler'.escapeNegated)
    {item item' : FilterItem} (hitem : item.SameShape item') {plan plan' after after' : FilterPlan}
    (hplan : plan.SameWords plan') (h : compiler.addItem plan item = .ok after)
    (h' : compiler'.addItem plan' item' = .ok after') : after.SameWords after' := by
  obtain ⟨route, hroute, hcase⟩ := addItem_cases h
  obtain ⟨route', hroute', hcase'⟩ := addItem_cases h'
  obtain rfl : route = route' := by
    rw [← hitem.field] at hroute'
    exact Route.ofField?_unique (Catalog.route_ok hroute) (Catalog.route_ok hroute')
  have hwords : ∀ e e', compiler.itemPredicate plan.tenant plan.joins item route = .ok e →
      compiler'.itemPredicate plan'.tenant plan.joins item' route = .ok e' →
      e.map Expr.words = e'.map Expr.words :=
    fun _ _ he he' => itemPredicate_words hitem hescape hroute he he'
  rw [← hplan.joins] at hcase'
  rcases hcase with ⟨he, rfl⟩ | ⟨e, he, rfl⟩ <;> rcases hcase' with ⟨he', rfl⟩ | ⟨e', he', rfl⟩
  · exact hplan
  · simpa using hwords _ _ he he'
  · simpa using hwords _ _ he he'
  · refine ⟨hplan.scope, rfl, ?_⟩
    have heq : e.words = e'.words := by simpa using hwords _ _ he he'
    simp [hplan.predicates, heq]

private theorem planWithin_words (hescape : compiler.escapeNegated = compiler'.escapeNegated)
    {tenant tenant' : String} {scope : Scope} {items items' : List FilterItem}
    (hitems : List.Forall₂ FilterItem.SameShape items items') {plan plan' : FilterPlan}
    (h : compiler.planWithin tenant scope items = .ok plan)
    (h' : compiler'.planWithin tenant' scope items' = .ok plan') : plan.SameWords plan' := by
  have hstart : FilterPlan.SameWords { tenant, scope } { tenant := tenant', scope } :=
    ⟨rfl, rfl, rfl⟩
  refine foldlM_related (motive := FilterPlan.SameWords) ?_ hitems hstart h h'
  intro item item' before before' after after' hitem hplan hstep hstep'
  exact addItem_words hescape hitem hplan hstep hstep'

private theorem addItem_unique (hescape : compiler.escapeNegated = compiler'.escapeNegated)
    {plan after after' : FilterPlan} {item : FilterItem} (h : compiler.addItem plan item = .ok after)
    (h' : compiler'.addItem plan item = .ok after') : after = after' := by
  have hpredicate : compiler.itemPredicate = compiler'.itemPredicate := by
    funext tenant joins item route
    cases route <;>
      simp only [itemPredicate, columnPredicate, statisticPredicate, attributionPredicate,
        relationPredicate, hescape]
  obtain ⟨route, hroute, h⟩ := bind_eq_ok h
  obtain ⟨route', hroute', h'⟩ := bind_eq_ok h'
  obtain rfl := Route.ofField?_unique (Catalog.route_ok hroute) (Catalog.route_ok hroute')
  rw [hpredicate] at h
  exact Except.ok.inj (h.symm.trans h')

theorem planWithin_unique (hescape : compiler.escapeNegated = compiler'.escapeNegated)
    {tenant : String} {scope : Scope} {items : List FilterItem} {plan plan' : FilterPlan}
    (h : compiler.planWithin tenant scope items = .ok plan)
    (h' : compiler'.planWithin tenant scope items = .ok plan') : plan = plan' := by
  have hitems : List.Forall₂ Eq items items := List.forall₂_refl items
  refine foldlM_related (motive := Eq) ?_ hitems rfl h h'
  rintro item _ before _ after after' rfl rfl hstep hstep'
  exact addItem_unique hescape hstep hstep'

private theorem addSort_unique (hdialect : compiler.dialect = compiler'.dialect)
    {before after after' : JoinSet × List (OrderKey Expr)} {item : SortItem}
    (h : compiler.addSort before item = .ok after) (h' : compiler'.addSort before item = .ok after') :
    after = after' := by
  obtain ⟨route, hroute, h⟩ := bind_eq_ok h
  obtain ⟨route', hroute', h'⟩ := bind_eq_ok h'
  obtain rfl := Route.ofField?_unique (Catalog.route_ok hroute) (Catalog.route_ok hroute')
  have haggregate : compiler.aggregate = compiler'.aggregate := by
    funext key type direction
    simp only [aggregate, hdialect]
  rw [haggregate] at h
  exact Except.ok.inj (h.symm.trans h')

private theorem orderKeys_unique (hdialect : compiler.dialect = compiler'.dialect) {joins : JoinSet}
    {sort : List SortItem} {sorted sorted' : JoinSet × List (OrderKey Expr)}
    (h : compiler.orderKeys joins sort = .ok sorted)
    (h' : compiler'.orderKeys joins sort = .ok sorted') : sorted = sorted' := by
  obtain ⟨added, hadded, h⟩ := bind_eq_ok h
  obtain ⟨added', hadded', h'⟩ := bind_eq_ok h'
  obtain rfl : added = added' := by
    have hsort : List.Forall₂ Eq sort sort := List.forall₂_refl sort
    refine foldlM_related (motive := Eq) ?_ hsort rfl hadded hadded'
    rintro item _ before _ after after' rfl rfl hstep hstep'
    exact addSort_unique hdialect hstep hstep'
  exact Except.ok.inj (h.symm.trans h')

end Compiler

namespace FilterPlan

variable {plan plan' : FilterPlan} (h : plan.SameWords plan')

include h

private theorem SameWords.condition : plan.condition.words = plan'.condition.words := by
  refine Expr.words_foldl_and ?_ h.predicates
  rw [h.scope]
  exact tenantScope_words _ _ _

private theorem SameWords.joinTokens (joins : JoinSet) :
    Sql.Token.words (Sql.joinTokens (joins.map plan.leftJoin)) =
      Sql.Token.words (Sql.joinTokens (joins.map plan'.leftJoin)) := by
  have hjoin : ∀ joined, Sql.Token.words (Sql.joinTokens [plan.leftJoin joined]) =
      Sql.Token.words (Sql.joinTokens [plan'.leftJoin joined]) := by
    rintro ⟨target, aliasName⟩
    have hcondition : (plan.joinCondition ⟨target, aliasName⟩).words =
        (plan'.joinCondition ⟨target, aliasName⟩).words := by
      unfold joinCondition
      rw [h.scope]
      cases target <;> rfl
    unfold Expr.words at hcondition
    simp [leftJoin, Sql.joinTokens, hcondition]
  induction joins with
  | nil => rfl
  | cons joined rest ih =>
    rw [List.map_cons, List.map_cons, Sql.joinTokens_eq_flatMap, Sql.joinTokens_eq_flatMap (_ :: _)]
    rw [List.flatMap_cons, List.flatMap_cons, ← Sql.joinTokens_eq_flatMap,
      ← Sql.joinTokens_eq_flatMap, Sql.Token.words_append, Sql.Token.words_append, hjoin, ih]

private theorem SameWords.idQuery : plan.idQuery.words = plan'.idQuery.words := by
  unfold FilterPlan.idQuery
  rw [← h.joins]
  exact Query.SameFrame.words ⟨rfl, rfl, rfl, h.joinTokens plan.joins,
    congrArg some h.condition, rfl, rfl, rfl⟩

private theorem SameWords.countQuery : plan.countQuery.words = plan'.countQuery.words := by
  unfold FilterPlan.countQuery
  rw [← h.joins]
  exact Query.SameFrame.words ⟨rfl, rfl, rfl, h.joinTokens plan.joins,
    congrArg some h.condition, rfl, rfl, rfl⟩

private theorem SameWords.labelQuery : plan.labelQuery.words = plan'.labelQuery.words :=
  Query.SameFrame.words ⟨rfl, rfl, rfl, rfl,
    congrArg some (Expr.words_inQuery artistId false h.idQuery), rfl, rfl, rfl⟩

private theorem SameWords.modeQuery {compiler compiler' : Compiler}
    (hdialect : compiler.dialect = compiler'.dialect) {sort : List SortItem} {page : Page}
    {mode : Mode} {query query' : Query} (hquery : compiler.modeQuery plan sort page mode = .ok query)
    (hquery' : compiler'.modeQuery plan' sort page mode = .ok query') : query.words = query'.words := by
  have hsorted : ∀ sorted sorted', compiler.sortedQuery plan sort = .ok sorted →
      compiler'.sortedQuery plan' sort = .ok sorted' → sorted.SameFrame sorted' := by
    intro sorted sorted' hsorted hsorted'
    obtain ⟨joins, keys, hkeys, rfl⟩ := Compiler.sortedQuery_cases hsorted
    obtain ⟨joins', keys', hkeys', rfl⟩ := Compiler.sortedQuery_cases hsorted'
    rw [← h.joins] at hkeys'
    obtain ⟨rfl, rfl⟩ := Prod.mk.inj (Compiler.orderKeys_unique hdialect hkeys hkeys')
    exact ⟨rfl, rfl, rfl, h.joinTokens _, congrArg some h.condition, rfl, rfl, rfl⟩
  cases mode with
  | count =>
    rw [← Except.ok.inj hquery, ← Except.ok.inj hquery']
    exact h.countQuery
  | rows =>
    obtain ⟨sorted, hok, heq⟩ := bind_eq_ok hquery
    obtain ⟨sorted', hok', heq'⟩ := bind_eq_ok hquery'
    obtain ⟨hselect, hdistinct, hsource, hjoins, hfilter, hgroup, horder, hwindow⟩ :=
      hsorted sorted sorted' hok hok'
    rw [← Except.ok.inj heq, ← Except.ok.inj heq']
    refine Query.SameFrame.words ⟨hselect, hdistinct, hsource, hjoins, hfilter, hgroup, horder, ?_⟩
    simp [Query.limited, Query.skipping, hwindow]
  | ids =>
    simp only [Compiler.modeQuery, Compiler.idsQuery] at hquery hquery'
    split at hquery
    · rw [if_pos ‹_›] at hquery'
      rw [← Except.ok.inj hquery, ← Except.ok.inj hquery']
      exact h.idQuery
    · rw [if_neg ‹_›] at hquery'
      exact (hsorted query query' hquery hquery').words

end FilterPlan

private theorem lookupQuery_words (tenant tenant' : String) (id id' : Uuid) :
    (lookupQuery tenant id).words = (lookupQuery tenant' id').words := by
  have hcondition : (((artistId.eq (.param (.uuid id))).and
        (tenantScope tenant (.visible .showAll))).words) =
      ((artistId.eq (.param (.uuid id'))).and (tenantScope tenant' (.visible .showAll))).words :=
    Expr.words_and (Expr.words_binary .eq rfl (Expr.words_param _ _)) (tenantScope_words _ _ _)
  exact Query.SameFrame.words ⟨rfl, rfl, rfl, rfl, congrArg some hcondition, rfl, rfl, rfl⟩

/-- Whether two changes are of the same kind. -/
inductive MembershipChange.SameKind : MembershipChange → MembershipChange → Prop
  | mute (muted muted' : Bool) : SameKind (mute muted) (mute muted')
  | archive (user user' : String) (moment moment' : Timestamp) :
    SameKind (archive user moment) (archive user' moment')
  | unarchive : SameKind unarchive unarchive

private theorem FilterPlan.SameWords.membershipUpdate {plan plan' : FilterPlan}
    (h : plan.SameWords plan') {change change' : MembershipChange}
    (hchange : change.SameKind change') :
    (plan.membershipUpdate change).words = (plan'.membershipUpdate change').words := by
  have happlies : change.appliesToArchived = change'.appliesToArchived := by
    cases hchange <;> rfl
  refine Sql.Update.words_eq rfl ?_ (congrArg some (Expr.words_and (Expr.words_and
    (Expr.words_binary .eq rfl (Expr.words_param _ _)) ?_) (Expr.words_inQuery _ _ h.idQuery)))
  · cases hchange <;> rfl
  · rw [happlies]

/-- Values never reach the text of a statement. Requests that differ in their tenants and in values
of one shape alone are compiled to the same text with as many parameters, whatever each compiler knows
of statistics. -/
theorem values_stay_bound (compiler compiler' : Compiler) (tenant tenant' : String)
    (filter filter' : FilterModel) (hdialect : compiler.dialect = compiler'.dialect)
    (hescape : compiler.escapeNegated = compiler'.escapeNegated)
    (hmuted : filter.muteMode = filter'.muteMode)
    (hitems : List.Forall₂ FilterItem.SameShape filter.items filter'.items) :
    (∀ sort page mode compiled compiled',
      compiler.compile tenant filter sort page mode = .ok compiled →
      compiler'.compile tenant' filter' sort page mode = .ok compiled' →
      compiled.statement.SameText compiled'.statement) ∧
    (∀ scope plan plan', compiler.planWithin tenant scope filter.items = .ok plan →
      compiler'.planWithin tenant' scope filter'.items = .ok plan' →
      (∀ change change', change.SameKind change' →
        ((plan.membershipUpdate change).statement compiler.dialect).SameText
          ((plan'.membershipUpdate change').statement compiler'.dialect)) ∧
      (plan.labelQuery.statement compiler.dialect).SameText
        (plan'.labelQuery.statement compiler'.dialect)) ∧
    ∀ id id', ((lookupQuery tenant id).statement compiler.dialect).SameText
      ((lookupQuery tenant' id').statement compiler'.dialect) := by
  rw [← hdialect]
  refine ⟨?_, ?_, fun id id' =>
    Query.statement_sameText compiler.dialect (lookupQuery_words tenant tenant' id id')⟩
  · intro sort page mode compiled compiled' hcompiled hcompiled'
    obtain ⟨hplan, hquery, hstatement⟩ := Compiler.compile_cases hcompiled
    obtain ⟨hplan', hquery', hstatement'⟩ := Compiler.compile_cases hcompiled'
    rw [← hmuted] at hplan'
    rw [hstatement, hstatement', ← hdialect]
    have hplans := Compiler.planWithin_words hescape hitems hplan hplan'
    exact Query.statement_sameText compiler.dialect (hplans.modeQuery hdialect hquery hquery')
  · intro scope plan plan' hplan hplan'
    have hplans := Compiler.planWithin_words hescape hitems hplan hplan'
    exact ⟨fun change change' hchange =>
        Sql.Update.statement_sameText compiler.dialect (hplans.membershipUpdate hchange),
      Query.statement_sameText compiler.dialect hplans.labelQuery⟩

/-- An ordinary request. -/
def sampleFilter : FilterModel where
  items := [⟨"name", "contains", .string "jazz"⟩, ⟨"tags.user", "isAnyOf", .array [.string "a"]⟩]

/-- A request that tries to break out of its texts. -/
def hostileFilter : FilterModel where
  items := [⟨"name", "contains", .string "); DROP TABLE artists; SELECT ("⟩,
    ⟨"tags.user", "isAnyOf", .array [.null, .string "a) OR (1 = 1"]⟩]

private theorem sample_sameShape :
    List.Forall₂ FilterItem.SameShape sampleFilter.items hostileFilter.items :=
  .cons ⟨rfl, rfl, ⟨rfl, by decide, rfl⟩, by simp⟩
    (.cons ⟨rfl, rfl, ⟨rfl, rfl, rfl⟩, by simp⟩ .nil)

theorem values_stay_bound_sample :
    List.Forall₂ FilterItem.SameShape sampleFilter.items hostileFilter.items ∧
    ∃ compiled compiled', ({} : Compiler).compile "t" sampleFilter [] ⟨0, 10⟩ .rows = .ok compiled ∧
      ({} : Compiler).compile "t OR 1 = 1" hostileFilter [] ⟨0, 10⟩ .rows = .ok compiled' ∧
      compiled.statement.SameText compiled'.statement := by
  obtain ⟨compiled, hcompiled⟩ : ∃ compiled,
      ({} : Compiler).compile "t" sampleFilter [] ⟨0, 10⟩ .rows = .ok compiled := ⟨_, rfl⟩
  obtain ⟨compiled', hcompiled'⟩ : ∃ compiled',
      ({} : Compiler).compile "t OR 1 = 1" hostileFilter [] ⟨0, 10⟩ .rows = .ok compiled' := ⟨_, rfl⟩
  have hsame := (values_stay_bound {} {} "t" "t OR 1 = 1" sampleFilter hostileFilter rfl rfl rfl
    sample_sameShape).1
  exact ⟨sample_sameShape, compiled, compiled', hcompiled, hcompiled',
    hsame _ _ _ _ _ hcompiled hcompiled'⟩

end TenantGrid
