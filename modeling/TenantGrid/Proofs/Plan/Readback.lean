import TenantGrid.Plan.Change
import TenantGrid.Proofs.Plan.Form
import TenantGrid.Proofs.Sql.Readback
/-!
# Compiled statements are readable

Conditions are joined by AND alone, and the one OR of a plan stands between parentheses. No condition
of a filter can thus reach beyond its own part of a statement.
-/
namespace TenantGrid

open Sql (Expr OrderKey Query)

theorem artistColumn_isReadable (name : String) :
    (Expr.ofTable Schema.artists.name name).IsReadableAt 6 :=
  .column _ name

theorem artistId_isReadable : artistId.IsReadableAt 6 :=
  artistColumn_isReadable "id"

private theorem Sql.BinaryOp.level_of_isComparison {op : Sql.BinaryOp}
    (h : op.isComparison = true) : op.level = 4 := by
  cases op <;> first | rfl | exact nomatch h

private theorem Test.on_isReadable {column : Expr} (hcolumn : column.IsReadableAt 6)
    {type : ColumnType} {t : Test} (ht : t.Fits type) : (t.on column).IsReadableAt 4 := by
  have hoperand : column.IsReadableAt 4 := hcolumn.mono (by decide)
  cases t with
  | compare op value => exact .compare (Sql.BinaryOp.level_of_isComparison ht.1) hcolumn (.param value)
  | null negated => exact hoperand.isNull negated
  | among values negated =>
    apply hoperand.inList
    · simpa using ht.1
    · intro value hvalue
      obtain ⟨v, _, rfl⟩ := List.mem_map.mp hvalue
      exact (Expr.IsReadableAt.param v).1
  | like pattern escape negated =>
    have hpattern : (Expr.param (.text pattern)).IsReadableAt 5 :=
      (Expr.IsReadableAt.param _).mono (by decide)
    exact hoperand.like hpattern escape negated true

private theorem columnQuery_isReadable (table aliasName column : String) (distinct : Bool)
    {condition : Expr} (h : condition.IsReadable) :
    (Sql.columnQuery table aliasName column distinct condition).IsReadable where
  select_ne_nil := by simp [Sql.columnQuery]
  select := by simp [Sql.columnQuery, Expr.ofTable]
  joins := by simp [Sql.columnQuery]
  filter := by simpa [Sql.columnQuery] using h
  groupBy := by simp [Sql.columnQuery]
  orderBy := by simp [Sql.columnQuery]
  window := by simp [Sql.columnQuery]

private theorem scopeQuery_isReadable (tenant : String) (scope : Scope) :
    (scopeQuery tenant scope).IsReadable := by
  have htenant : ((scopeColumn "organization_id").eq (.param (.text tenant))).IsReadableAt 4 :=
    .eq (.column _ _) (.param _)
  have hflag : ∀ e ∈ scope.flags.map flagCondition, e.IsReadableAt 3 := by
    intro e he
    obtain ⟨flag, _, rfl⟩ := List.mem_map.mp he
    have h : (flagCondition flag).IsReadableAt 4 := .eq (.column _ _) (.literal _)
    exact h.mono (by decide)
  rw [scopeQuery_eq]
  apply columnQuery_isReadable
  exact (Expr.IsReadableAt.foldl_and (htenant.mono (by decide)) hflag).1

private theorem tenantScope_isReadable (tenant : String) (scope : Scope) :
    (tenantScope tenant scope).IsReadableAt 4 :=
  (artistId_isReadable.mono (by decide)).inQuery (scopeQuery_isReadable tenant scope) false

theorem visibleTo_isReadable {organization : Expr} (h : organization.IsReadableAt 6) (tenant : String) :
    (visibleTo tenant organization).IsReadableAt 6 := by
  have hnull : (Expr.isNull organization false).IsReadableAt 4 := (h.mono (by decide)).isNull false
  have htenant : (organization.eq (.param (.text tenant))).IsReadableAt 4 := .eq h (.param _)
  have hor := Expr.IsReadableAt.or (hnull.mono (by decide)) (htenant.mono (by decide))
  exact .paren hor.1

private theorem andInner_isReadable {e : Expr} (he : e.IsReadableAt 2) {column : Expr}
    (hcolumn : column.IsReadableAt 6) {type : ColumnType} (inner : Option Test)
    (hinner : ∀ t ∈ inner, t.Fits type) : (andInner e (inner.map (Test.on column))).IsReadableAt 2 := by
  cases inner with
  | none => exact he
  | some t => exact he.and ((Test.on_isReadable hcolumn (hinner t rfl)).mono (by decide))

private theorem tagQuery_isReadable (tenant : String) (type : TagType) (inner : Option Test)
    (h : ∀ t ∈ inner, t.Fits .text) :
    (tagQuery tenant type (inner.map (Test.on (.ofTable tagAlias "tag")))).IsReadable := by
  have htype : ((Expr.ofTable tagAlias "tag_type_id").eq (.param (.int type.id))).IsReadableAt 4 :=
    .eq (.column _ _) (.param _)
  have hvisible := visibleTo_isReadable (.column (some tagAlias) "organization_id") tenant
  have hcondition : (tagCondition tenant type).IsReadableAt 2 :=
    .and (htype.mono (by decide)) (hvisible.mono (by decide))
  rw [tagQuery_eq]
  apply columnQuery_isReadable
  exact (andInner_isReadable hcondition (.column _ _) inner h).1

private theorem userQuery_isReadable (tenant : String) (inner : Option Test)
    (h : ∀ t ∈ inner, t.Fits .text) :
    (userQuery tenant (inner.map (Test.on (.ofTable userAlias "user_id")))).IsReadable := by
  have hcondition : (userCondition tenant).IsReadableAt 4 := .eq (.column _ _) (.param _)
  rw [userQuery_eq]
  apply columnQuery_isReadable
  exact (andInner_isReadable (hcondition.mono (by decide)) (.column _ _) inner h).1

private theorem IsCondition.isReadable {tenant : String} {tables : List (String × Table)} {e : Expr}
    (h : IsCondition tenant tables e) : e.IsReadableAt 4 := by
  have hid : artistId.IsReadableAt 4 := artistId_isReadable.mono (by decide)
  cases h with
  | test t hmem hcolumn hfits => exact Test.on_isReadable (.column _ _) hfits
  | tagged type inner negated hfits => exact hid.inQuery (tagQuery_isReadable tenant type inner hfits) _
  | attributed inner negated hfits => exact hid.inQuery (userQuery_isReadable tenant inner hfits) _

private theorem Compiler.IsSortKey.isReadable {compiler : Compiler} {tables : List (String × Table)}
    {e : Expr} (h : IsSortKey compiler tables e) : e.IsReadable := by
  cases h with
  | id => exact artistId_isReadable.1
  | aggregate direction hmem hcolumn =>
    obtain ⟨function, heq, _⟩ := compiler.aggregate_eq _ _ direction
    rw [heq]
    simp [Sql.eachReadable, Expr.ofTable]

namespace FilterPlan

variable {plan : FilterPlan}

private theorem joinCondition_isReadable (plan : FilterPlan) (joined : JoinedTable) :
    (plan.joinCondition joined).IsReadable := by
  have hartist : ((Expr.ofTable joined.aliasName "artist_id").eq artistId).IsReadableAt 4 :=
    .eq (.column _ _) artistId_isReadable
  unfold joinCondition
  cases joined.target with
  | statistic typeId =>
    have htype : ((Expr.ofTable joined.aliasName "statistic_type_id").eq
        (.param (.int typeId))).IsReadableAt 4 := .eq (.column _ _) (.param _)
    exact (Expr.IsReadableAt.and (hartist.mono (by decide)) (htype.mono (by decide))).1
  | evaluation => exact (Expr.IsReadableAt.eq (.column _ _) (artistColumn_isReadable _)).1
  | membership =>
    have htenant : ((Expr.ofTable joined.aliasName "organization_id").eq
        (.param (.text plan.tenant))).IsReadableAt 4 := .eq (.column _ _) (.param _)
    have harchived : ((Expr.ofTable joined.aliasName "archived").eq
        (.boolLiteral plan.scope.isArchived)).IsReadableAt 4 := .eq (.column _ _) (.literal _)
    have hrow := Expr.IsReadableAt.and (hartist.mono (by decide)) (htenant.mono (by decide))
    exact (hrow.and (harchived.mono (by decide))).1

private theorem condition_isReadable (hplan : plan.HasForm) : plan.condition.IsReadable := by
  have hscope := tenantScope_isReadable plan.tenant plan.scope
  apply And.left
  apply Expr.IsReadableAt.foldl_and (hscope.mono (by decide))
  intro e he
  exact (hplan e he).isReadable.mono (by decide)

private theorem baseQuery_isReadable (hplan : plan.HasForm) (joins : JoinSet) {select : Expr}
    (hselect : select.IsReadable) (groupBy : List Expr) (hgroup : ∀ e ∈ groupBy, e.IsReadable)
    (orderBy : List (OrderKey Expr)) (horder : ∀ key ∈ orderBy, key.expr.IsReadable) (distinct : Bool)
    (window : Option Sql.Window) (hwindow : ∀ w ∈ window, w.IsReadable) :
    Query.IsReadable { plan.baseQuery joins select with distinct, groupBy, orderBy, window } where
  select_ne_nil := by simp [baseQuery, Query.filtered]
  select := by simpa [baseQuery, Query.filtered] using hselect
  joins := by
    intro join hjoin
    obtain ⟨joined, _, rfl⟩ := List.mem_map.mp hjoin
    exact plan.joinCondition_isReadable joined
  filter := by
    intro e he
    rw [← Option.some.inj he]
    exact condition_isReadable hplan
  groupBy := hgroup
  orderBy := horder
  window := hwindow

private theorem countDistinct_isReadable : artistId.countDistinct.IsReadable := by
  simpa [Expr.countDistinct, Sql.eachReadable] using artistId_isReadable.1

private theorem countQuery_isReadable (hplan : plan.HasForm) : plan.countQuery.IsReadable :=
  baseQuery_isReadable hplan plan.joins countDistinct_isReadable [] (by simp) [] (by simp) false none
    (by simp)

private theorem idQuery_isReadable (hplan : plan.HasForm) : plan.idQuery.IsReadable :=
  baseQuery_isReadable hplan plan.joins artistId_isReadable.1 [] (by simp) [] (by simp) true none
    (by simp)

theorem labelQuery_isReadable (hplan : plan.HasForm) : plan.labelQuery.IsReadable where
  select_ne_nil := by simp [labelQuery, Query.filtered, Query.leftJoined, Query.joined]
  select := by
    intro item hitem
    rcases List.mem_pair.mp hitem with rfl | rfl
    · simp [Expr.ofTable]
    · exact countDistinct_isReadable
  joins := by
    intro join hjoin
    rw [List.mem_singleton.mp hjoin]
    exact (Expr.IsReadableAt.eq (.column _ _) (artistColumn_isReadable _)).1
  filter := by
    intro e he
    rw [← Option.some.inj he]
    exact ((artistId_isReadable.mono (by decide)).inQuery (idQuery_isReadable hplan) false).1
  groupBy := by
    intro e he
    rw [List.mem_singleton.mp he]
    simp [Expr.ofTable]
  orderBy := by
    intro key hkey
    rcases List.mem_pair.mp hkey with rfl | rfl
    · exact countDistinct_isReadable
    · simp [Expr.ofTable]
  window := nofun

theorem membershipUpdate_isReadable (hplan : plan.HasForm) (change : MembershipChange) :
    (plan.membershipUpdate change).IsReadable where
  assignments_ne_nil := by
    cases change <;> simp [membershipUpdate, Sql.Update.filtered, MembershipChange.assignments]
  assignments := by
    cases change <;> simp [membershipUpdate, Sql.Update.filtered, MembershipChange.assignments,
      Expr.boolLiteral]
  filter := by
    intro e he
    have htenant : ((Expr.bare "organization_id").eq (.param (.text plan.tenant))).IsReadableAt 4 :=
      .eq (.column _ _) (.param _)
    have harchived : ((Expr.bare "archived").eq
        (.boolLiteral change.appliesToArchived)).IsReadableAt 4 := .eq (.column _ _) (.literal _)
    have hartist : (Expr.inQuery (.bare "artist_id") plan.idQuery false).IsReadableAt 4 :=
      ((Expr.IsReadableAt.column _ _).mono (by decide)).inQuery (idQuery_isReadable hplan) false
    have hrow := Expr.IsReadableAt.and (htenant.mono (by decide)) (harchived.mono (by decide))
    rw [← Option.some.inj he]
    exact (hrow.and (hartist.mono (by decide))).1

end FilterPlan

/-- Whether the row counts of a page are below 2 ^ 63. -/
def Page.IsReadable (page : Page) : Prop :=
  page.size.toNat < 2 ^ 63 ∧ page.offset.toNat < 2 ^ 63

namespace Compiler

variable {compiler : Compiler} {plan : FilterPlan}

private theorem sortedQuery_isReadable (hplan : plan.HasForm) {sort : List SortItem} {query : Query}
    (h : compiler.sortedQuery plan sort = .ok query) (window : Option Sql.Window)
    (hwindow : ∀ w ∈ window, w.IsReadable) : Query.IsReadable { query with window } := by
  obtain ⟨joins, keys, hkeys, rfl⟩ := sortedQuery_cases h
  have hform := orderKeys_form hkeys
  apply FilterPlan.baseQuery_isReadable hplan joins artistId_isReadable.1
  · simpa using artistId_isReadable.1
  · exact fun key hkey => (hform key hkey).isReadable
  · exact hwindow

/-- What a plan asks in any mode is read back; row counts matter only to a page of rows. -/
theorem modeQuery_isReadable (hplan : plan.HasForm) {sort : List SortItem} {page : Page} {mode : Mode}
    (hpage : mode = .rows → page.IsReadable) {query : Query}
    (h : compiler.modeQuery plan sort page mode = .ok query) : query.IsReadable := by
  cases mode with
  | rows =>
    obtain ⟨sorted, hsorted, h⟩ := bind_eq_ok h
    obtain ⟨hsize, hoffset⟩ := hpage rfl
    rw [← Except.ok.inj h]
    apply sortedQuery_isReadable hplan hsorted
    intro w hw
    obtain rfl := Option.some.inj hw
    refine ⟨rfl, ?_, ?_⟩
    · intro n hn
      rwa [← Option.some.inj hn]
    · intro n hn
      rwa [← Option.some.inj hn]
  | count =>
    rw [← Except.ok.inj h]
    exact FilterPlan.countQuery_isReadable hplan
  | ids =>
    change (if sort.isEmpty then _ else _) = _ at h
    split at h
    · rw [← Except.ok.inj h]
      exact FilterPlan.idQuery_isReadable hplan
    · obtain ⟨joins, keys, _, hquery⟩ := sortedQuery_cases h
      apply sortedQuery_isReadable hplan h query.window
      rw [hquery]
      simp [FilterPlan.baseQuery, Query.filtered]

end Compiler

theorem lookupQuery_isReadable (tenant : String) (id : Uuid) : (lookupQuery tenant id).IsReadable where
  select_ne_nil := by simp [lookupQuery, Query.filtered]
  select := by simpa [lookupQuery, Query.filtered] using artistId_isReadable.1
  joins := by simp [lookupQuery, Query.filtered]
  filter := by
    intro e he
    have hid : (artistId.eq (.param (.uuid id))).IsReadableAt 4 := .eq artistId_isReadable (.param _)
    have hscope := tenantScope_isReadable tenant (.visible .showAll)
    rw [← Option.some.inj he]
    exact (Expr.IsReadableAt.and (hid.mono (by decide)) (hscope.mono (by decide))).1
  groupBy := by simp [lookupQuery, Query.filtered]
  orderBy := by simp [lookupQuery, Query.filtered]
  window := by simp [lookupQuery, Query.filtered]

end TenantGrid
