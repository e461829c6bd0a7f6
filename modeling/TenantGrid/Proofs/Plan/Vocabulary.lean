import TenantGrid.Plan.Change
import TenantGrid.Proofs.Plan.Form
import TenantGrid.Proofs.Sql.Vocabulary
/-!
# The vocabulary of statements

Statements name the tables and columns of the schema, a few fixed aliases and the numbered aliases of
joins, and call a handful of functions. What a request says only ever reaches them as bound values,
the row counts of a page apart.
-/
namespace TenantGrid

open Sql (Expr OrderKey Query Vocabulary keepsTo)

/-- The aliases that do not depend on a request. -/
def fixedAliases : List String :=
  [scopeAlias, tagAlias, userAlias, currentEvaluationAlias, Relation.linkAlias, Relation.sourceAlias,
    "label", "artist_count", "url"]

/-- Whether a name is one of the words for joins followed by a number. -/
def isNumberedAlias (name : String) : Bool :=
  ["statistic_", "evaluation_", "organization_"].any fun word =>
    (name.toList.dropPrefix? word.toList).any fun number =>
      !number.isEmpty && number.all Char.isDigit

/-- Whether a name is that of a table or column of the schema, or an alias. -/
def isKnownName (name : String) : Bool :=
  (Schema.tables.any fun table => table.name == name || (table.column? name).isSome) ||
    fixedAliases.contains name || isNumberedAlias name

/-- The words of all statements whose row counts are the given ones. -/
def statementWords (counts : List UInt64) : Vocabulary where
  isName := isKnownName
  functions := ["COUNT", "MIN", "MAX", "BOOL_AND", "BOOL_OR"]
  escapes := ['\\']
  counts := counts

@[simp] theorem isName_statementWords (counts : List UInt64) :
    (statementWords counts).isName = isKnownName :=
  rfl

@[simp] theorem functions_statementWords (counts : List UInt64) :
    (statementWords counts).functions = ["COUNT", "MIN", "MAX", "BOOL_AND", "BOOL_OR"] :=
  rfl

@[simp] theorem escapes_statementWords (counts : List UInt64) :
    (statementWords counts).escapes = [escapeChar] :=
  rfl

private theorem isNumberedAlias_numbered (target : JoinTarget) (number : Nat) :
    isNumberedAlias (target.numbered number) = true := by
  have hword : target.aliasWord ++ "_" ∈ ["statistic_", "evaluation_", "organization_"] := by
    cases target <;> simp [JoinTarget.aliasWord]
  have hdrop : (target.numbered number).toList.dropPrefix? (target.aliasWord ++ "_").toList =
      some number.repr.toList := by
    rw [JoinTarget.numbered, String.toList_append, List.dropPrefix?_eq_some_iff]
    exact ⟨_, rfl, BEq.rfl⟩
  have hdigits : number.repr.toList.all Char.isDigit = true :=
    List.all_eq_true.mpr fun c hc => isDigit_of_mem_natRepr hc
  have hne : number.repr.toList.isEmpty = false := by
    rw [List.isEmpty_eq_false_iff]
    exact natRepr_toList_ne_nil number
  refine List.any_eq_true.mpr ⟨_, hword, ?_⟩
  rw [hdrop, Option.any_some, hdigits, hne]
  rfl

section Names

variable {table : Table} {name : String}

private theorem isKnownName_of_table (h : table ∈ Schema.tables) :
    isKnownName table.name = true := by
  have hany : (Schema.tables.any fun t => t.name == table.name || (t.column? table.name).isSome) :=
    List.any_eq_true.mpr ⟨table, h, by simp⟩
  simp [isKnownName, hany]

private theorem isKnownName_of_column (h : table ∈ Schema.tables) {column : Column}
    (hcolumn : table.column? name = some column) : isKnownName name = true := by
  have hany : (Schema.tables.any fun t => t.name == name || (t.column? name).isSome) :=
    List.any_eq_true.mpr ⟨table, h, by simp [hcolumn]⟩
  simp [isKnownName, hany]

private theorem isKnownName_numbered (target : JoinTarget) (number : Nat) :
    isKnownName (target.numbered number) = true := by
  rw [isKnownName, isNumberedAlias_numbered, Bool.or_true]

private theorem JoinSet.AllocatedFrom.isKnownName {joins : JoinSet} (h : joins.Allocated) :
    ∀ j ∈ joins, isKnownName j.aliasName = true := by
  intro j hj
  obtain ⟨number, _, hname⟩ := h.numbered j hj
  rw [hname]
  exact isKnownName_numbered j.target number

private theorem JoinSet.AllocatedFrom.isKnownName_of_tables {joins : JoinSet} (h : joins.Allocated)
    {ref : String} (hmem : (ref, table) ∈ joins.tables) : TenantGrid.isKnownName ref = true := by
  rcases List.mem_cons.mp hmem with heq | hmem
  · rw [(Prod.mk.inj heq).1]
    decide
  · obtain ⟨j, hj, heq⟩ := List.mem_map.mp hmem
    rw [← (Prod.mk.inj heq).1]
    exact h.isKnownName j hj

end Names

section Conditions

variable {counts : List UInt64}

private theorem Test.on_keepsTo {column : Expr}
    (h : keepsTo (statementWords counts) column.tokens = true)
    {type : ColumnType} {t : Test} (ht : t.Fits type) :
    keepsTo (statementWords counts) (t.on column).tokens = true := by
  cases t with
  | compare op value => simp [on, h]
  | null negated => simp [on, h]
  | among values negated => simp [on, h]
  | like pattern escape negated =>
    cases escape with
    | none => simp [on, h]
    | some c =>
      obtain rfl := ht.2 c rfl
      simp [on, h]

private theorem scopeQuery_keepsTo (tenant : String) (scope : Scope) :
    keepsTo (statementWords counts) (Sql.queryTokens (scopeQuery tenant scope)) = true := by
  rcases scope with (_ | _ | _) | _ <;> rfl

private theorem tenantScope_keepsTo (tenant : String) (scope : Scope) :
    keepsTo (statementWords counts) (tenantScope tenant scope).tokens = true := by
  simp only [tenantScope, Sql.keepsTo_inQuery, scopeQuery_keepsTo]
  rfl

private theorem columnQuery_keepsTo {table aliasName column : String} (distinct : Bool)
    (hnames : isKnownName table && isKnownName aliasName && isKnownName column)
    {condition : Expr} (h : keepsTo (statementWords counts) condition.tokens = true) :
    keepsTo (statementWords counts)
      (Sql.queryTokens (Sql.columnQuery table aliasName column distinct condition)) = true := by
  simp only [Bool.and_eq_true] at hnames
  simp [Sql.columnQuery, Expr.ofTable, hnames, h, Sql.TableRef.keepsTo]

private theorem andInner_keepsTo {e column : Expr}
    (he : keepsTo (statementWords counts) e.tokens = true)
    (hcolumn : keepsTo (statementWords counts) column.tokens = true) {type : ColumnType}
    (inner : Option Test) (hinner : ∀ t ∈ inner, t.Fits type) :
    keepsTo (statementWords counts) (andInner e (inner.map (Test.on column))).tokens = true := by
  cases inner with
  | none => exact he
  | some t => simp [andInner, Expr.and, he, Test.on_keepsTo hcolumn (hinner t rfl)]

private theorem IsCondition.keepsTo {tenant : String} {joins : JoinSet} (hjoins : joins.Allocated)
    {e : Expr} (h : IsCondition tenant joins.tables e) :
    keepsTo (statementWords counts) e.tokens = true := by
  have hartist : Sql.keepsTo (statementWords counts) artistId.tokens = true := by rfl
  cases h with
  | test t hmem hcolumn hfits =>
    have href := hjoins.isKnownName_of_tables hmem
    have htable := JoinSet.table_mem hmem
    refine Test.on_keepsTo ?_ hfits
    simp [Expr.ofTable, href, isKnownName_of_column htable hcolumn]
  | tagged type inner negated hfits =>
    rw [Sql.keepsTo_inQuery, hartist, tagQuery_eq, Bool.true_and]
    exact columnQuery_keepsTo _ (by decide) (andInner_keepsTo (by rfl) (by rfl) inner hfits)
  | attributed inner negated hfits =>
    rw [Sql.keepsTo_inQuery, hartist, userQuery_eq, Bool.true_and]
    exact columnQuery_keepsTo _ (by decide) (andInner_keepsTo (by rfl) (by rfl) inner hfits)

private theorem Compiler.IsSortKey.keepsTo {compiler : Compiler} {joins : JoinSet}
    (hjoins : joins.Allocated) {e : Expr} (h : IsSortKey compiler joins.tables e) :
    keepsTo (statementWords counts) e.tokens = true := by
  cases h with
  | id => rfl
  | aggregate direction hmem hcolumn =>
    have href := hjoins.isKnownName_of_tables hmem
    have htable := JoinSet.table_mem hmem
    unfold Compiler.aggregate
    cases direction <;> dsimp only <;> split <;>
      simp [Expr.min, Expr.max, Expr.ofTable, href,
        isKnownName_of_column htable hcolumn]

end Conditions

namespace FilterPlan

variable {plan : FilterPlan} {counts : List UInt64}

private theorem joinCondition_keepsTo (plan : FilterPlan) {joined : JoinedTable}
    (h : isKnownName joined.aliasName = true) :
    keepsTo (statementWords counts) (plan.joinCondition joined).tokens = true := by
  have hartist : keepsTo (statementWords counts) artistId.tokens = true := by rfl
  have hcolumn : ∀ name, isKnownName name = true →
      keepsTo (statementWords counts) (Expr.ofTable joined.aliasName name).tokens = true := by
    intro name hname
    simp [Expr.ofTable, h, hname]
  have hevaluation : keepsTo (statementWords counts)
      (Expr.ofTable Schema.artists.name "evaluation_id").tokens = true := by rfl
  unfold joinCondition
  cases joined.target with
  | statistic typeId =>
    simp [Expr.and, Expr.eq, hartist, hcolumn "artist_id" (by decide),
      hcolumn "statistic_type_id" (by decide)]
  | evaluation => simp [Expr.eq, hevaluation, hcolumn "id" (by decide)]
  | membership =>
    simp [Expr.and, Expr.eq, Expr.boolLiteral, hartist, hcolumn "artist_id" (by decide),
      hcolumn "organization_id" (by decide), hcolumn "archived" (by decide)]

private theorem foldl_and_keepsTo {v : Vocabulary} {first : Expr}
    (hfirst : keepsTo v first.tokens = true)
    {conditions : List Expr} (h : ∀ e ∈ conditions, keepsTo v e.tokens = true) :
    keepsTo v (conditions.foldl .and first).tokens = true := by
  induction conditions generalizing first with
  | nil => exact hfirst
  | cons e rest ih =>
    obtain ⟨he, hrest⟩ := List.forall_mem_cons.mp h
    exact ih (by simp [Expr.and, hfirst, he]) hrest

private theorem condition_keepsTo (hform : plan.HasForm) (hjoins : plan.joins.Allocated) :
    keepsTo (statementWords counts) plan.condition.tokens = true :=
  foldl_and_keepsTo (tenantScope_keepsTo plan.tenant plan.scope) fun e he =>
    (hform e he).keepsTo hjoins

private theorem baseQuery_keepsTo (hform : plan.HasForm) (hplan : plan.joins.Allocated)
    {joins : JoinSet} (hjoins : joins.Allocated) {select : Expr}
    (hselect : keepsTo (statementWords counts) select.tokens = true) (groupBy : List Expr)
    (hgroup : ∀ e ∈ groupBy, keepsTo (statementWords counts) e.tokens = true)
    (orderBy : List (OrderKey Expr))
    (horder : ∀ key ∈ orderBy, keepsTo (statementWords counts) key.expr.tokens = true)
    (distinct : Bool) (window : Option Sql.Window)
    (hwindow : ∀ w ∈ window, w.keepsTo (statementWords counts) = true) :
    keepsTo (statementWords counts) (Sql.queryTokens
      { plan.baseQuery joins select with distinct, groupBy, orderBy, window }) = true := by
  have hartists : isKnownName Schema.artists.name = true := by decide
  have hjoin : ∀ j ∈ joins, isKnownName j.target.table.name = true ∧
      isKnownName j.aliasName = true ∧
      keepsTo (statementWords counts) (plan.joinCondition j).tokens = true := by
    intro j hj
    have hname := hjoins.isKnownName j hj
    exact ⟨isKnownName_of_table j.target.table_mem, hname, plan.joinCondition_keepsTo hname⟩
  have hgiven : groupBy.all (fun e => keepsTo (statementWords counts) e.tokens) = true :=
    List.all_eq_true.mpr hgroup
  have hkeys : orderBy.all (fun key => keepsTo (statementWords counts) key.expr.tokens) = true :=
    List.all_eq_true.mpr horder
  have hcounts : window.all (Sql.Window.keepsTo (statementWords counts)) = true := by
    cases window with
    | none => rfl
    | some w => exact hwindow w rfl
  simp only [baseQuery, Query.filtered, Expr.conjoin, Sql.keepsTo_queryTokens, Bool.and_eq_true]
  refine ⟨⟨⟨⟨⟨⟨?_, ?_⟩, ?_⟩, ?_⟩, hgiven⟩, hkeys⟩, hcounts⟩
  · simp [hselect]
  · simp [Sql.TableRef.keepsTo, hartists]
  · rw [List.all_map, List.all_eq_true]
    intro j hj
    simp [Sql.TableRef.keepsTo, hjoin j hj]
  · exact condition_keepsTo hform hplan

private theorem countQuery_keepsTo (hform : plan.HasForm) (hplan : plan.joins.Allocated) :
    keepsTo (statementWords counts) plan.countQuery.tokens = true :=
  baseQuery_keepsTo hform hplan hplan (by rfl) [] (by simp) [] (by simp) false none (by simp)

private theorem idQuery_keepsTo (hform : plan.HasForm) (hplan : plan.joins.Allocated) :
    keepsTo (statementWords counts) plan.idQuery.tokens = true :=
  baseQuery_keepsTo hform hplan hplan (by rfl) [] (by simp) [] (by simp) true none (by simp)

private theorem inIdQuery_keepsTo (hform : plan.HasForm) (hplan : plan.joins.Allocated)
    {column : Expr} (h : keepsTo (statementWords counts) column.tokens = true) :
    keepsTo (statementWords counts) (Expr.inQuery column plan.idQuery false).tokens = true := by
  rw [Sql.keepsTo_inQuery, h, Bool.true_and]
  exact idQuery_keepsTo hform hplan

theorem labelQuery_keepsTo (hform : plan.HasForm) (hplan : plan.joins.Allocated) :
    keepsTo (statementWords counts) plan.labelQuery.tokens = true := by
  rw [labelQuery, Sql.keepsTo_filtered, inIdQuery_keepsTo hform hplan (by rfl)]
  rfl

theorem membershipUpdate_keepsTo (hform : plan.HasForm) (hplan : plan.joins.Allocated)
    (change : MembershipChange) :
    keepsTo (statementWords counts) (plan.membershipUpdate change).tokens = true := by
  rw [membershipUpdate, Sql.keepsTo_updateFiltered, inIdQuery_keepsTo hform hplan (by rfl)]
  cases change <;> rfl

end FilterPlan

namespace Compiler

variable {compiler : Compiler} {plan : FilterPlan} {counts : List UInt64}

private theorem sortedQuery_keepsTo (hform : plan.HasForm) (hplan : plan.joins.Allocated)
    {sort : List SortItem} {query : Query} (h : compiler.sortedQuery plan sort = .ok query)
    (window : Option Sql.Window)
    (hwindow : ∀ w ∈ window, w.keepsTo (statementWords counts) = true) :
    keepsTo (statementWords counts) (Sql.queryTokens { query with window }) = true := by
  obtain ⟨joins, keys, hkeys, rfl⟩ := sortedQuery_cases h
  have hjoins : joins.Allocated := hplan.trans (orderKeys_cases hkeys).1
  apply FilterPlan.baseQuery_keepsTo hform hplan hjoins (by rfl)
  · rw [List.forall_mem_singleton]
    rfl
  · exact fun key hkey => (orderKeys_form hkeys key hkey).keepsTo hjoins
  · exact hwindow

/-- The row counts that a request writes. -/
def rowCounts (page : Page) : Mode → List UInt64
  | .rows => [page.size, page.offset]
  | .count | .ids => []

theorem modeQuery_keepsTo (hform : plan.HasForm) (hplan : plan.joins.Allocated)
    {sort : List SortItem} {page : Page} {mode : Mode} {query : Query}
    (h : compiler.modeQuery plan sort page mode = .ok query) :
    keepsTo (statementWords (rowCounts page mode)) query.tokens = true := by
  cases mode with
  | rows =>
    obtain ⟨sorted, hsorted, h⟩ := bind_eq_ok h
    rw [← Except.ok.inj h]
    apply sortedQuery_keepsTo hform hplan hsorted
    intro w hw
    rw [← Option.some.inj hw]
    simp [Query.limited, Sql.Window.keepsTo, Sql.rowCountLiteral, Sql.Token.isOf, statementWords,
      rowCounts]
  | count =>
    rw [← Except.ok.inj h]
    exact FilterPlan.countQuery_keepsTo hform hplan
  | ids =>
    change (if sort.isEmpty then _ else _) = _ at h
    split at h
    · rw [← Except.ok.inj h]
      exact FilterPlan.idQuery_keepsTo hform hplan
    · obtain ⟨joins, keys, _, hquery⟩ := sortedQuery_cases h
      apply sortedQuery_keepsTo hform hplan h query.window
      rw [hquery]
      simp [FilterPlan.baseQuery, Query.filtered]

end Compiler

theorem lookupQuery_keepsTo {counts : List UInt64} (tenant : String) (id : Uuid) :
    keepsTo (statementWords counts) (lookupQuery tenant id).tokens = true := by
  rw [lookupQuery, Sql.keepsTo_filtered, tenantScope_keepsTo]
  rfl

end TenantGrid
