import TenantGrid.Plan.Change
import TenantGrid.Proofs.Plan.Form
/-!
# Compiled statements are well-typed

Whatever compiles is a statement that the store accepts: its columns are those of the tables that it
reads, and every bound value is one for the column beside it.
-/
namespace TenantGrid

open Sql (Expr Level OrderKey Query TableRef Value)

private theorem Test.on_isWellTyped {level : Level} {table : Option String} {name : String}
    {column : Column} (h : level.column? table name = some column) {t : Test}
    (ht : t.Fits column.type) : (t.on (.column table name)).IsWellTyped level := by
  cases t with
  | compare op value => exact .compareParam op h ht.2
  | null negated => exact Expr.IsWellTyped.ofColumn h
  | among values negated => exact .amongParams h ht.2 negated
  | like pattern escape negated =>
    have hcolumn := Expr.IsWellTyped.ofColumn h
    simp only [Test.on, Expr.IsWellTyped] at hcolumn ⊢
    exact ⟨hcolumn, trivial, table, name, column, rfl, h, ht.1⟩

private theorem columnQuery_isWellTyped {table aliasName column : String} {distinct : Bool}
    {condition : Expr}
    (hcolumn : (Level.column? { tables := [{ table, aliasName := some aliasName }] } (some aliasName)
      column).isSome)
    (hcondition : condition.IsWellTyped { tables := [{ table, aliasName := some aliasName }] }) :
    (Sql.columnQuery table aliasName column distinct condition).IsWellTyped := by
  have htable : (Schema.table? table).isSome := by
    have hsingle := Level.column?_single { table, aliasName := some aliasName } column
    rw [TableRef.referenceName, Option.getD_some] at hsingle
    rw [hsingle] at hcolumn
    exact Option.isSome_of_isSome_bind hcolumn
  refine ⟨?_, by simp, trivial, ⟨hcolumn, trivial⟩, hcondition, trivial, trivial, fun h => absurd rfl h⟩
  intro ref href
  have href : ref = { table, aliasName := some aliasName } := by simpa using href
  rw [href]
  exact htable

private theorem scopeQuery_isWellTyped (tenant : String) (scope : Scope) :
    (scopeQuery tenant scope).IsWellTyped := by
  rw [scopeQuery_eq]
  apply columnQuery_isWellTyped
  · decide
  · apply Expr.IsWellTyped.foldl_and
    · exact .compareParam .eq rfl (by trivial)
    · intro e he
      obtain ⟨flag, hflag, rfl⟩ := List.mem_map.mp he
      apply Expr.IsWellTyped.compareLiteral
      change Option.isSome _ = true
      clear he
      revert flag
      rcases scope with (_ | _ | _) | _ <;> decide

private theorem andInner_isWellTyped {level : Level} {e : Expr} (he : e.IsWellTyped level)
    {table name : String} {column : Column} (h : level.column? (some table) name = some column)
    (inner : Option Test) (hinner : ∀ t ∈ inner, t.Fits column.type) :
    (andInner e (inner.map (Test.on (.ofTable table name)))).IsWellTyped level := by
  cases inner with
  | none => exact he
  | some t => exact he.and (t.on_isWellTyped h (hinner t rfl))

theorem visibleTo_isWellTyped {level : Level} {table : Option String} {name : String} {column : Column}
    (h : level.column? table name = some column) (htext : column.type = .text) (tenant : String) :
    (visibleTo tenant (.column table name)).IsWellTyped level := by
  have hnull : (Expr.isNull (.column table name) false).IsWellTyped level :=
    Expr.IsWellTyped.ofColumn h
  have htenant : column.type.Admits (.text tenant) := by
    rw [htext]
    trivial
  exact hnull.or (.compareParam .eq h htenant)

private theorem tagQuery_isWellTyped (tenant : String) (type : TagType) (inner : Option Test)
    (h : ∀ t ∈ inner, t.Fits .text) :
    (tagQuery tenant type (inner.map (Test.on (.ofTable tagAlias "tag")))).IsWellTyped := by
  rw [tagQuery_eq]
  apply columnQuery_isWellTyped
  · decide
  · apply andInner_isWellTyped _ rfl inner h
    exact .and (.compareParam .eq rfl (by trivial)) (visibleTo_isWellTyped rfl rfl tenant)

private theorem userQuery_isWellTyped (tenant : String) (inner : Option Test)
    (h : ∀ t ∈ inner, t.Fits .text) :
    (userQuery tenant (inner.map (Test.on (.ofTable userAlias "user_id")))).IsWellTyped := by
  rw [userQuery_eq]
  apply columnQuery_isWellTyped
  · decide
  · apply andInner_isWellTyped _ rfl inner h
    exact .compareParam .eq rfl (by trivial)

/-- The tables of a query over joins, each under its name. -/
def JoinSet.refs (joins : JoinSet) : List TableRef :=
  { table := Schema.artists.name } ::
    joins.map fun j => { table := j.target.table.name, aliasName := some j.aliasName }

private theorem JoinSet.refs_names (joins : JoinSet) :
    joins.refs.map TableRef.referenceName =
      Schema.artists.name :: joins.map JoinedTable.aliasName := by
  simp [refs, TableRef.referenceName, Function.comp_def]

private theorem JoinTarget.table?_name (target : JoinTarget) :
    Schema.table? target.table.name = some target.table := by
  cases target <;> rfl

private theorem JoinSet.mem_refs {joins : JoinSet} {ref : String} {table : Table}
    (h : (ref, table) ∈ joins.tables) :
    ∃ found ∈ joins.refs, found.referenceName = ref ∧ Schema.table? found.table = some table := by
  rcases List.mem_cons.mp h with h | h
  · obtain ⟨rfl, rfl⟩ := Prod.mk.inj h
    exact ⟨_, List.mem_cons_self, rfl, rfl⟩
  · obtain ⟨j, hj, hentry⟩ := List.mem_map.mp h
    obtain ⟨rfl, rfl⟩ := Prod.mk.inj hentry
    exact ⟨_, List.mem_cons_of_mem _ (List.mem_map_of_mem hj), rfl, j.target.table?_name⟩

private theorem JoinSet.column?_of_mem {joins : JoinSet}
    (hnodup : (joins.refs.map TableRef.referenceName).Nodup) {ref : String} {table : Table}
    (hmem : (ref, table) ∈ joins.tables) (name : String) :
    Level.column? { tables := joins.refs } (some ref) name = table.column? name := by
  obtain ⟨found, hfound, rfl, htable⟩ := mem_refs hmem
  have hlookup := Level.table?_of_mem { tables := joins.refs } hnodup hfound
  simp [Level.column?, hlookup, htable]

section Plan

variable {joins : JoinSet} (hnodup : (joins.refs.map TableRef.referenceName).Nodup)

include hnodup

private theorem artistColumn_isWellTyped {name : String}
    (h : (Schema.artists.column? name).isSome) :
    (Expr.ofTable Schema.artists.name name).IsWellTyped { tables := joins.refs } := by
  have hcolumn := JoinSet.column?_of_mem hnodup (List.mem_cons_self) name
  simpa [Expr.ofTable, hcolumn] using h

private theorem artistId_isWellTyped : artistId.IsWellTyped { tables := joins.refs } :=
  artistColumn_isWellTyped hnodup rfl

private theorem IsCondition.isWellTyped {tenant : String} {e : Expr}
    (h : IsCondition tenant joins.tables e) : e.IsWellTyped { tables := joins.refs } := by
  have hid := artistId_isWellTyped hnodup
  cases h with
  | test t hmem hcolumn hfits =>
    exact t.on_isWellTyped ((JoinSet.column?_of_mem hnodup hmem _).trans hcolumn) hfits
  | tagged type inner negated hfits => exact ⟨hid, tagQuery_isWellTyped tenant type inner hfits⟩
  | attributed inner negated hfits => exact ⟨hid, userQuery_isWellTyped tenant inner hfits⟩

private theorem Compiler.IsSortKey.isWellTyped {compiler : Compiler} {e : Expr}
    (h : IsSortKey compiler joins.tables e) : e.IsWellTyped { tables := joins.refs } := by
  cases h with
  | id => exact artistId_isWellTyped hnodup
  | @aggregate ref name table column direction hmem hcolumn =>
    have hkey : (Expr.ofTable ref name).IsWellTyped { tables := joins.refs } :=
      Expr.IsWellTyped.ofColumn ((JoinSet.column?_of_mem hnodup hmem name).trans hcolumn)
    obtain ⟨function, heq, _⟩ := compiler.aggregate_eq (.ofTable ref name) column.type direction
    rw [heq]
    exact ⟨hkey, trivial⟩

end Plan

private theorem Compiler.IsSortKey.eq_or_isAggregate {compiler : Compiler}
    {tables : List (String × Table)} {e : Expr} (h : IsSortKey compiler tables e) :
    e = artistId ∨ e.IsAggregate := by
  cases h with
  | id => exact Or.inl rfl
  | aggregate direction hmem hcolumn =>
    obtain ⟨function, heq, haggregate⟩ := compiler.aggregate_eq _ _ direction
    rw [heq]
    exact Or.inr haggregate

namespace FilterPlan

variable {plan : FilterPlan}

private theorem joinCondition_isWellTyped (plan : FilterPlan) {joins : JoinSet}
    {joined : JoinedTable} (hnodup : (joins.refs.map TableRef.referenceName).Nodup)
    (hmem : joined ∈ joins) : (plan.joinCondition joined).IsWellTyped { tables := joins.refs } := by
  have hid := artistId_isWellTyped hnodup
  have hlevel := JoinSet.column?_of_mem hnodup (JoinSet.mem_tables hmem)
  obtain ⟨target, aliasName⟩ := joined
  have hcolumn : ∀ name, (target.table.column? name).isSome →
      (Expr.ofTable aliasName name).IsWellTyped { tables := joins.refs } := by
    intro name hname
    simpa [Expr.ofTable, hlevel] using hname
  unfold joinCondition
  cases target with
  | statistic typeId =>
    apply Expr.IsWellTyped.and
    · exact .compareColumn .eq (hcolumn "artist_id" rfl) hid
    · exact .compareParam .eq ((hlevel "statistic_type_id").trans rfl) (by trivial)
  | evaluation =>
    exact .compareColumn .eq (hcolumn "id" rfl) (artistColumn_isWellTyped hnodup rfl)
  | membership =>
    apply Expr.IsWellTyped.and
    · apply Expr.IsWellTyped.and
      · exact .compareColumn .eq (hcolumn "artist_id" rfl) hid
      · exact .compareParam .eq ((hlevel "organization_id").trans rfl) (by trivial)
    · exact .compareLiteral .eq (hcolumn "archived" rfl) _

private theorem joins_isWellTyped (plan : FilterPlan) (first rest : JoinSet)
    (hnodup : ((first ++ rest).refs.map TableRef.referenceName).Nodup) :
    Sql.joinsWellTyped first.refs (rest.map plan.leftJoin) := by
  induction rest generalizing first with
  | nil => trivial
  | cons joined rest ih =>
    have happend : first ++ joined :: rest = (first ++ [joined]) ++ rest := by simp
    have hrefs : first.refs ++ [(plan.leftJoin joined).table] = (first ++ [joined]).refs := by
      simp [JoinSet.refs, leftJoin]
    rw [happend] at hnodup
    have hprefix : ((first ++ [joined]).refs.map TableRef.referenceName).Nodup := by
      apply List.Nodup.sublist _ hnodup
      simp only [JoinSet.refs_names, List.map_append]
      exact (List.sublist_append_left _ _).cons_cons _
    change _ ∧ Sql.joinsWellTyped (first.refs ++ [(plan.leftJoin joined).table]) _
    constructor
    · change (plan.joinCondition joined).IsWellTyped
        { tables := first.refs ++ [(plan.leftJoin joined).table] }
      rw [hrefs]
      exact plan.joinCondition_isWellTyped hprefix (by simp)
    · rw [hrefs]
      exact ih _ hnodup

private theorem baseQuery_isWellTyped (hplan : plan.HasForm) {joins : JoinSet}
    (hextends : plan.joins.AllocatedFrom joins) (hjoins : joins.Allocated) {select : Expr}
    (hselect : select.IsWellTyped { tables := joins.refs }) (groupBy : List Expr)
    (hgroup : ∀ e ∈ groupBy, e.IsWellTyped { tables := joins.refs }) (orderBy : List (OrderKey Expr))
    (horder : ∀ key ∈ orderBy, key.expr.IsWellTyped { tables := joins.refs })
    (hgrouped : groupBy ≠ [] → ∀ e ∈ select :: orderBy.map OrderKey.expr,
      e ∈ groupBy ∨ e.IsAggregate) (distinct : Bool) (window : Option Sql.Window) :
    Query.IsWellTyped
      { plan.baseQuery joins select with distinct, groupBy, orderBy, window } := by
  have hnodup : (joins.refs.map TableRef.referenceName).Nodup := by
    rw [JoinSet.refs_names]
    exact hjoins.nodup
  have htables : [({ table := Schema.artists.name } : TableRef)] ++
      (joins.map plan.leftJoin).map Sql.Join.table = joins.refs := by
    simp [JoinSet.refs, leftJoin, Function.comp_def]
  have hcondition : plan.condition.IsWellTyped { tables := joins.refs } := by
    apply Expr.IsWellTyped.foldl_and
    · exact ⟨artistId_isWellTyped hnodup, scopeQuery_isWellTyped plan.tenant plan.scope⟩
    · intro e he
      exact ((hplan e he).mono hextends.tables_subset).isWellTyped hnodup
  change Sql.queryWellTyped ⟨[{ expr := select }], distinct, some { table := Schema.artists.name },
    joins.map plan.leftJoin, some plan.condition, groupBy, orderBy, window⟩
  simp only [Sql.queryWellTyped, Option.toList_some, htables]
  refine ⟨?_, hnodup, plan.joins_isWellTyped [] joins hnodup, ⟨hselect, trivial⟩, hcondition,
    Sql.eachWellTyped_iff.mpr hgroup, Sql.keysWellTyped_iff.mpr horder, hgrouped⟩
  intro ref href
  rcases List.mem_cons.mp href with href | href
  · rw [href]
    rfl
  · obtain ⟨j, _, rfl⟩ := List.mem_map.mp href
    rw [j.target.table?_name]
    rfl

private theorem countQuery_isWellTyped (hplan : plan.HasForm) (hscoped : plan.IsScoped) :
    plan.countQuery.IsWellTyped := by
  have hnodup : (plan.joins.refs.map TableRef.referenceName).Nodup := by
    rw [JoinSet.refs_names]
    exact hscoped.allocated.nodup
  have hcount : artistId.countDistinct.IsWellTyped { tables := plan.joins.refs } :=
    ⟨artistId_isWellTyped hnodup, trivial⟩
  exact baseQuery_isWellTyped hplan .start hscoped.allocated hcount [] (by simp) [] (by simp)
    (by simp) false none

private theorem idQuery_isWellTyped (hplan : plan.HasForm) (hscoped : plan.IsScoped) :
    plan.idQuery.IsWellTyped := by
  have hnodup : (plan.joins.refs.map TableRef.referenceName).Nodup := by
    rw [JoinSet.refs_names]
    exact hscoped.allocated.nodup
  exact baseQuery_isWellTyped hplan .start hscoped.allocated (artistId_isWellTyped hnodup)
    [] (by simp) [] (by simp) (by simp) true none

theorem labelQuery_isWellTyped (hplan : plan.HasForm) (hscoped : plan.IsScoped) :
    plan.labelQuery.IsWellTyped := by
  let label := Expr.ofTable currentEvaluationAlias "label"
  let evaluation : TableRef :=
    { table := Schema.evaluations.name, aliasName := some currentEvaluationAlias }
  change Sql.queryWellTyped
    ⟨[{ expr := label, aliasName := some "label" },
        { expr := artistId.countDistinct, aliasName := some "artist_count" }], false,
      some { table := Schema.artists.name },
      [⟨.left, evaluation, (Expr.ofTable currentEvaluationAlias "id").eq
        (.ofTable Schema.artists.name "evaluation_id")⟩],
      some (.inQuery artistId plan.idQuery false), [label],
      [{ expr := artistId.countDistinct, direction := some .desc },
        { expr := label, nulls := some .last }], none⟩
  have hcount : artistId.countDistinct.IsWellTyped
      { tables := [{ table := Schema.artists.name }, evaluation] } := ⟨rfl, trivial⟩
  refine ⟨by decide, by decide, ⟨?_, trivial⟩, ⟨rfl, hcount, trivial⟩,
    ⟨rfl, idQuery_isWellTyped hplan hscoped⟩, ⟨rfl, trivial⟩, ⟨hcount, rfl, trivial⟩, ?_⟩
  · exact .compareColumn .eq rfl rfl
  · intro _ e he
    simp only [List.map_cons, List.map_nil, List.cons_append, List.nil_append, List.mem_cons,
      List.not_mem_nil, or_false] at he
    rcases he with rfl | rfl | rfl | rfl
    · exact Or.inl List.mem_cons_self
    · exact Or.inr rfl
    · exact Or.inr rfl
    · exact Or.inl List.mem_cons_self

theorem membershipUpdate_isWellTyped (hplan : plan.HasForm) (hscoped : plan.IsScoped)
    (change : MembershipChange) : (plan.membershipUpdate change).IsWellTyped := by
  constructor
  · intro assignment hassignment
    change assignment ∈ change.assignments at hassignment
    cases change with
    | mute muted =>
      have heq := List.mem_singleton.mp hassignment
      rw [heq]
      refine ⟨_, rfl, trivial, ?_⟩
      rintro _ ⟨⟩
      trivial
    | archive user moment =>
      simp only [MembershipChange.assignments, List.mem_cons, List.not_mem_nil, or_false] at hassignment
      rcases hassignment with rfl | rfl | rfl
      · exact ⟨_, rfl, trivial, fun _ h => nomatch h⟩
      · refine ⟨_, rfl, trivial, ?_⟩
        rintro _ ⟨⟩
        trivial
      · refine ⟨_, rfl, trivial, ?_⟩
        rintro _ ⟨⟩
        trivial
    | unarchive =>
      simp only [MembershipChange.assignments, List.mem_cons, List.not_mem_nil, or_false] at hassignment
      rcases hassignment with rfl | rfl | rfl <;>
        exact ⟨_, rfl, trivial, fun _ h => nomatch h⟩
  · change ((((Expr.bare "organization_id").eq (.param (.text plan.tenant))).and
      ((Expr.bare "archived").eq (.boolLiteral change.appliesToArchived))).and
      (.inQuery (.bare "artist_id") plan.idQuery false)).IsWellTyped _
    apply Expr.IsWellTyped.and
    · apply Expr.IsWellTyped.and
      · exact .compareParam .eq rfl (by trivial)
      · apply Expr.IsWellTyped.compareLiteral
        rfl
    · exact ⟨rfl, idQuery_isWellTyped hplan hscoped⟩

end FilterPlan

namespace Compiler

variable {compiler : Compiler} {plan : FilterPlan}

private theorem sortedQuery_isWellTyped (hplan : plan.HasForm) (hscoped : plan.IsScoped)
    {sort : List SortItem} {query : Query} (h : compiler.sortedQuery plan sort = .ok query)
    (window : Option Sql.Window) : Query.IsWellTyped { query with window } := by
  obtain ⟨joins, keys, hkeys, rfl⟩ := sortedQuery_cases h
  have hextends := (orderKeys_cases hkeys).1
  have hjoins := hscoped.allocated.trans hextends
  have hnodup : (joins.refs.map TableRef.referenceName).Nodup := by
    rw [JoinSet.refs_names]
    exact hjoins.nodup
  have hid := artistId_isWellTyped hnodup
  have hform := orderKeys_form hkeys
  apply FilterPlan.baseQuery_isWellTyped hplan hextends hjoins hid
  · intro e he
    rw [List.mem_singleton.mp he]
    exact hid
  · intro key hkey
    exact (hform key hkey).isWellTyped hnodup
  · intro _ e he
    rcases List.mem_cons.mp he with he | he
    · exact Or.inl (by simp [he])
    · obtain ⟨key, hkey, rfl⟩ := List.mem_map.mp he
      rcases (hform key hkey).eq_or_isAggregate with hid | haggregate
      · exact Or.inl (by simp [hid])
      · exact Or.inr haggregate

theorem modeQuery_isWellTyped (hplan : plan.HasForm) (hscoped : plan.IsScoped)
    {sort : List SortItem} {page : Page} {mode : Mode} {query : Query}
    (h : compiler.modeQuery plan sort page mode = .ok query) : query.IsWellTyped := by
  cases mode with
  | rows =>
    obtain ⟨sorted, hsorted, h⟩ := bind_eq_ok h
    rw [← Except.ok.inj h]
    exact sortedQuery_isWellTyped hplan hscoped hsorted _
  | count =>
    rw [← Except.ok.inj h]
    exact FilterPlan.countQuery_isWellTyped hplan hscoped
  | ids =>
    change (if sort.isEmpty then _ else _) = _ at h
    split at h
    · rw [← Except.ok.inj h]
      exact FilterPlan.idQuery_isWellTyped hplan hscoped
    · exact sortedQuery_isWellTyped hplan hscoped h query.window

end Compiler

theorem lookupQuery_isWellTyped (tenant : String) (id : Uuid) :
    (lookupQuery tenant id).IsWellTyped := by
  have hnodup : ((JoinSet.refs []).map TableRef.referenceName).Nodup := by decide
  change Sql.queryWellTyped ⟨[{ expr := artistId }], false, some { table := Schema.artists.name }, [],
    some ((artistId.eq (.param (.uuid id))).and (tenantScope tenant (.visible .showAll))), [], [], none⟩
  refine ⟨by decide, by decide, trivial, ⟨rfl, trivial⟩, ?_, trivial, trivial,
    fun h => absurd rfl h⟩
  apply Expr.IsWellTyped.and
  · exact .compareParam .eq rfl (by trivial)
  · exact ⟨artistId_isWellTyped hnodup, scopeQuery_isWellTyped tenant _⟩

end TenantGrid
