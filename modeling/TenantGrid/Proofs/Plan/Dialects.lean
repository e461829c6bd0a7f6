import TenantGrid.Proofs.Plan.Form
import TenantGrid.Proofs.Plan.Paging
import TenantGrid.Proofs.Sql.Dialects
import TenantGrid.Proofs.Sql.Flags
/-!
# Plans across dialects

Requests are compiled alike for both dialects, up to the aggregates of boolean columns that a sort
reads. As the joined rows of an artist hold booleans in these columns, if anything, both aggregates
come to the same value, and the queries have the same answers.
-/
namespace TenantGrid

open Sql (Collation Database Env Expr OrderKey Query Record SameTokens Value)

/-- The value of a group that a sort reads where it is the least or greatest. -/
def extremeOf : Sql.Direction → Expr → Expr
  | .asc, e => e.min
  | .desc, e => e.max

/-- The value of a group of booleans that a sort reads where it is whether all or any are true. -/
def verdictOf : Sql.Direction → Expr → Expr
  | .asc, e => .call "BOOL_AND" false [e]
  | .desc, e => .call "BOOL_OR" false [e]

/-- An order key of a sort, missing values last. -/
def valueKey (direction : Sql.Direction) (e : Expr) : OrderKey Expr :=
  { expr := e, direction := some direction, nulls := some .last }

/-- The keys of one sort in SQLite and in PostgreSQL. They differ for boolean columns alone. -/
inductive SameKey (tables : List (String × Table)) : OrderKey Expr → OrderKey Expr → Prop
  | id (direction : Option Sql.Direction) :
    SameKey tables { expr := artistId, direction } { expr := artistId, direction }
  | value {ref name : String} {table : Table} {column : Column} (direction : Sql.Direction)
    (hmem : (ref, table) ∈ tables) (hcolumn : table.column? name = some column)
    (htype : column.type ≠ .bool) :
    SameKey tables (valueKey direction (extremeOf direction (.ofTable ref name)))
      (valueKey direction (extremeOf direction (.ofTable ref name)))
  | flag {ref name : String} {table : Table} {column : Column} (direction : Sql.Direction)
    (hmem : (ref, table) ∈ tables) (hcolumn : table.column? name = some column)
    (htype : column.type = .bool) :
    SameKey tables (valueKey direction (extremeOf direction (.ofTable ref name)))
      (valueKey direction (verdictOf direction (.ofTable ref name)))

variable {tables more : List (String × Table)} {key key' : OrderKey Expr}

private theorem SameKey.mono (h : SameKey tables key key') (hsub : tables ⊆ more) :
    SameKey more key key' := by
  cases h with
  | id direction => exact .id direction
  | value direction hmem hcolumn htype => exact .value direction (hsub hmem) hcolumn htype
  | flag direction hmem hcolumn htype => exact .flag direction (hsub hmem) hcolumn htype

private theorem SameKey.sameAcross (h : SameKey tables key key') : key.SameAcross key' := by
  cases h with
  | id direction => exact ⟨.refl _, rfl, rfl⟩
  | value direction => exact ⟨.refl _, rfl, rfl⟩
  | flag direction =>
    refine ⟨?_, rfl, rfl⟩
    cases direction with
    | asc => exact .cons .every (SameTokens.refl _)
    | desc => exact .cons .any (SameTokens.refl _)

namespace Compiler

/-- The compiler for another dialect. -/
def inDialect (compiler : Compiler) (dialect : Sql.Dialect) : Compiler :=
  { compiler with dialect }

variable {compiler : Compiler}

private theorem aggregate_sameKey {ref name : String} {table : Table} {column : Column}
    (direction : Sql.Direction) (hmem : (ref, table) ∈ tables)
    (hcolumn : table.column? name = some column) :
    SameKey tables
      (valueKey direction ((compiler.inDialect .sqlite).aggregate (.ofTable ref name) column.type direction))
      (valueKey direction
        ((compiler.inDialect .postgres).aggregate (.ofTable ref name) column.type direction)) := by
  have hsqlite : (compiler.inDialect .sqlite).aggregate (.ofTable ref name) column.type direction =
      extremeOf direction (.ofTable ref name) := by
    cases direction <;> simp [aggregate, inDialect, extremeOf]
  rw [hsqlite]
  by_cases htype : column.type = .bool
  · have hpostgres : (compiler.inDialect .postgres).aggregate (.ofTable ref name) column.type
        direction = verdictOf direction (.ofTable ref name) := by
      cases direction <;> simp [aggregate, inDialect, verdictOf, htype]
    rw [hpostgres]
    exact .flag direction hmem hcolumn htype
  · have hpostgres : (compiler.inDialect .postgres).aggregate (.ofTable ref name) column.type
        direction = extremeOf direction (.ofTable ref name) := by
      cases direction <;> simp [aggregate, inDialect, extremeOf, htype]
    rw [hpostgres]
    exact .value direction hmem hcolumn htype

/-- The joins and keys of one sort in SQLite and in PostgreSQL. -/
structure SameSort (sorted sorted' : JoinSet × List (OrderKey Expr)) : Prop where
  joins : sorted'.1 = sorted.1
  keys : List.Forall₂ (SameKey sorted.1.tables) sorted.2 sorted'.2

private theorem addSort_dialects (compiler : Compiler)
    {before before' : JoinSet × List (OrderKey Expr)}
    (h : SameSort before before') (item : SortItem) :
    SameOutcome SameSort ((compiler.inDialect .sqlite).addSort before item)
      ((compiler.inDialect .postgres).addSort before' item) := by
  obtain ⟨joins, keys⟩ := before
  obtain ⟨joins', keys'⟩ := before'
  obtain ⟨rfl, hkeys⟩ := h
  refine (SameOutcome.refl (compiler.catalog.route item.field)).bind ?_
  rintro route _ hroute - rfl
  cases hsort : route.sortColumn? joins' with
  | none => exact .error _
  | some found =>
    obtain ⟨column, type, joins⟩ := found
    obtain ⟨ref, table, name, hreading, rfl, hmem⟩ := Route.sortColumn?_reading hsort
    obtain ⟨column, hcolumn, rfl⟩ :=
      Route.ofField?_isTyped (Catalog.route_ok hroute) table name type hreading
    by_cases hid : item.field = "id"
    · simp only [hid, if_true]
      exact .ok ⟨rfl, List.rel_append hkeys (.cons (.id _) .nil)⟩
    by_cases hsortable : (!column.type.isSortable) = true
    · simp only [hid, hsortable, if_true, if_false]
      exact .error _
    · simp only [hid, hsortable, if_false]
      refine .ok ⟨rfl, List.rel_append (hkeys.imp fun _ _ hkey => hkey.mono ?_)
        (.cons (aggregate_sameKey item.direction hmem hcolumn) .nil)⟩
      exact (Route.sortColumn?_some hsort).2.tables_subset

private theorem orderKeys_dialects (compiler : Compiler) (joins : JoinSet) (sort : List SortItem) :
    SameOutcome SameSort ((compiler.inDialect .sqlite).orderKeys joins sort)
      ((compiler.inDialect .postgres).orderKeys joins sort) := by
  have hstart : SameSort (joins, []) (joins, []) := ⟨rfl, .nil⟩
  refine (SameOutcome.foldlM (fun _ _ item h => compiler.addSort_dialects h item) sort hstart).bind ?_
  rintro ⟨joins, keys⟩ ⟨joins', keys'⟩ - - ⟨rfl, hkeys⟩
  exact .ok ⟨rfl, List.rel_append hkeys (.cons (.id _) .nil)⟩

end Compiler

/-- Whether boolean columns hold booleans, where they hold anything. -/
def HoldsFlags (db : Database) : Prop :=
  ∀ table ∈ Schema.tables, ∀ column ∈ table.columns, column.type = .bool →
    ∀ row ∈ db table.name, (row column.name).IsFlag

namespace FilterPlan

variable {c : Collation} {db : Database} {plan : FilterPlan} {joins : JoinSet}

private theorem mem_record (hjoins : joins.Allocated) {env : Env}
    (henv : env ∈ plan.keptRows c db joins)
    {ref : String} {table : Table} (hmem : (ref, table) ∈ joins.tables) {record : Record}
    (hrecord : (ref, record) ∈ env) : record ∈ db table.name ∨ record = Sql.nullRecord := by
  have hnames : (joins.tables.map Prod.fst).Nodup := by
    simpa [JoinSet.tables, Function.comp_def] using hjoins.nodup
  have hunique : ∀ other, (ref, other) ∈ joins.tables → other = table := fun other hother =>
    congrArg Prod.snd (List.inj_on_of_nodup_map hnames hother hmem rfl)
  obtain ⟨artist, hartist, hrow, _⟩ := (mem_keptRows joins env).mp henv
  rcases Sql.mem_of_mem_joinedRows hrow _ hrecord with hfirst | ⟨join, hjoin, hname, hfound⟩
  · obtain ⟨rfl, rfl⟩ := Prod.mk.inj (List.mem_singleton.mp hfirst)
    rw [← hunique Schema.artists List.mem_cons_self]
    exact Or.inl hartist
  · obtain ⟨j, hj, rfl⟩ := List.mem_map.mp hjoin
    obtain rfl : ref = j.aliasName := hname
    rw [← hunique j.target.table (JoinSet.mem_tables hj)]
    exact hfound

private theorem readColumn_isFlag (hdb : HoldsFlags db) (hjoins : joins.Allocated) {env : Env}
    (henv : env ∈ plan.keptRows c db joins) {ref name : String} {table : Table} {column : Column}
    (hmem : (ref, table) ∈ joins.tables) (hcolumn : table.column? name = some column)
    (htype : column.type = .bool) : (Sql.readColumn env (some ref) name).IsFlag := by
  have hname : column.name = name := by simpa using List.find?_some hcolumn
  cases hfound : env.lookup ref with
  | none => exact Or.inl (by simp [Sql.readColumn, hfound])
  | some record =>
    have hrecord : (ref, record) ∈ env := by
      obtain ⟨before, after, rfl, _⟩ := List.lookup_eq_some_iff.mp hfound
      simp
    have hread : Sql.readColumn env (some ref) name = record name := by
      simp [Sql.readColumn, hfound]
    rw [hread, ← hname]
    rcases mem_record hjoins henv hmem hrecord with hrow | rfl
    · exact hdb table (JoinSet.table_mem hmem) column (List.mem_of_find?_eq_some hcolumn) htype
        record hrow
    · exact Or.inl rfl

private theorem value_of_sameKey (hdb : HoldsFlags db) (hjoins : joins.Allocated)
    {key key' : OrderKey Expr} (h : SameKey joins.tables key key') {group : Multiset Env}
    (hgroup : ∀ env ∈ group, env ∈ plan.keptRows c db joins) (env : Env) :
    key.expr.value c db group env = key'.expr.value c db group env := by
  cases h with
  | id => rfl
  | value => rfl
  | @flag ref name table column direction hmem hcolumn htype =>
    have hflags : ∀ v ∈ group.map fun row => Sql.readColumn row (some ref) name, v.IsFlag := by
      intro v hv
      obtain ⟨row, hrow, rfl⟩ := Multiset.mem_map.mp hv
      exact readColumn_isFlag hdb hjoins (hgroup row hrow) hmem hcolumn htype
    have hevery := c.aggregate_every hflags
    have hany := c.aggregate_any hflags
    rw [Multiset.map_map] at hevery hany
    cases direction with
    | asc => exact hevery.symm
    | desc => exact hany.symm

private theorem sortedQuery_results_same (hdb : HoldsFlags db) (hjoins : joins.Allocated)
    {keys keys' : List (OrderKey Expr)} (h : List.Forall₂ (SameKey joins.tables) keys keys')
    (hkeys : ∀ key ∈ keys, IsSettledById key.expr) (hkeys' : ∀ key ∈ keys', IsSettledById key.expr) :
    Query.results c db { plan.baseQuery joins artistId with groupBy := [artistId], orderBy := keys } =
      Query.results c db
        { plan.baseQuery joins artistId with groupBy := [artistId], orderBy := keys' } := by
  rw [sortedQuery_results hkeys, sortedQuery_results hkeys']
  refine Multiset.map_congr rfl fun id _ => ?_
  have hgroup : ∀ env ∈ (plan.keptRows c db joins).filter
      (fun env => artistId.value c db {env} env = id), env ∈ plan.keptRows c db joins :=
    fun env henv => (Multiset.mem_filter.mp henv).1
  simp only [sortedResult, Sql.keyValues_eq_map]
  congr 1
  rw [← List.forall₂_eq_eq_eq, List.forall₂_map_left_iff, List.forall₂_map_right_iff]
  exact h.imp fun _ _ hkey => value_of_sameKey hdb hjoins hkey hgroup _

end FilterPlan

/-- Whether two queries of a plan are the same, up to sort keys over the tables that they join, and are
answered alike. -/
structure SameQuery (plan : FilterPlan) (query query' : Query) : Prop where
  eq : query' = { query with orderBy := query'.orderBy }
  keys : ∃ joins : JoinSet, query.joins = joins.map plan.leftJoin ∧
    List.Forall₂ (SameKey joins.tables) query.orderBy query'.orderBy
  answers : ∀ (c : Collation) (db : Database), HoldsFlags db → ∀ answer,
    query.IsAnswer c db answer ↔ query'.IsAnswer c db answer

private theorem SameQuery.tokens {plan : FilterPlan} {query query' : Query}
    (h : SameQuery plan query query') : SameTokens query.tokens query'.tokens := by
  obtain ⟨joins, _, hkeys⟩ := h.keys
  rw [h.eq]
  exact Sql.queryTokens_same query (hkeys.imp fun _ _ hkey => hkey.sameAcross)

private theorem SameQuery.refl {plan : FilterPlan} {query : Query} {joins : JoinSet}
    (hjoins : query.joins = joins.map plan.leftJoin) (horder : query.orderBy = []) :
    SameQuery plan query query where
  eq := rfl
  keys := ⟨joins, hjoins, by rw [horder]; exact .nil⟩
  answers _ _ _ _ := Iff.rfl

namespace Compiler

variable {plan : FilterPlan}

private theorem sortedQuery_dialects (compiler : Compiler) (hplan : plan.joins.Allocated)
    (sort : List SortItem) :
    SameOutcome (fun query query' => query'.window = query.window ∧ ∀ window : Option Sql.Window,
      SameQuery plan { query with window } { query' with window })
      ((compiler.inDialect .sqlite).sortedQuery plan sort)
      ((compiler.inDialect .postgres).sortedQuery plan sort) := by
  refine (compiler.orderKeys_dialects plan.joins sort).bind ?_
  rintro ⟨joins, keys⟩ ⟨joins', keys'⟩ hsqlite hpostgres ⟨rfl, hkeys⟩
  obtain ⟨hadded, _, _, hisKey⟩ := orderKeys_cases hsqlite
  obtain ⟨_, _, _, hisKey'⟩ := orderKeys_cases hpostgres
  refine .ok ⟨rfl, fun window => ⟨rfl, ⟨joins', rfl, hkeys⟩, fun c db hdb answer => ?_⟩⟩
  refine Query.isAnswer_congr c db (by rfl) ?_ ?_ answer
  · exact hkeys.imp fun _ _ hkey => hkey.sameAcross
  · exact FilterPlan.sortedQuery_results_same hdb (hplan.trans hadded) hkeys
      (fun key hkey => (hisKey key hkey).isSettledById)
      fun key hkey => (hisKey' key hkey).isSettledById

private theorem modeQuery_dialects (compiler : Compiler) (hplan : plan.joins.Allocated)
    (sort : List SortItem) (page : Page) (mode : Mode) :
    SameOutcome (SameQuery plan)
      ((compiler.inDialect .sqlite).modeQuery plan sort page mode)
      ((compiler.inDialect .postgres).modeQuery plan sort page mode) := by
  have hsorted := compiler.sortedQuery_dialects hplan sort
  cases mode with
  | rows =>
    refine hsorted.bind fun query query' _ _ h => .ok ?_
    exact h.2 (some { limit := some page.size, offset := some page.offset })
  | count => exact .ok (.refl rfl rfl)
  | ids =>
    change SameOutcome _ (if sort.isEmpty then _ else _) (if sort.isEmpty then _ else _)
    by_cases hempty : sort.isEmpty = true
    · rw [if_pos hempty, if_pos hempty]
      exact .ok (.refl rfl rfl)
    · rw [if_neg hempty, if_neg hempty]
      refine hsorted.imp ?_
      rintro ⟨⟩ ⟨⟩ ⟨rfl, hsame⟩
      exact hsame _

end Compiler

/-- Whether two requests are compiled to one plan and one query, each in its own dialect. -/
structure SameCompiled (sqlite postgres : Compiled) : Prop where
  plan : postgres.plan = sqlite.plan
  relations : postgres.relations = sqlite.relations
  sqliteStatement : sqlite.statement = .ofTokens .sqlite sqlite.query.tokens
  postgresStatement : postgres.statement = .ofTokens .postgres postgres.query.tokens
  tokens : SameTokens sqlite.query.tokens postgres.query.tokens
  params : postgres.statement.params = sqlite.statement.params
  query : SameQuery sqlite.plan sqlite.query postgres.query

private theorem SameQuery.sameCompiled {plan : FilterPlan} {query query' : Query}
    (relations : List Relation) (h : SameQuery plan query query') :
    SameCompiled ⟨plan, query, query.statement .sqlite, relations⟩
      ⟨plan, query', query'.statement .postgres, relations⟩ where
  plan := rfl
  relations := rfl
  sqliteStatement := rfl
  postgresStatement := rfl
  tokens := h.tokens
  params := h.tokens.bound_eq.symm
  query := h

/-- Requests are compiled alike for both dialects: they fail with the same error, or come to the
same plan, parameters and tokens, up to the aggregates of boolean columns. These agree on every group
of booleans, and the queries have the same answers wherever boolean columns hold booleans. -/
theorem compile_dialects (compiler : Compiler) (tenant : String) (filter : FilterModel)
    (sort : List SortItem) (page : Page) (mode : Mode) :
    (∀ (c : Collation) (flags : Multiset Bool),
      let group := flags.map fun flag => [Value.bool flag]
      c.aggregate .every false group = c.aggregate .min false group ∧
        c.aggregate .any false group = c.aggregate .max false group) ∧
    SameOutcome SameCompiled ((compiler.inDialect .sqlite).compile tenant filter sort page mode)
      ((compiler.inDialect .postgres).compile tenant filter sort page mode) := by
  constructor
  · intro c flags
    have hflags : ∀ v ∈ flags.map Value.bool, v.IsFlag := by
      intro v hv
      obtain ⟨flag, _, rfl⟩ := Multiset.mem_map.mp hv
      exact Or.inr ⟨flag, rfl⟩
    have hevery := c.aggregate_every hflags
    have hany := c.aggregate_any hflags
    rw [Multiset.map_map] at hevery hany
    exact ⟨hevery, hany⟩
  · refine (SameOutcome.refl (compiler.plan tenant filter)).bind ?_
    rintro plan _ hplan - rfl
    have hallocated := (Compiler.planWithin_isScoped hplan).allocated
    refine (compiler.modeQuery_dialects hallocated sort page mode).bind ?_
    exact fun query query' _ _ h => .ok (h.sameCompiled _)

private theorem sample_holdsFlags : HoldsFlags (listedRows sampleRoster) := by
  have hsample : ∀ table ∈ Schema.tables, ∀ row ∈ sampleRoster table.name, ∀ column ∈ table.columns,
      column.type = .bool → row column.name = .null ∨ ∃ flag, row column.name = .bool flag := by
    decide
  intro table htable column hcolumn htype row hrow
  exact hsample table htable row (by simpa [listedRows] using hrow) column hcolumn htype

theorem compile_dialects_sample :
    HoldsFlags (listedRows sampleRoster) ∧
    ∃ sqlite postgres,
      (Compiler.sample.inDialect .sqlite).compile "t" { items := Compiler.sampleItems }
        Compiler.sampleSort ⟨0, 10⟩ .rows = .ok sqlite ∧
      (Compiler.sample.inDialect .postgres).compile "t" { items := Compiler.sampleItems }
        Compiler.sampleSort ⟨0, 10⟩ .rows = .ok postgres ∧
      postgres.statement.params = sqlite.statement.params ∧
      ∀ answer, sqlite.query.IsAnswer .plain (listedRows sampleRoster) answer ↔
        postgres.query.IsAnswer .plain (listedRows sampleRoster) answer := by
  have hsame := (compile_dialects Compiler.sample "t" { items := Compiler.sampleItems }
    Compiler.sampleSort ⟨0, 10⟩ .rows).2
  obtain ⟨sqlite, hsqlite⟩ : ∃ sqlite, (Compiler.sample.inDialect .sqlite).compile "t"
      { items := Compiler.sampleItems } Compiler.sampleSort ⟨0, 10⟩ .rows = .ok sqlite := ⟨_, rfl⟩
  obtain ⟨postgres, hpostgres⟩ : ∃ postgres, (Compiler.sample.inDialect .postgres).compile "t"
      { items := Compiler.sampleItems } Compiler.sampleSort ⟨0, 10⟩ .rows = .ok postgres := ⟨_, rfl⟩
  rw [hsqlite, hpostgres] at hsame
  cases hsame with
  | ok h =>
    exact ⟨sample_holdsFlags, sqlite, postgres, hsqlite, hpostgres, h.params,
      h.query.answers .plain _ sample_holdsFlags⟩

end TenantGrid
