import TenantGrid.Proofs.Filter.Aliases
import TenantGrid.Proofs.Filter.Steps
import TenantGrid.Proofs.Plan.Condition
/-!
# Items of a plan

What one more item does to a plan, and what every plan therefore keeps: its joins were allocated one
after another, and its conditions read the artist and these joins alone.
-/
namespace TenantGrid

open Sql (Collation Database Env Expr Query Record Value)

namespace Compiler

variable (compiler : Compiler)

/-- Whether a condition on a column of a table is the same test for every table, and is passed by the
values that the test is true of. -/
def TestsColumn (name : String) (passes : Collation → Value → Prop)
    (put : String → Except RequestError (Option Expr)) : Prop :=
  ∃ r : Except RequestError (Option Test),
    (∀ table, put table = r.map (Option.map (Test.on (.ofTable table name)))) ∧
      ∀ t, r = .ok (some t) → ∀ c v, passes c v ↔ t.outcome c v = .bool true

private theorem accepts_iff (item : FilterItem) (type : ColumnType) (percent : Bool) (op : Operator)
    {r : Except RequestError (Option Test)}
    (hr : ∀ column, ({ field := item.field, column, type, percent } : Subject).predicate
      compiler.escapeNegated op item.value = r.map (Option.map (Test.on column)))
    {t : Test} (ht : r = .ok (some t)) (c : Collation) (v : Value) :
    compiler.Accepts c item type percent op v ↔ t.outcome c v = .bool true := by
  unfold Accepts
  simp [hr, ht, Except.map, Expr.Holds, Test.value_on]

private theorem testsColumn_operator (item : FilterItem) (name : String) (type : ColumnType)
    (percent : Bool) :
    TestsColumn name (fun c v => compiler.Passes c item type percent v) fun table =>
      (operator item type).bind fun op =>
        ({ field := item.field, column := .ofTable table name, type, percent } : Subject).predicate
          compiler.escapeNegated op item.value := by
  unfold operator
  cases hop : Operator.ofName? item.operator with
  | none => exact ⟨.error _, fun _ => rfl, fun _ h => by simp at h⟩
  | some op =>
    obtain ⟨r, hr⟩ := Subject.predicate_isTest
      { field := item.field, column := .bare name, type, percent } compiler.escapeNegated op item.value
    refine ⟨r, fun table => hr _, fun t ht c v => ?_⟩
    unfold Passes
    simp [hop, compiler.accepts_iff item type percent op hr ht]

theorem columnPredicate_testsColumn (item : FilterItem) (column : Column) :
    TestsColumn column.name (fun c v => compiler.Passes c item column.type false v) fun table =>
      compiler.columnPredicate item table column :=
  compiler.testsColumn_operator item column.name column.type false

theorem statisticPredicate_testsColumn (item : FilterItem) (metric : Metric) :
    TestsColumn metric.column (fun c v => compiler.Passes c item .real metric.isPercent v)
      fun table => compiler.statisticPredicate item table metric :=
  compiler.testsColumn_operator item metric.column .real metric.isPercent

theorem attributionPredicate_testsColumn (item : FilterItem) (column : Column) :
    TestsColumn column.name (fun c v => compiler.PassesAttribution c item column.type v)
      fun table => compiler.attributionPredicate item table column := by
  cases hop : attributionOperator item.field item.value with
  | error e =>
    exact ⟨.error e, fun table => by simp [attributionPredicate, hop, bind, Except.bind, Except.map],
      fun _ h => by simp at h⟩
  | ok chosen =>
    cases chosen with
    | none =>
      exact ⟨.ok none, fun table => by simp [attributionPredicate, hop, bind, Except.bind, Except.map],
        fun _ h => by simp at h⟩
    | some op =>
      obtain ⟨r, hr⟩ := Subject.predicate_isTest
        { field := item.field, column := .bare column.name, type := column.type }
        compiler.escapeNegated op item.value
      refine ⟨r, fun table => ?_, fun t ht c v => ?_⟩
      · simp only [attributionPredicate, hop, bind, Except.bind]
        exact hr _
      · unfold PassesAttribution
        simp [hop, compiler.accepts_iff item column.type false op hr ht]

theorem operator_ok {item : FilterItem} {type : ColumnType} {op : Operator}
    (h : operator item type = .ok op) : Operator.ofName? item.operator = some op := by
  unfold operator at h
  split at h
  · rwa [← Except.ok.inj h]
  · simp at h

theorem relationPredicate_some {item : FilterItem} {column : Expr}
    {related : Option Expr → Query} {e : Expr}
    (h : compiler.relationPredicate item column related = .ok (some e)) :
    ∃ (op : Operator) (inner : Option Test),
      e = .inQuery artistId (related (inner.map (Test.on column))) op.isNegative ∧
        ∀ c rows name, compiler.PassesRelated c item rows name ↔
          let found := ∃ row ∈ rows, ∀ t ∈ inner, t.outcome c (row name) = .bool true
          if op.isNegative then ¬ found else found := by
  obtain ⟨op, hop, h⟩ := bind_eq_ok h
  obtain ⟨m, hm, h⟩ := bind_eq_ok h
  have hname := operator_ok hop
  obtain ⟨r, hr⟩ := Membership.ofItem_isTest compiler.escapeNegated item.field op item.value
  rw [hr] at hm
  obtain ⟨found, rfl, rfl⟩ := map_eq_ok hm
  cases found with
  | none => simp at h
  | some inner =>
    refine ⟨op, inner, (Option.some.inj (Except.ok.inj h)).symm, fun c rows name => ?_⟩
    simp [PassesRelated, hname, hr, Except.map, Expr.Holds, Test.value_on]

theorem TestsColumn.exists_test {name : String} {passes : Collation → Value → Prop}
    {put : String → Except RequestError (Option Expr)} (h : TestsColumn name passes put)
    {table : String} {e : Expr} (he : put table = .ok (some e)) :
    ∃ t : Test, e = t.on (.ofTable table name) ∧ ∀ c v, passes c v ↔ t.outcome c v = .bool true := by
  obtain ⟨r, hput, hpasses⟩ := h
  rw [hput] at he
  obtain ⟨found, rfl, hfound⟩ := map_eq_ok he
  cases found with
  | none => simp at hfound
  | some t => exact ⟨t, Option.some.inj hfound, hpasses t rfl⟩

private theorem membershipRows_ne_zero {c : Collation} {db : Database} {tenant : String}
    {scope : Scope} {artist : Record} (h : scope.Shows c db tenant artist) :
    membershipRows c db tenant artist scope.isArchived ≠ 0 := by
  obtain ⟨row, hrow, _⟩ := h
  intro hzero
  simp [hzero] at hrow

/-- The condition of a joined route is a test of one column under the next alias. It is true of a row
that the join adds exactly if the artist meets the item. -/
theorem itemPredicate_joined {tenant : String} {joins : JoinSet} {item : FilterItem} {route : Route}
    {target : JoinTarget} {e : Expr} (htarget : route.joinTarget? = some target)
    (h : compiler.itemPredicate tenant joins item route = .ok (some e)) :
    ∃ (name : String) (t : Test), e = t.on (.ofTable (joins.nextAlias target) name) ∧
      ∀ (c : Collation) (db : Database) (plan : FilterPlan) (artist : Record), IsInstance c db →
        plan.scope.Shows c db plan.tenant artist →
        (((∃ row ∈ plan.targetRows c db artist target, t.outcome c (row name) = .bool true) ∨
            (plan.targetRows c db artist target = 0 ∧ t.outcome c .null = .bool true)) ↔
          compiler.Meets c item db plan.tenant plan.scope.isArchived artist route) := by
  cases route with
  | artist column => simp [Route.joinTarget?] at htarget
  | tags type => simp [Route.joinTarget?] at htarget
  | users => simp [Route.joinTarget?] at htarget
  | statistic typeId metric =>
    obtain rfl : JoinTarget.statistic typeId = target := by simpa [Route.joinTarget?] using htarget
    obtain ⟨t, rfl, hpasses⟩ := (compiler.statisticPredicate_testsColumn item metric).exists_test h
    refine ⟨metric.column, t, rfl, fun c db plan artist hdb _ => ?_⟩
    simp only [Meets, hpasses, FilterPlan.targetRows]
    exact exists_left_join_iff (hdb.statistic_card_le_one _ _) metric.column
      fun v => t.outcome c v = .bool true
  | evaluation column =>
    obtain rfl : JoinTarget.evaluation = target := by simpa [Route.joinTarget?] using htarget
    obtain ⟨t, rfl, hpasses⟩ := (compiler.columnPredicate_testsColumn item column).exists_test h
    refine ⟨column.name, t, rfl, fun c db plan artist hdb _ => ?_⟩
    simp only [Meets, hpasses, FilterPlan.targetRows]
    exact exists_left_join_iff (hdb.evaluation_isUnique _) column.name
      fun v => t.outcome c v = .bool true
  | membership column =>
    obtain rfl : JoinTarget.membership = target := by simpa [Route.joinTarget?] using htarget
    obtain ⟨t, rfl, hpasses⟩ := (compiler.columnPredicate_testsColumn item column).exists_test h
    refine ⟨column.name, t, rfl, fun c db plan artist _ hshows => ?_⟩
    simp [Meets, hpasses, FilterPlan.targetRows, membershipRows_ne_zero hshows]
  | attribution column =>
    obtain rfl : JoinTarget.membership = target := by simpa [Route.joinTarget?] using htarget
    obtain ⟨t, rfl, hpasses⟩ := (compiler.attributionPredicate_testsColumn item column).exists_test h
    refine ⟨column.name, t, rfl, fun c db plan artist _ hshows => ?_⟩
    simp [Meets, hpasses, FilterPlan.targetRows, membershipRows_ne_zero hshows]

private theorem semiJoin_readsOnly {table aliasName : String} {condition : Expr} {inner : Option Test}
    {column : String} (negated : Bool) (hcondition : condition.ReadsOnly [aliasName]) :
    (Expr.inQuery artistId (Sql.columnQuery table aliasName "artist_id" false
      (andInner condition (inner.map (Test.on (.ofTable aliasName column))))) negated).ReadsOnly
        [Schema.artists.name] :=
  (artistId_readsOnly (by simp)).inQuery negated (Sql.columnQuery_isClosed _ _ _ _
    (andInner_test_readsOnly inner hcondition (.ofTable column (by simp))))

/-- A test that the artist's id is among those of the related rows looks for one of them. -/
theorem semiJoin_holds {c : Collation} {db : Database} {group : Multiset Env} {env : Env}
    {table aliasName : String} {condition : Expr} {inner : Option Test} {column : String}
    {artist : Record} {rows : Multiset Record} (negated : Bool)
    (hcondition : condition.ReadsOnly [aliasName])
    (hartist : env.lookup Schema.artists.name = some artist) (hid : artist "id" ≠ .null)
    (hrequired : ∀ row ∈ db table, row "artist_id" ≠ .null)
    (hrows : ∀ row, row ∈ rows ↔ row ∈ db table ∧ c.Same (row "artist_id") (artist "id") ∧
      condition.Holds c db 0 [(aliasName, row)]) :
    (Expr.inQuery artistId (Sql.columnQuery table aliasName "artist_id" false
      (andInner condition (inner.map (Test.on (.ofTable aliasName column))))) negated).Holds
        c db group env ↔
      let found := ∃ row ∈ rows, ∀ t ∈ inner, t.outcome c (row column) = .bool true
      if negated then ¬ found else found := by
  have hreads := andInner_test_readsOnly inner hcondition (.ofTable column (List.mem_singleton_self _))
  have hmem := Sql.mem_columnQuery c db table aliasName "artist_id" false hreads env
  have hinner : ∀ row, (∀ i ∈ inner.map (Test.on (.ofTable aliasName column)),
      i.Holds c db 0 [(aliasName, row)]) ↔ ∀ t ∈ inner, t.outcome c (row column) = .bool true := by
    intro row
    cases inner <;> simp [Expr.Holds, Test.value_on, Sql.readColumn]
  have hfound : (∃ r ∈ Sql.queryResults c db (Sql.columnQuery table aliasName "artist_id" false
      (andInner condition (inner.map (Test.on (.ofTable aliasName column))))) env,
        c.Same (artist "id") (r.values.headD .null)) ↔
      ∃ row ∈ rows, ∀ t ∈ inner, t.outcome c (row column) = .bool true := by
    simp only [hmem, andInner_holds, hinner, hrows]
    constructor
    · rintro ⟨_, ⟨row, hrow, ⟨hholds, htest⟩, rfl⟩, hsame⟩
      exact ⟨row, ⟨hrow, hsame.symm, hholds⟩, htest⟩
    · rintro ⟨row, ⟨hrow, hsame, hholds⟩, htest⟩
      exact ⟨_, ⟨row, hrow, ⟨hholds, htest⟩, rfl⟩, hsame.symm⟩
  cases negated with
  | false => rw [Expr.holds_inQuery, artistId_value hartist, hfound]; simp
  | true =>
    rw [Expr.holds_notInQuery _ _ (by rwa [artistId_value hartist]), artistId_value hartist, hfound]
    · simp
    · intro r hr
      obtain ⟨row, hrow, _, rfl⟩ := (hmem r).mp hr
      simpa using hrequired row hrow

/-- The condition of a route without a join reads the artist alone, and is true of it exactly if it
meets the item. -/
theorem itemPredicate_direct {tenant : String} {joins : JoinSet} {item : FilterItem} {route : Route}
    {e : Expr} (htarget : route.joinTarget? = none)
    (h : compiler.itemPredicate tenant joins item route = .ok (some e)) :
    e.ReadsOnly [Schema.artists.name] ∧
      ∀ (c : Collation) (db : Database) (group : Multiset Env) (env : Env) (archived : Bool)
        (artist : Record), IsInstance c db → artist "id" ≠ .null →
        env.lookup Schema.artists.name = some artist →
        (e.Holds c db group env ↔ compiler.Meets c item db tenant archived artist route) := by
  cases route with
  | statistic typeId metric => simp [Route.joinTarget?] at htarget
  | evaluation column => simp [Route.joinTarget?] at htarget
  | membership column => simp [Route.joinTarget?] at htarget
  | attribution column => simp [Route.joinTarget?] at htarget
  | artist column =>
    obtain ⟨t, rfl, hpasses⟩ := (compiler.columnPredicate_testsColumn item column).exists_test h
    refine ⟨t.on_readsOnly (.ofTable _ (by simp)), ?_⟩
    intro c db group env archived artist _ _ hartist
    simp [Meets, hpasses, Expr.Holds, Test.value_on, Sql.readColumn, hartist]
  | tags type =>
    obtain ⟨op, inner, rfl, hpasses⟩ := compiler.relationPredicate_some h
    rw [tagQuery_eq]
    refine ⟨semiJoin_readsOnly _ (tagCondition_readsOnly tenant type), ?_⟩
    intro c db group env archived artist hdb hid hartist
    rw [Meets, hpasses]
    refine semiJoin_holds _ (tagCondition_readsOnly tenant type) hartist hid
      (fun row hrow => hdb.tag_artist_ne_null hrow) fun row => ?_
    simp [tagRows, tagCondition_holds]
  | users =>
    obtain ⟨op, inner, rfl, hpasses⟩ := compiler.relationPredicate_some h
    rw [userQuery_eq]
    refine ⟨semiJoin_readsOnly _ (userCondition_readsOnly tenant), ?_⟩
    intro c db group env archived artist hdb hid hartist
    rw [Meets, hpasses]
    refine semiJoin_holds _ (userCondition_readsOnly tenant) hartist hid
      (fun row hrow => hdb.user_artist_ne_null hrow) fun row => ?_
    simp [userRows, userCondition_holds]

end Compiler

end TenantGrid
