import TenantGrid.Plan.Queries
import TenantGrid.Proofs.Plan.Invariant
import TenantGrid.Proofs.Sql.Answer
import TenantGrid.Proofs.Sql.Joins
/-!
# What a plan selects

The joins of a plan multiply the rows of an artist, and its condition is tested of each of them. As
every item reads the artist and its own join alone, an artist is selected exactly if the tenant has
it in the scope's state and it meets every item that put a condition.
-/
namespace TenantGrid

open Sql (Collation Database Env Expr Query Record Selected Value)

namespace FilterPlan

variable (c : Collation) (db : Database)

/-- The rows that some joins make of an artist. -/
def rowsOf (plan : FilterPlan) (joins : JoinSet) (artist : Record) : Multiset Env :=
  Sql.joinedRows c db (joins.map plan.leftJoin) [] {[(Schema.artists.name, artist)]}

/-- Whether the plan's condition is true of one of the rows that its joins make of an artist. -/
def Selects (plan : FilterPlan) (artist : Record) : Prop :=
  ∃ env ∈ plan.rowsOf c db plan.joins artist, plan.condition.Holds c db {env} env

variable {c db} {plan : FilterPlan}

private theorem rowsOf_extends {joins : JoinSet} {artist : Record} {env : Env}
    (h : env ∈ plan.rowsOf c db joins artist) :
    ∃ more, env = (Schema.artists.name, artist) :: more ∧
      more.map Prod.fst = joins.map JoinedTable.aliasName := by
  obtain ⟨more, rfl, hmore⟩ := Sql.joinedRows_extends h
  refine ⟨more, rfl, ?_⟩
  simpa [leftJoin, Sql.TableRef.referenceName, Function.comp_def] using hmore

theorem rowsOf_lookup_artist {joins : JoinSet} {artist : Record} {env : Env}
    (h : env ∈ plan.rowsOf c db joins artist) : env.lookup Schema.artists.name = some artist := by
  obtain ⟨more, rfl, _⟩ := rowsOf_extends h
  simp

private theorem mem_joinMatches {joined : JoinedTable} {artist record : Record} {env : Env}
    (hartist : env.lookup Schema.artists.name = some artist)
    (hfresh : joined.aliasName ∉ env.map Prod.fst) :
    record ∈ Sql.joinMatches c db (plan.leftJoin joined) [] env ↔
      record ∈ plan.targetRows c db artist joined.target ∨
        (plan.targetRows c db artist joined.target = 0 ∧ record = Sql.nullRecord) := by
  have hlookup : ∀ row : Record,
      (env ++ [(joined.aliasName, row)]).lookup joined.aliasName = some row ∧
      (env ++ [(joined.aliasName, row)]).lookup Schema.artists.name = some artist := by
    intro row
    have hnone := (Sql.lookup_eq_none_iff_notMem env _).mpr hfresh
    simp [List.lookup_append, hnone, hartist]
  have htarget : ∀ row : Record, row ∈ plan.targetRows c db artist joined.target ↔
      row ∈ db joined.target.table.name ∧ (plan.joinCondition joined).value c db
        {env ++ [(joined.aliasName, row)]} (env ++ [(joined.aliasName, row)]) = .bool true :=
    fun row => plan.mem_targetRows joined (hlookup row).2 (hlookup row).1
  unfold Sql.joinMatches
  simp only [Sql.mem_matchingRows, leftJoin, Sql.TableRef.referenceName, Option.getD_some,
    List.append_nil, decide_eq_true_eq, decide_eq_false_iff_not, true_and, ← htarget]
  refine or_congr_right ?_
  rw [and_comm]
  refine and_congr_left fun _ => ?_
  rw [Multiset.eq_zero_iff_forall_notMem]
  constructor
  · intro h row hrow
    exact h row ((htarget row).mp hrow).1 ((htarget row).mp hrow).2
  · intro h row hrow hholds
    exact h row ((htarget row).mpr ⟨hrow, hholds⟩)

private theorem selects_add_direct {after : FilterPlan} {artist : Record} {e : Expr} {p : Prop}
    (hafter : after = { plan with predicates := plan.predicates ++ [e] })
    (he : ∀ (group : Multiset Env) (env : Env), env.lookup Schema.artists.name = some artist →
      (e.Holds c db group env ↔ p)) :
    after.Selects c db artist ↔ plan.Selects c db artist ∧ p := by
  have hcondition : after.condition = plan.condition.and e := by
    simp [hafter, condition]
  have hrows : after.rowsOf c db after.joins artist = plan.rowsOf c db plan.joins artist := by
    rw [hafter]
    rfl
  simp only [Selects, hcondition, hrows, Expr.holds_and]
  constructor
  · rintro ⟨env, henv, hplan, hholds⟩
    exact ⟨⟨env, henv, hplan⟩, (he _ env (rowsOf_lookup_artist henv)).mp hholds⟩
  · rintro ⟨⟨env, henv, hplan⟩, hp⟩
    exact ⟨env, henv, hplan, (he _ env (rowsOf_lookup_artist henv)).mpr hp⟩

section Allocation

variable {artist : Record} {target : JoinTarget}

private theorem nextAlias_notMem (target : JoinTarget) (hplan : plan.IsScoped) {env : Env}
    (henv : env ∈ plan.rowsOf c db plan.joins artist) :
    plan.joins.nextAlias target ∉ env.map Prod.fst := by
  obtain ⟨more, rfl, hmore⟩ := rowsOf_extends henv
  intro hmem
  rcases List.mem_cons.mp hmem with heq | hmem
  · exact JoinSet.nextAlias_ne_artists _ _ heq
  · rw [hmore] at hmem
    obtain ⟨j, hj, heq⟩ := List.mem_map.mp hmem
    exact hplan.allocated.nextAlias_fresh target j hj heq

private theorem mem_rowsOf_allocate (env : Env) :
    env ∈ plan.rowsOf c db (plan.joins.allocate target) artist ↔
      ∃ row ∈ plan.rowsOf c db plan.joins artist,
        ∃ record ∈ Sql.joinMatches c db
            (plan.leftJoin ⟨target, plan.joins.nextAlias target⟩) [] row,
          env = row ++ [(plan.joins.nextAlias target, record)] := by
  unfold rowsOf
  rw [JoinSet.allocate, List.map_append, List.map_singleton, Sql.mem_joinedRows_concat]
  rfl

/-- A plan's condition is the same for a row and for what further joins make of it. -/
theorem condition_holds_append (hplan : plan.IsScoped) {env : Env}
    (henv : env ∈ plan.rowsOf c db plan.joins artist) (group : Multiset Env) (more : Env) :
    plan.condition.Holds c db group (env ++ more) ↔ plan.condition.Holds c db {env} env := by
  unfold Expr.Holds
  rw [hplan.condition_readsOnly.append c db group {env}]
  obtain ⟨rest, rfl, hrest⟩ := rowsOf_extends henv
  simp [names, hrest]

private theorem exists_joinMatches_iff (target : JoinTarget) (hplan : plan.IsScoped) {env : Env}
    (henv : env ∈ plan.rowsOf c db plan.joins artist) (p : Record → Prop) :
    (∃ record ∈ Sql.joinMatches c db (plan.leftJoin ⟨target, plan.joins.nextAlias target⟩) [] env,
        p record) ↔
      (∃ row ∈ plan.targetRows c db artist target, p row) ∨
        (plan.targetRows c db artist target = 0 ∧ p Sql.nullRecord) := by
  have hmem : ∀ record,
      record ∈ Sql.joinMatches c db (plan.leftJoin ⟨target, plan.joins.nextAlias target⟩) [] env ↔
        record ∈ plan.targetRows c db artist target ∨
          (plan.targetRows c db artist target = 0 ∧ record = Sql.nullRecord) :=
    fun _ => mem_joinMatches (rowsOf_lookup_artist henv) (nextAlias_notMem target hplan henv)
  simp only [hmem]
  constructor
  · rintro ⟨record, hrecord | ⟨hzero, rfl⟩, hp⟩
    · exact Or.inl ⟨record, hrecord, hp⟩
    · exact Or.inr ⟨hzero, hp⟩
  · rintro (⟨record, hrecord, hp⟩ | ⟨hzero, hp⟩)
    · exact ⟨record, Or.inl hrecord, hp⟩
    · exact ⟨Sql.nullRecord, Or.inr ⟨hzero, rfl⟩, hp⟩

private theorem selects_add_joined {after : FilterPlan} {name : String} {t : Test}
    (hplan : plan.IsScoped) (hafter : after = { plan with
      joins := plan.joins.allocate target
      predicates := plan.predicates ++ [t.on (.ofTable (plan.joins.nextAlias target) name)] }) :
    after.Selects c db artist ↔ plan.Selects c db artist ∧
      ((∃ row ∈ plan.targetRows c db artist target, t.outcome c (row name) = .bool true) ∨
        (plan.targetRows c db artist target = 0 ∧ t.outcome c .null = .bool true)) := by
  have hcondition : after.condition =
      plan.condition.and (t.on (.ofTable (plan.joins.nextAlias target) name)) := by
    simp [hafter, condition]
  have hrows : ∀ env, env ∈ after.rowsOf c db after.joins artist ↔
      env ∈ plan.rowsOf c db (plan.joins.allocate target) artist := by
    intro env
    rw [hafter]
    rfl
  have htest : ∀ env ∈ plan.rowsOf c db plan.joins artist, ∀ record group,
      ((t.on (.ofTable (plan.joins.nextAlias target) name)).Holds c db group
          (env ++ [(plan.joins.nextAlias target, record)]) ↔
        t.outcome c (record name) = .bool true) := by
    intro env henv record group
    have hnone := (Sql.lookup_eq_none_iff_notMem env _).mpr
      (nextAlias_notMem target hplan henv)
    simp [Expr.Holds, Test.value_on, Sql.readColumn, List.lookup_append, hnone]
  have hrecords := fun env (henv : env ∈ plan.rowsOf c db plan.joins artist) =>
    exists_joinMatches_iff target hplan henv
      fun record => t.outcome c (record name) = .bool true
  simp only [Selects, hcondition, hrows, mem_rowsOf_allocate, Expr.holds_and]
  constructor
  · rintro ⟨_, ⟨env, henv, record, hrecord, rfl⟩, hholds, hpassed⟩
    exact ⟨⟨env, henv, (condition_holds_append hplan henv _ _).mp hholds⟩,
      (hrecords env henv).mp ⟨record, hrecord, (htest env henv record _).mp hpassed⟩⟩
  · rintro ⟨⟨env, henv, hholds⟩, hp⟩
    obtain ⟨record, hrecord, hpassed⟩ := (hrecords env henv).mpr hp
    exact ⟨_, ⟨env, henv, record, hrecord, rfl⟩, (condition_holds_append hplan henv _ _).mpr hholds,
      (htest env henv record _).mpr hpassed⟩

end Allocation

/-- The artists that a plan selects are those the tenant has in the scope's state, at the least. -/
theorem shows_of_selects {artist : Record} (h : plan.Selects c db artist) :
    plan.scope.Shows c db plan.tenant artist := by
  obtain ⟨env, henv, hholds⟩ := h
  rw [condition, Expr.holds_foldl_and, tenantScope_holds (rowsOf_lookup_artist henv)] at hholds
  exact hholds.1

end FilterPlan

theorem Scope.Shows.id_ne_null {c : Collation} {db : Database} {tenant : String} {artist : Record}
    {scope : Scope} (h : scope.Shows c db tenant artist) : artist "id" ≠ .null := by
  obtain ⟨row, hrow, _⟩ := h
  exact (Multiset.mem_filter.mp hrow).2.1.2.1

namespace Compiler

variable {compiler : Compiler} {c : Collation} {db : Database}

private theorem TestsColumn.exists_some_iff {name : String} {passes : Collation → Value → Prop}
    {put : String → Except RequestError (Option Expr)} (h : TestsColumn name passes put)
    (table table' : String) :
    (∃ e, put table = .ok (some e)) ↔ ∃ e, put table' = .ok (some e) := by
  obtain ⟨r, hput, _⟩ := h
  rw [hput, hput]
  rcases r with err | _ | t <;> simp [Except.map]

/-- Whether an item puts a condition does not depend on the joins before it. -/
theorem contributes_iff (item : FilterItem) (tenant : String) (joins : JoinSet) (route : Route) :
    compiler.Contributes item tenant route ↔
      ∃ e, compiler.itemPredicate tenant joins item route = .ok (some e) := by
  cases route with
  | artist column => rfl
  | tags type => rfl
  | users => rfl
  | statistic typeId metric =>
    exact (compiler.statisticPredicate_testsColumn item metric).exists_some_iff _ _
  | evaluation column => exact (compiler.columnPredicate_testsColumn item column).exists_some_iff _ _
  | membership column => exact (compiler.columnPredicate_testsColumn item column).exists_some_iff _ _
  | attribution column =>
    exact (compiler.attributionPredicate_testsColumn item column).exists_some_iff _ _

private theorem addItem_selects {plan after : FilterPlan} {item : FilterItem} {artist : Record}
    (hdb : IsInstance c db) (hplan : plan.IsScoped)
    (hshows : plan.scope.Shows c db plan.tenant artist)
    (h : compiler.addItem plan item = .ok after) :
    after.Selects c db artist ↔ plan.Selects c db artist ∧
      ∀ route, compiler.catalog.route item.field = .ok route →
        compiler.Contributes item plan.tenant route →
        compiler.Meets c item db plan.tenant plan.scope.isArchived artist route := by
  obtain ⟨route, hroute, ⟨hnone, rfl⟩ | ⟨e, he, hafter⟩⟩ := addItem_cases h
  · simp [hroute, contributes_iff item _ after.joins, hnone]
  have hmeets : (∀ r, compiler.catalog.route item.field = .ok r →
      compiler.Contributes item plan.tenant r →
      compiler.Meets c item db plan.tenant plan.scope.isArchived artist r) ↔
      compiler.Meets c item db plan.tenant plan.scope.isArchived artist route := by
    simp [hroute, contributes_iff item _ plan.joins, he]
  rw [hmeets]
  cases htarget : route.joinTarget? with
  | none =>
    obtain ⟨_, hholds⟩ := compiler.itemPredicate_direct htarget he
    refine FilterPlan.selects_add_direct (e := e) (by simpa [htarget, joinsAfter] using hafter) ?_
    intro group env hartist
    exact hholds c db group env plan.scope.isArchived artist hdb hshows.id_ne_null hartist
  | some target =>
    obtain ⟨name, t, rfl, hholds⟩ := compiler.itemPredicate_joined htarget he
    rw [← hholds c db plan artist hdb hshows]
    exact FilterPlan.selects_add_joined hplan (by simpa [htarget, joinsAfter] using hafter)

/-- A plan selects the artists that its tenant has in the scope's state and that meet every item that
put a condition. -/
theorem planWithin_selects {tenant : String} {scope : Scope} {items : List FilterItem}
    {plan : FilterPlan} (h : compiler.planWithin tenant scope items = .ok plan)
    (hdb : IsInstance c db) (artist : Record) :
    plan.Selects c db artist ↔ scope.Shows c db tenant artist ∧
      ∀ item ∈ items, ∀ route, compiler.catalog.route item.field = .ok route →
        compiler.Contributes item tenant route →
        compiler.Meets c item db tenant scope.isArchived artist route := by
  by_cases hshows : scope.Shows c db tenant artist
  · simp only [hshows, true_and]
    refine (foldlM_induction (motive := fun done plan =>
      (plan.IsScoped ∧ plan.tenant = tenant ∧ plan.scope = scope) ∧
        (plan.Selects c db artist ↔ ∀ item ∈ done, ∀ route,
          compiler.catalog.route item.field = .ok route → compiler.Contributes item tenant route →
          compiler.Meets c item db tenant scope.isArchived artist route)) ?_ ?_ h).2
    · refine ⟨⟨⟨.start, by simp⟩, rfl, rfl⟩, ?_⟩
      simp [FilterPlan.Selects, FilterPlan.rowsOf, Sql.joinedRows, FilterPlan.condition,
        tenantScope_holds, hshows]
    · rintro done item before after ⟨⟨hscoped, htenant, hscope⟩, hselects⟩ hstep
      have hrequest := addItem_request hstep
      refine ⟨⟨addItem_isScoped hscoped hstep, hrequest.1.trans htenant, hrequest.2.trans hscope⟩, ?_⟩
      rw [addItem_selects hdb hscoped (by rwa [htenant, hscope]) hstep, hselects, htenant, hscope]
      simp only [List.mem_append, List.mem_singleton, or_imp, forall_and, forall_eq]
  · simp only [hshows, false_and, iff_false]
    intro hselects
    obtain ⟨htenant, hscope⟩ := planWithin_request h
    have hshown := FilterPlan.shows_of_selects hselects
    rw [htenant, hscope] at hshown
    exact hshows hshown

end Compiler

end TenantGrid
