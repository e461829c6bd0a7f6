import TenantGrid.Proofs.Plan.Selection
import TenantGrid.Proofs.Sql.Plain
/-!
# Results of a plan

The rows that the queries of a plan keep, and the ids that they select: those of the artists that
the plan selects, each once.
-/
namespace TenantGrid

open Sql (Collation Database Env Expr Query Record Selected Value)

namespace FilterPlan

variable (c : Collation) (db : Database)

/-- The rows that a query of the plan keeps of those that some joins make of the artists. -/
def keptRows (plan : FilterPlan) (joins : JoinSet) : Multiset Env :=
  ((db Schema.artists.name).bind (plan.rowsOf c db joins)).filter fun env =>
    plan.condition.value c db {env} env = .bool true

/-- The ids of these rows. -/
def keptIds (plan : FilterPlan) (joins : JoinSet) : Multiset Value :=
  (plan.keptRows c db joins).map fun env => artistId.value c db {env} env

variable {c db} {plan : FilterPlan}

theorem mem_keptRows (joins : JoinSet) (env : Env) :
    env ∈ plan.keptRows c db joins ↔ ∃ artist ∈ db Schema.artists.name,
      env ∈ plan.rowsOf c db joins artist ∧ plan.condition.Holds c db {env} env := by
  simp only [keptRows, Multiset.mem_filter, Multiset.mem_bind, Expr.Holds]
  constructor
  · rintro ⟨⟨artist, hartist, henv⟩, hholds⟩
    exact ⟨artist, hartist, henv, hholds⟩
  · rintro ⟨artist, hartist, henv, hholds⟩
    exact ⟨⟨artist, hartist, henv⟩, hholds⟩

private theorem joinedRows_artists (joins : JoinSet) :
    Sql.joinedRows c db (joins.map plan.leftJoin) []
        (Sql.sourceRows db (some { table := Schema.artists.name })) =
      (db Schema.artists.name).bind (plan.rowsOf c db joins) := by
  rw [Sql.joinedRows_eq_bind, Sql.sourceRows, Multiset.bind_map]
  rfl

/-- The rows kept by a query of the plan that reads no further rows. -/
theorem keptRows_eq (joins : JoinSet) :
    ((Sql.joinedRows c db (joins.map plan.leftJoin) []
        (Sql.sourceRows db (some { table := Schema.artists.name }))).map (· ++ [])).filter
        (fun env => Sql.meets c db (some plan.condition) env) =
      plan.keptRows c db joins := by
  simp only [joinedRows_artists, List.append_nil, Multiset.map_id', Sql.meets, keptRows,
    decide_eq_true_eq]

private theorem rowsOf_outer (joins : JoinSet) (artist : Record) (outer : Env) :
    Sql.joinedRows c db (joins.map plan.leftJoin) outer {[(Schema.artists.name, artist)]} =
      plan.rowsOf c db joins artist := by
  refine Sql.joinedRows_outer [Schema.artists.name] (fun j hj => ?_) (by simp)
  obtain ⟨joined, _, rfl⟩ := List.mem_map.mp hj
  refine (plan.joinCondition_readsOnly joined).mono fun name hname => ?_
  simp only [List.mem_cons, List.not_mem_nil, or_false] at hname
  simpa [leftJoin, Sql.TableRef.referenceName] using hname.symm

private theorem keptRows_outer (hplan : plan.IsScoped) (outer : Env) :
    ((Sql.joinedRows c db (plan.joins.map plan.leftJoin) outer
        (Sql.sourceRows db (some { table := Schema.artists.name }))).map (· ++ outer)).filter
        (fun env => Sql.meets c db (some plan.condition) env) =
      (plan.keptRows c db plan.joins).map (· ++ outer) := by
  have hrows : Sql.joinedRows c db (plan.joins.map plan.leftJoin) outer
      (Sql.sourceRows db (some { table := Schema.artists.name })) =
      (db Schema.artists.name).bind (plan.rowsOf c db plan.joins) := by
    rw [Sql.joinedRows_eq_bind, Sql.sourceRows, Multiset.bind_map]
    exact Multiset.bind_congr fun artist _ => rowsOf_outer plan.joins artist outer
  rw [hrows, Multiset.filter_map]
  refine congrArg _ (Multiset.filter_congr fun env henv => ?_)
  obtain ⟨artist, _, henv⟩ := Multiset.mem_bind.mp henv
  have hcondition := condition_holds_append hplan henv {env ++ outer} outer
  simpa [Sql.meets, Expr.Holds] using hcondition

/-- The ids that a query of the plan selects, each once. -/
theorem idQuery_results (hplan : plan.IsScoped) (outer : Env) :
    Sql.queryResults c db plan.idQuery outer =
      (plan.keptIds c db plan.joins).dedup.map fun id => (⟨[id], []⟩ : Selected) := by
  have hid : ∀ env ∈ plan.keptRows c db plan.joins, ∀ group,
      artistId.value c db group (env ++ outer) = artistId.value c db {env} env := by
    intro env henv group
    obtain ⟨artist, _, henv, _⟩ := (mem_keptRows plan.joins env).mp henv
    have hlookup := rowsOf_lookup_artist henv
    have hlookup' : (env ++ outer).lookup Schema.artists.name = some artist := by
      simp [List.lookup_append, hlookup]
    rw [artistId_value hlookup, artistId_value hlookup']
  have hselected : Function.Injective fun id : Value => (⟨[id], []⟩ : Selected) := by
    intro id id' heq
    simpa using heq
  have haggregate : artistId.hasAggregate = false := rfl
  simp only [idQuery, baseQuery, Query.filtered, Query.onlyDistinct, Expr.conjoin, Sql.queryResults,
    List.isEmpty_nil, if_true, List.any_cons, List.any_nil, Bool.or_false, Sql.itemValues,
    Sql.keyValues, haggregate, Bool.false_eq_true, if_false]
  rw [← Multiset.dedup_map_of_injective hselected, keptIds]
  refine congrArg Multiset.dedup ((congrArg _ (keptRows_outer hplan outer)).trans ?_)
  rw [Multiset.map_map, Multiset.map_map]
  exact Multiset.map_congr rfl fun env henv => by simp [hid env henv]

private theorem exists_kept_iff (hplan : plan.IsScoped) (more : JoinSet) (artist : Record) :
    (∃ env ∈ plan.rowsOf c db (plan.joins ++ more) artist, plan.condition.Holds c db {env} env) ↔
      plan.Selects c db artist := by
  have hrows : ∀ env, env ∈ plan.rowsOf c db (plan.joins ++ more) artist ↔
      ∃ row ∈ plan.rowsOf c db plan.joins artist,
        env ∈ Sql.joinedRows c db (more.map plan.leftJoin) [] {row} := by
    intro env
    rw [rowsOf, List.map_append, Sql.joinedRows_append, Sql.mem_joinedRows]
    rfl
  simp only [hrows, Selects]
  -- Left joins fan out the rows of an artist, but neither find a row nor lose one.
  constructor
  · rintro ⟨_, ⟨row, hrow, henv⟩, hholds⟩
    obtain ⟨added, rfl, _⟩ := Sql.joinedRows_extends henv
    exact ⟨row, hrow, (condition_holds_append hplan hrow _ _).mp hholds⟩
  · rintro ⟨row, hrow, hholds⟩
    have hleft : ∀ j ∈ more.map plan.leftJoin, j.kind = .left := by
      intro j hj
      obtain ⟨joined, _, rfl⟩ := List.mem_map.mp hj
      rfl
    obtain ⟨env, henv⟩ : ∃ env, env ∈ Sql.joinedRows c db (more.map plan.leftJoin) [] {row} :=
      Sql.exists_mem_joinedRows hleft row
    obtain ⟨added, rfl, _⟩ := Sql.joinedRows_extends henv
    exact ⟨_, ⟨row, hrow, henv⟩, (condition_holds_append hplan hrow _ _).mpr hholds⟩

private theorem mem_keptIds_append (hplan : plan.IsScoped) (more : JoinSet) (id : Value) :
    id ∈ plan.keptIds c db (plan.joins ++ more) ↔ ∃ artist ∈ db Schema.artists.name,
      plan.Selects c db artist ∧ id = artist "id" := by
  simp only [keptIds, Multiset.mem_map, mem_keptRows, ← exists_kept_iff hplan more]
  constructor
  · rintro ⟨env, ⟨artist, hartist, henv, hholds⟩, rfl⟩
    exact ⟨artist, hartist, ⟨env, henv, hholds⟩, by rw [artistId_value (rowsOf_lookup_artist henv)]⟩
  · rintro ⟨artist, hartist, ⟨env, henv, hholds⟩, rfl⟩
    exact ⟨env, ⟨artist, hartist, henv, hholds⟩, by rw [artistId_value (rowsOf_lookup_artist henv)]⟩

theorem mem_keptIds (hplan : plan.IsScoped) (id : Value) :
    id ∈ plan.keptIds c db plan.joins ↔ ∃ artist ∈ db Schema.artists.name,
      plan.Selects c db artist ∧ id = artist "id" := by
  simpa using mem_keptIds_append hplan [] id

theorem keptIds_dedup_append (hplan : plan.IsScoped) (more : JoinSet) :
    (plan.keptIds c db (plan.joins ++ more)).dedup = (plan.keptIds c db plan.joins).dedup := by
  rw [Multiset.dedup_ext]
  intro id
  rw [mem_keptIds_append hplan more, mem_keptIds hplan]

end FilterPlan

namespace Compiler

variable {compiler : Compiler} {c : Collation} {db : Database} {tenant : String} {scope : Scope}
  {items : List FilterItem} {plan : FilterPlan}

/-- A compiled filter means what its items say: without a sort its ids are, each once, those of the
artists that the tenant has in the scope's state and that meet, read directly, every item that put a
condition. -/
theorem idsQuery_answers (hplan : compiler.planWithin tenant scope items = .ok plan)
    (hdb : IsInstance c db) :
    ∃ query, compiler.idsQuery plan [] = .ok query ∧ (∃ answer, query.IsAnswer c db answer) ∧
      ∀ answer, query.IsAnswer c db answer → answer.Nodup ∧ ∀ row, row ∈ answer ↔
        ∃ artist ∈ db Schema.artists.name, row = [artist "id"] ∧ scope.Shows c db tenant artist ∧
          ∀ item ∈ items, ∀ route, compiler.catalog.route item.field = .ok route →
            compiler.Contributes item tenant route →
            compiler.Meets c item db tenant scope.isArchived artist route := by
  have hscoped := planWithin_isScoped hplan
  refine ⟨plan.idQuery, rfl, plan.idQuery.exists_isAnswer c db, fun answer hanswer => ?_⟩
  have hvalues := (Query.isAnswer_unordered c db rfl rfl answer).mp hanswer
  rw [Query.results, FilterPlan.idQuery_results hscoped, Multiset.map_map] at hvalues
  constructor
  · rw [← Multiset.coe_nodup, hvalues]
    refine Multiset.Nodup.map (fun id id' heq => ?_) (Multiset.nodup_dedup _)
    simpa using heq
  · intro row
    rw [← Multiset.mem_coe, hvalues, Multiset.mem_map]
    simp only [Multiset.mem_dedup, FilterPlan.mem_keptIds hscoped, planWithin_selects hplan hdb,
      Function.comp_apply]
    constructor
    · rintro ⟨_, ⟨artist, hartist, hselects, rfl⟩, rfl⟩
      exact ⟨artist, hartist, rfl, hselects⟩
    · rintro ⟨artist, hartist, rfl, hselects⟩
      exact ⟨_, ⟨artist, hartist, hselects, rfl⟩, rfl⟩

/-- A compiler that knows one statistic, for small requests. -/
def sample : Compiler where
  catalog := { statisticTypes := [⟨7, "spotify", "followers", "Followers", "number", none⟩] }

/-- Items on a joined column, a statistic and a relation. -/
def sampleItems : List FilterItem :=
  [⟨"organization.favorite", "equals", .bool true⟩, ⟨"statistic.7-latest", ">", .ofInt 5⟩,
    ⟨"tags.user", "isEmpty", .null⟩]

/-- Of nine artists the items select six, one of them by two membership rows. The others are muted, have a
tag of a user or belong to another organization. -/
theorem idsQuery_answers_sample :
    let db := listedRows sampleRoster
    ∃ plan, sample.planWithin "t" .standard sampleItems = .ok plan ∧
      IsInstance .plain db ∧ ∃ query, sample.idsQuery plan [] = .ok query ∧
        (∃ answer, query.IsAnswer .plain db answer) ∧
        ∀ answer, query.IsAnswer .plain db answer → answer.Nodup ∧
          (∀ row, row ∈ answer ↔ ∃ artist ∈ db Schema.artists.name,
            row = [artist "id"] ∧ Scope.standard.Shows .plain db "t" artist ∧
              ∀ item ∈ sampleItems, ∀ route, sample.catalog.route item.field = .ok route →
                sample.Contributes item "t" route →
                sample.Meets .plain item db "t" false artist route) ∧
          answer.Perm (["a", "b", "c", "d", "e", "f"].map fun id => [.text id]) := by
  intro db
  obtain ⟨plan, hplan, hresults⟩ : ∃ plan, sample.planWithin "t" .standard sampleItems = .ok plan ∧
      (plan.idQuery.results .plain db).map Selected.values =
        (["a", "b", "c", "d", "e", "f"].map fun id => [Value.text id] : List _) :=
    ⟨_, rfl, by decide +kernel⟩
  have hdb : IsInstance .plain db := sampleRoster_isInstance
  obtain ⟨query, hquery, hanswered, hanswers⟩ := idsQuery_answers hplan hdb
  refine ⟨plan, hplan, hdb, query, hquery, hanswered, fun answer hanswer => ?_⟩
  obtain ⟨hnodup, hmem⟩ := hanswers answer hanswer
  refine ⟨hnodup, hmem, Multiset.coe_eq_coe.mp ?_⟩
  obtain rfl : plan.idQuery = query := Except.ok.inj hquery
  rw [(Query.isAnswer_unordered .plain db rfl rfl answer).mp hanswer, hresults]

end Compiler

end TenantGrid
