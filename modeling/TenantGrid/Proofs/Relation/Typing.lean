import TenantGrid.Proofs.Plan.Results
import TenantGrid.Proofs.Plan.Typing
import TenantGrid.Relation.Basic
/-!
# Relations are loaded by well-typed queries

The queries that load relations are fixed but for a tenant and a list of ids. With them, every
statement that the service sends is well-typed.
-/
namespace TenantGrid

open Sql (Expr Level OrderKey Query TableRef Value)

namespace Relation

variable {level : Level}

private theorem among_isWellTyped {table : Option String} {name : String} {column : Column}
    (h : level.column? table name = some column) (huuid : column.type = .uuid) (ids : List Uuid) :
    (among (.column table name) ids).IsWellTyped level := by
  have hvalues : ids.map (fun id => Expr.param (.uuid id)) =
      (ids.map Value.uuid).map Expr.param := by
    simp [Function.comp_def]
  unfold among
  rw [hvalues]
  apply Expr.IsWellTyped.amongParams h
  intro value hvalue
  obtain ⟨id, _, rfl⟩ := List.mem_map.mp hvalue
  rw [huuid]
  trivial

private theorem selectColumns_wellTyped {table : String} {names : List String}
    (h : ∀ name ∈ names, (level.column? (some table) name).isSome) :
    Sql.itemsWellTyped level (Sql.selectColumns table names) := by
  apply Sql.itemsWellTyped_iff.mpr
  intro item hitem
  obtain ⟨name, hname, rfl⟩ := List.mem_map.mp hitem
  exact h name hname

private theorem tableQuery_isWellTyped (table : String) (names : List String)
    {keys : List (OrderKey Expr)} {condition : Expr} (htable : (Schema.table? table).isSome)
    (hnames : ∀ name ∈ names, (Level.column? { tables := [{ table }] } (some table) name).isSome)
    (hkeys : Sql.keysWellTyped { tables := [{ table }] } keys)
    (hcondition : condition.IsWellTyped { tables := [{ table }] }) :
    Query.IsWellTyped
      { select := Sql.selectColumns table names
        source := some { table }
        filter := some condition
        orderBy := keys } := by
  refine ⟨?_, by simp, trivial, selectColumns_wellTyped hnames, hcondition, trivial, hkeys,
    fun h => absurd rfl h⟩
  intro ref href
  have href := List.mem_singleton.mp href
  rw [href]
  exact htable

private theorem currentEvaluationQuery_isWellTyped (ids : List Uuid) :
    (currentEvaluationQuery ids).IsWellTyped := by
  let evaluation : TableRef := { table := Schema.evaluations.name, aliasName := some currentAlias }
  change Sql.queryWellTyped
    ⟨{ expr := artistId } :: Sql.selectColumns currentAlias evaluationColumns, false,
      some { table := Schema.artists.name },
      [⟨.inner, evaluation, (Expr.ofTable currentAlias "id").eq
        (.ofTable Schema.artists.name "evaluation_id")⟩],
      some (among artistId ids), [], [], none⟩
  refine ⟨by decide, by decide, ⟨?_, trivial⟩, ⟨rfl, selectColumns_wellTyped (by decide)⟩, ?_, trivial,
    trivial, fun h => absurd rfl h⟩
  · exact .compareColumn .eq rfl rfl
  · exact among_isWellTyped rfl rfl ids

private theorem linksQuery_isWellTyped (ids : List Uuid) : (linksQuery ids).IsWellTyped := by
  let link : TableRef := { table := Schema.artistLinks.name, aliasName := some linkAlias }
  let source : TableRef := { table := Schema.linkSources.name, aliasName := some sourceAlias }
  change Sql.queryWellTyped
    ⟨[{ expr := .ofTable linkAlias "artist_id" }, { expr := .ofTable linkAlias "link_source_id" },
        { expr := .ofTable sourceAlias "key" }, { expr := .ofTable sourceAlias "logo" },
        { expr := (Expr.ofTable sourceAlias "url").concat (.ofTable linkAlias "path"),
          aliasName := some "url" }], false, some link,
      [⟨.inner, source, (Expr.ofTable sourceAlias "id").eq (.ofTable linkAlias "link_source_id")⟩],
      some (among (.ofTable linkAlias "artist_id") ids), [], [ascending linkAlias "id"], none⟩
  refine ⟨by decide, by decide, ⟨?_, trivial⟩, ⟨rfl, rfl, rfl, rfl, ?_, trivial⟩, ?_, trivial,
    ⟨rfl, trivial⟩, fun h => absurd rfl h⟩
  · exact .compareColumn .eq rfl rfl
  · exact .compareColumn .concat rfl rfl
  · exact among_isWellTyped rfl rfl ids

private theorem query_isWellTyped (relation : Relation) (tenant : String) (ids : List Uuid) :
    (relation.query tenant ids).IsWellTyped := by
  cases relation with
  | artists =>
    refine tableQuery_isWellTyped Schema.artists.name artistColumns rfl (by decide) trivial ?_
    exact among_isWellTyped rfl (by rfl) ids
  | currentEvaluation => exact currentEvaluationQuery_isWellTyped ids
  | evaluationHistory =>
    refine tableQuery_isWellTyped Schema.evaluations.name ("artist_id" :: evaluationColumns) rfl
      (by decide) ⟨rfl, rfl, trivial⟩ ?_
    exact among_isWellTyped rfl (by rfl) ids
  | statistics =>
    refine tableQuery_isWellTyped Schema.statistics.name ("artist_id" :: statisticColumns) rfl
      (by decide) ⟨rfl, trivial⟩ ?_
    exact among_isWellTyped rfl (by rfl) ids
  | statisticWindows =>
    refine tableQuery_isWellTyped Schema.statistics.name
      ("artist_id" :: (statisticColumns ++ ["data"])) rfl (by decide) ⟨rfl, trivial⟩ ?_
    exact among_isWellTyped rfl (by rfl) ids
  | links => exact linksQuery_isWellTyped ids
  | tags =>
    refine tableQuery_isWellTyped Schema.tags.name ["artist_id", "tag", "tag_type_id"] rfl
      (by decide) ⟨rfl, rfl, trivial⟩ ?_
    apply Expr.IsWellTyped.and
    · exact among_isWellTyped rfl (by rfl) ids
    · exact visibleTo_isWellTyped rfl (by rfl) tenant
  | memberships =>
    refine tableQuery_isWellTyped Schema.memberships.name ("artist_id" :: membershipColumns) rfl
      (by decide) ⟨rfl, trivial⟩ ?_
    apply Expr.IsWellTyped.and
    · apply Expr.IsWellTyped.and
      · exact .compareParam .eq rfl (by trivial)
      · apply Expr.IsWellTyped.compareLiteral
        rfl
    · exact among_isWellTyped rfl (by rfl) ids
  | attributions =>
    refine tableQuery_isWellTyped Schema.userArtists.name ["artist_id", "user_id", "created_at"] rfl
      (by decide) ⟨rfl, rfl, trivial⟩ ?_
    apply Expr.IsWellTyped.and
    · exact .compareParam .eq rfl (by trivial)
    · exact among_isWellTyped rfl (by rfl) ids

end Relation

/-- Whatever is asked of the service, the statements that it sends are well-typed. -/
theorem statements_isWellTyped (compiler : Compiler) (tenant : String) :
    (∀ filter sort page mode compiled, compiler.compile tenant filter sort page mode = .ok compiled →
      compiled.query.IsWellTyped) ∧
    (∀ scope items plan, compiler.planWithin tenant scope items = .ok plan →
      (∀ sort page mode query, compiler.modeQuery plan sort page mode = .ok query →
        query.IsWellTyped) ∧
      plan.labelQuery.IsWellTyped ∧ ∀ change, (plan.membershipUpdate change).IsWellTyped) ∧
    (∀ id, (lookupQuery tenant id).IsWellTyped) ∧
    ∀ (relation : Relation) ids, (relation.query tenant ids).IsWellTyped := by
  refine ⟨?_, ?_, lookupQuery_isWellTyped tenant, fun relation => relation.query_isWellTyped tenant⟩
  · intro filter sort page mode compiled hcompiled
    obtain ⟨hplan, hquery, _⟩ := Compiler.compile_cases hcompiled
    exact Compiler.modeQuery_isWellTyped (Compiler.planWithin_hasForm hplan)
      (Compiler.planWithin_isScoped hplan) hquery
  · intro scope items plan hplan
    have hform := Compiler.planWithin_hasForm hplan
    have hscoped := Compiler.planWithin_isScoped hplan
    refine ⟨?_, FilterPlan.labelQuery_isWellTyped hform hscoped,
      FilterPlan.membershipUpdate_isWellTyped hform hscoped⟩
    intro sort page mode query hquery
    exact Compiler.modeQuery_isWellTyped hform hscoped hquery

theorem statements_isWellTyped_sample :
    (∃ compiled, Compiler.sample.compile "t" { items := Compiler.sampleItems }
      [⟨"evaluation.status", .desc⟩] ⟨0, 10⟩ .rows = .ok compiled ∧ compiled.query.IsWellTyped) ∧
    ∃ plan, Compiler.sample.planWithin "t" .archived Compiler.sampleItems = .ok plan ∧
      (plan.membershipUpdate .unarchive).IsWellTyped := by
  obtain ⟨compiled, hcompiled⟩ : ∃ compiled, Compiler.sample.compile "t"
      { items := Compiler.sampleItems } [⟨"evaluation.status", .desc⟩] ⟨0, 10⟩ .rows = .ok compiled :=
    ⟨_, rfl⟩
  obtain ⟨plan, hplan⟩ : ∃ plan,
      Compiler.sample.planWithin "t" .archived Compiler.sampleItems = .ok plan := ⟨_, rfl⟩
  obtain ⟨hcompile, hplans, _, _⟩ := statements_isWellTyped Compiler.sample "t"
  exact ⟨⟨compiled, hcompiled, hcompile _ _ _ _ _ hcompiled⟩, plan, hplan,
    (hplans _ _ _ hplan).2.2 .unarchive⟩

end TenantGrid
