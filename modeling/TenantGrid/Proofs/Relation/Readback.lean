import TenantGrid.Proofs.Plan.Readback
import TenantGrid.Proofs.Plan.Results
/-!
# Statements are read back

Tokens say all of a statement: reading them by clauses and precedence gives the query or update that
they were written from, whatever is asked of the service.
-/
namespace TenantGrid

open Sql (Expr OrderKey Query SelectItem TableRef Update)

namespace Relation

variable {ids : List Uuid}

private theorem among_isReadable {column : Expr} (hcolumn : column.IsReadableAt 6)
    (hids : ids ≠ []) : (among column ids).IsReadableAt 4 := by
  apply (hcolumn.mono (by decide)).inList
  · simpa using hids
  · intro value hvalue
    obtain ⟨id, _, rfl⟩ := List.mem_map.mp hvalue
    exact (Expr.IsReadableAt.param _).1

private theorem rowsQuery_isReadable {select : List (SelectItem Expr)} (hne : select ≠ [])
    (hselect : ∀ item ∈ select, item.expr.IsReadable) (source : TableRef)
    {joins : List (Sql.Join Expr)} (hjoins : ∀ join ∈ joins, join.condition.IsReadable)
    {condition : Expr} (hcondition : condition.IsReadable) {keys : List (OrderKey Expr)}
    (hkeys : ∀ key ∈ keys, key.expr.IsReadable) :
    Query.IsReadable
      { select, source := some source, joins, filter := some condition, orderBy := keys } where
  select_ne_nil := hne
  select := hselect
  joins := hjoins
  filter := by simpa using hcondition
  groupBy := by simp
  orderBy := hkeys
  window := by simp

private theorem selectColumns_isReadable (table : String) (names : List String) :
    ∀ item ∈ Sql.selectColumns table names, item.expr.IsReadable := by
  intro item hitem
  obtain ⟨name, _, rfl⟩ := List.mem_map.mp hitem
  exact (Expr.IsReadableAt.column _ _).1

private theorem keyedQuery_isReadable (table : String) (names : List String) {condition : Expr}
    (hcondition : condition.IsReadable) {keys : List (OrderKey Expr)}
    (hkeys : ∀ key ∈ keys, key.expr.IsReadable) :
    Query.IsReadable
      { select := keyed table names
        source := some { table }
        filter := some condition
        orderBy := keys } :=
  rowsQuery_isReadable (by simp [Sql.selectColumns]) (selectColumns_isReadable table _) _
    (by simp) hcondition hkeys

private theorem query_isReadable (relation : Relation) (tenant : String) (hids : ids ≠ []) :
    (relation.query tenant ids).IsReadable := by
  have hcolumn : ∀ table name, (Expr.ofTable table name).IsReadable :=
    fun table name => (Expr.IsReadableAt.column (some table) name).1
  have hamong : ∀ table name, (among (.ofTable table name) ids).IsReadableAt 4 :=
    fun table name => among_isReadable (.column _ _) hids
  have htenant : ∀ table, ((Expr.ofTable table "organization_id").eq
      (.param (.text tenant))).IsReadableAt 4 := fun _ => .eq (.column _ _) (.param _)
  cases relation with
  | artists =>
    exact rowsQuery_isReadable (by simp [Sql.selectColumns, artistColumns])
      (selectColumns_isReadable _ _) _ (by simp) (hamong _ _).1 (by simp)
  | currentEvaluation =>
    have hevaluation := Expr.IsReadableAt.eq (.column (some currentAlias) "id")
      (artistColumn_isReadable "evaluation_id")
    refine rowsQuery_isReadable (List.cons_ne_nil _ _) ?_ _ ?_ (hamong _ _).1
      (by simp [Query.innerJoined, Query.joined])
    · exact List.forall_mem_cons.mpr ⟨artistId_isReadable.1, selectColumns_isReadable _ _⟩
    · exact List.forall_mem_singleton.mpr hevaluation.1
  | evaluationHistory =>
    exact keyedQuery_isReadable _ _ (hamong _ _).1 (by simp [descending, hcolumn])
  | statistics => exact keyedQuery_isReadable _ _ (hamong _ _).1 (by simp [ascending, hcolumn])
  | statisticWindows => exact keyedQuery_isReadable _ _ (hamong _ _).1 (by simp [ascending, hcolumn])
  | links =>
    have hsource := Expr.IsReadableAt.eq (.column (some sourceAlias) "id")
      (.column (some linkAlias) "link_source_id")
    have haddress : ((Expr.ofTable sourceAlias "url").concat
        (.ofTable linkAlias "path")).IsReadable := by
      simp [Expr.concat, Expr.ofTable, Expr.level, Sql.BinaryOp.level]
    refine rowsQuery_isReadable (List.cons_ne_nil _ _) ?_ _ ?_ (hamong _ _).1
      (List.forall_mem_singleton.mpr (hcolumn _ _))
    · simp [hcolumn, haddress]
    · exact List.forall_mem_singleton.mpr hsource.1
  | tags =>
    have hvisible := visibleTo_isReadable (.column (some Schema.tags.name) "organization_id") tenant
    have hcondition := Expr.IsReadableAt.and ((hamong Schema.tags.name "artist_id").mono (by decide))
      (hvisible.mono (by decide))
    exact keyedQuery_isReadable _ _ hcondition.1 (by simp [Query.filtered, ascending, hcolumn])
  | memberships =>
    have harchived : ((Expr.ofTable Schema.memberships.name "archived").eq
        (.boolLiteral false)).IsReadableAt 4 := .eq (.column _ _) (.literal _)
    have hrow := Expr.IsReadableAt.and ((htenant Schema.memberships.name).mono (by decide))
      (harchived.mono (by decide))
    have hcondition := hrow.and ((hamong Schema.memberships.name "artist_id").mono (by decide))
    exact keyedQuery_isReadable _ _ hcondition.1 (by simp [Query.filtered, ascending, hcolumn])
  | attributions =>
    have hcondition := Expr.IsReadableAt.and ((htenant Schema.userArtists.name).mono (by decide))
      ((hamong Schema.userArtists.name "artist_id").mono (by decide))
    exact keyedQuery_isReadable _ _ hcondition.1 (by simp [Query.filtered, ascending, hcolumn])

end Relation

/-- Whatever is asked of the service, each statement that it sends is read back from its tokens. -/
theorem statements_readBack (compiler : Compiler) (tenant : String) :
    (∀ filter sort page mode compiled, (mode = .rows → page.IsReadable) →
      compiler.compile tenant filter sort page mode = .ok compiled →
        compiled.statement = .ofTokens compiler.dialect compiled.query.tokens ∧
          Query.ofTokens? compiled.query.tokens = some compiled.query) ∧
    (∀ scope items plan, compiler.planWithin tenant scope items = .ok plan →
      (∀ sort page mode query, (mode = .rows → page.IsReadable) →
        compiler.modeQuery plan sort page mode = .ok query →
          Query.ofTokens? query.tokens = some query) ∧
      Query.ofTokens? plan.labelQuery.tokens = some plan.labelQuery ∧
      ∀ change, Update.ofTokens? (plan.membershipUpdate change).tokens =
        some (plan.membershipUpdate change)) ∧
    (∀ id, Query.ofTokens? (lookupQuery tenant id).tokens = some (lookupQuery tenant id)) ∧
    ∀ (relation : Relation) ids, ids ≠ [] →
      Query.ofTokens? (relation.query tenant ids).tokens = some (relation.query tenant ids) := by
  refine ⟨?_, ?_, fun id => (lookupQuery_isReadable tenant id).ofTokens?_tokens,
    fun relation ids hids => (relation.query_isReadable tenant hids).ofTokens?_tokens⟩
  · intro filter sort page mode compiled hpage hcompiled
    obtain ⟨hplan, hquery, hstatement⟩ := Compiler.compile_cases hcompiled
    have hreadable := Compiler.modeQuery_isReadable (Compiler.planWithin_hasForm hplan) hpage hquery
    exact ⟨hstatement, hreadable.ofTokens?_tokens⟩
  · intro scope items plan hplan
    have hform := Compiler.planWithin_hasForm hplan
    refine ⟨?_, (FilterPlan.labelQuery_isReadable hform).ofTokens?_tokens, fun change =>
      (FilterPlan.membershipUpdate_isReadable hform change).ofTokens?_tokens⟩
    intro sort page mode query hpage hquery
    exact (Compiler.modeQuery_isReadable hform hpage hquery).ofTokens?_tokens

theorem statements_readBack_sample :
    (∃ compiled, Compiler.sample.compile "t" { items := Compiler.sampleItems }
      [⟨"evaluation.status", .desc⟩] ⟨0, 10⟩ .rows = .ok compiled ∧
        Query.ofTokens? compiled.query.tokens = some compiled.query) ∧
    (∃ plan, Compiler.sample.planWithin "t" .archived Compiler.sampleItems = .ok plan ∧
      Update.ofTokens? (plan.membershipUpdate .unarchive).tokens =
        some (plan.membershipUpdate .unarchive)) ∧
    Query.ofTokens? (Relation.links.query "t" [⟨List.replicate 32 0, rfl⟩]).tokens =
      some (Relation.links.query "t" [⟨List.replicate 32 0, rfl⟩]) := by
  obtain ⟨compiled, hcompiled⟩ : ∃ compiled, Compiler.sample.compile "t"
      { items := Compiler.sampleItems } [⟨"evaluation.status", .desc⟩] ⟨0, 10⟩ .rows = .ok compiled :=
    ⟨_, rfl⟩
  obtain ⟨plan, hplan⟩ : ∃ plan,
      Compiler.sample.planWithin "t" .archived Compiler.sampleItems = .ok plan := ⟨_, rfl⟩
  obtain ⟨hcompile, hplans, _, hrelations⟩ := statements_readBack Compiler.sample "t"
  refine ⟨⟨compiled, hcompiled, (hcompile _ _ _ _ _ (fun _ => ?_) hcompiled).2⟩,
    ⟨plan, hplan, (hplans _ _ _ hplan).2.2 .unarchive⟩, hrelations .links _ (by simp)⟩
  exact ⟨by decide, by decide⟩

end TenantGrid
