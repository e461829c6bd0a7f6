import TenantGrid.Proofs.Plan.Isolation
import TenantGrid.Proofs.Plan.Paging
/-!
# Isolation of relations

What is loaded for artists reads tables that belong to no tenant, or rows of the tenant alone. With
the queries of plans and the updates, this isolates tenants from one another.
-/
namespace TenantGrid

open Sql (Collation Database Env Expr OrderKey Query Record SelectItem Value)

variable {c : Collation} {db db' : Database} {tenant : String}

private theorem selectColumns_sameOn (table : String) (names : List String) :
    ∀ item ∈ Sql.selectColumns table names, item.expr.SameOn c db db' := by
  intro item hitem
  obtain ⟨name, _, rfl⟩ := List.mem_map.mp hitem
  exact .column _ _

namespace Relation

private theorem among_sameOn {column : Expr} (hcolumn : column.SameOn c db db') (ids : List Uuid) :
    (among column ids).SameOn c db db' := by
  refine .inList false hcolumn fun v hv => ?_
  obtain ⟨id, _, rfl⟩ := List.mem_map.mp hv
  exact .param _

private theorem ofTables_sameOn {keys : List (OrderKey Expr)}
    (h : ∀ key ∈ keys, ∃ table name, key.expr = .ofTable table name) :
    ∀ key ∈ keys, key.expr.SameOn c db db' := by
  intro key hkey
  obtain ⟨table, name, heq⟩ := h key hkey
  rw [heq]
  exact .column _ _

private theorem restricted_sameOn {query : Query} {table : Sql.TableRef} {condition : Expr}
    {p : Record → Prop} [DecidablePred p] (hsource : query.source = some table)
    (hjoins : query.joins = []) (hfilter : query.filter = some condition)
    (hcondition : condition.SameOn c db db')
    (himp : ∀ row outer, condition.Holds c db' {(table.referenceName, row) :: outer}
      ((table.referenceName, row) :: outer) → p row)
    (hrows : (db table.table).filter p = (db' table.table).filter p)
    (hselect : ∀ item ∈ query.select, item.expr.SameOn c db db') (hgroup : query.groupBy = [])
    (horder : ∀ key ∈ query.orderBy, key.expr.SameOn c db db') : query.SameOn c db db' := by
  intro outer
  refine Sql.queryResults_sameOn ?_ hselect (by simp [hgroup]) horder
  exact Query.kept_sameOn_of_imp hsource hjoins hfilter hcondition (fun row => himp row outer) hrows

private theorem shared_sameOn {query : Query} {table : Sql.TableRef} {condition : Expr}
    (hsource : query.source = some table) (htable : db table.table = db' table.table)
    (hjoins : query.joins = []) (hfilter : query.filter = some condition)
    (hcondition : condition.SameOn c db db')
    (hselect : ∀ item ∈ query.select, item.expr.SameOn c db db') (hgroup : query.groupBy = [])
    (horder : ∀ key ∈ query.orderBy, key.expr.SameOn c db db') : query.SameOn c db db' :=
  restricted_sameOn (p := fun _ => True) hsource hjoins hfilter hcondition (fun _ _ _ => trivial)
    (by rw [htable]) hselect hgroup horder

private theorem organization_of_holds {table : String} {group : Multiset Env} {row : Record}
    {outer : Env} (hholds : ((Expr.ofTable table "organization_id").eq
      (.param (.text tenant))).Holds c db group ((table, row) :: outer)) :
    row "organization_id" = .text tenant := by
  rw [Expr.holds_eq, Expr.value_param, Collation.same_text_iff] at hholds
  simpa [Sql.readColumn] using hholds

variable (h : AgreeFor tenant db db') (ids : List Uuid)

include h

private theorem artistsQuery_sameOn : (artistsQuery ids).SameOn c db db' :=
  shared_sameOn rfl (h.shared Schema.artists (by simp)) rfl rfl (among_sameOn artistId_sameOn ids)
    (selectColumns_sameOn _ _) rfl (List.forall_mem_nil _)

private theorem currentEvaluationQuery_sameOn : (currentEvaluationQuery ids).SameOn c db db' := by
  have hnames : [Schema.artists.name, currentAlias].Nodup := by decide
  intro outer
  refine Sql.queryResults_sameOn (Query.kept_sameOn rfl (h.shared Schema.artists (by simp))
    hnames ?_ ?_) ?_ (List.forall_mem_nil _) (List.forall_mem_nil _)
  · intro join hjoin row _
    obtain rfl := List.mem_singleton.mp hjoin
    exact Sql.joinMatches_sameOn_of_eq (.eq (.column _ _) (.column _ _))
      (h.shared Schema.evaluations (by simp)) outer row
  · intro e he
    obtain rfl := Option.mem_some.mp he
    exact among_sameOn artistId_sameOn ids
  · intro item hitem
    rcases List.mem_cons.mp hitem with rfl | hitem
    · exact artistId_sameOn
    · exact selectColumns_sameOn _ _ item hitem

private theorem evaluationHistoryQuery_sameOn : (evaluationHistoryQuery ids).SameOn c db db' := by
  refine shared_sameOn rfl (h.shared Schema.evaluations (by simp)) rfl rfl
    (among_sameOn (.column _ _) ids) (selectColumns_sameOn _ _) rfl (ofTables_sameOn ?_)
  simp [evaluationHistoryQuery, descending, Query.filtered]

private theorem statisticsQuery_sameOn (windows : Bool) :
    (statisticsQuery windows ids).SameOn c db db' := by
  refine shared_sameOn rfl (h.shared Schema.statistics (by simp)) rfl rfl
    (among_sameOn (.column _ _) ids) (selectColumns_sameOn _ _) rfl (ofTables_sameOn ?_)
  simp [statisticsQuery, ascending, Query.filtered]

private theorem linksQuery_sameOn : (linksQuery ids).SameOn c db db' := by
  have hnames : [linkAlias, sourceAlias].Nodup := by decide
  intro outer
  refine Sql.queryResults_sameOn (Query.kept_sameOn rfl (h.shared Schema.artistLinks (by simp))
    hnames ?_ ?_) ?_ (List.forall_mem_nil _) (ofTables_sameOn ?_)
  · intro join hjoin row _
    obtain rfl := List.mem_singleton.mp hjoin
    exact Sql.joinMatches_sameOn_of_eq (.eq (.column _ _) (.column _ _))
      (h.shared Schema.linkSources (by simp)) outer row
  · intro e he
    obtain rfl := Option.mem_some.mp he
    exact among_sameOn (.column _ _) ids
  · simp only [linksQuery, Query.innerJoined, Query.joined, Query.filtered, List.mem_cons,
      List.not_mem_nil, or_false]
    rintro item (rfl | rfl | rfl | rfl | rfl)
    all_goals first | exact .column _ _ | exact .binary _ (.column _ _) (.column _ _)
  · simp [linksQuery, ascending, Query.innerJoined, Query.joined, Query.filtered]

private theorem tagsQuery_sameOn : (tagsQuery tenant ids).SameOn c db db' := by
  refine restricted_sameOn rfl rfl rfl ?_ (fun row outer hholds => ?_) h.tags
    (selectColumns_sameOn _ _) rfl (ofTables_sameOn ?_)
  · exact .and (among_sameOn (.column _ _) ids)
      (.paren (.or (.isNull false (.column _ _)) (.eq (.column _ _) (.param _))))
  · have hvisible := ((Expr.holds_and _ _).mp hholds).2
    rw [visibleTo_holds, Collation.same_text_iff] at hvisible
    simpa [Sql.readColumn, Sql.TableRef.referenceName] using hvisible
  · simp [tagsQuery, ascending, Query.filtered]

private theorem membershipsQuery_sameOn : (membershipsQuery tenant ids).SameOn c db db' := by
  refine restricted_sameOn rfl rfl rfl ?_ (fun row outer hholds => ?_)
    (h.owned Schema.memberships (by simp)) (selectColumns_sameOn _ _) rfl (ofTables_sameOn ?_)
  · exact .and (.and (.eq (.column _ _) (.param _)) (.eq (.column _ _) (.literal _)))
      (among_sameOn (.column _ _) ids)
  · exact organization_of_holds ((Expr.holds_and _ _).mp ((Expr.holds_and _ _).mp hholds).1).1
  · simp [membershipsQuery, ascending, Query.filtered]

private theorem attributionsQuery_sameOn : (attributionsQuery tenant ids).SameOn c db db' := by
  refine restricted_sameOn rfl rfl rfl ?_ (fun row outer hholds => ?_)
    (h.owned Schema.userArtists (by simp)) (selectColumns_sameOn _ _) rfl (ofTables_sameOn ?_)
  · exact .and (.eq (.column _ _) (.param _)) (among_sameOn (.column _ _) ids)
  · exact organization_of_holds ((Expr.holds_and _ _).mp hholds).1
  · simp [attributionsQuery, ascending, Query.filtered]

private theorem query_sameOn (relation : Relation) :
    (relation.query tenant ids).SameOn c db db' := by
  cases relation with
  | artists => exact artistsQuery_sameOn h ids
  | currentEvaluation => exact currentEvaluationQuery_sameOn h ids
  | evaluationHistory => exact evaluationHistoryQuery_sameOn h ids
  | statistics => exact statisticsQuery_sameOn h ids false
  | statisticWindows => exact statisticsQuery_sameOn h ids true
  | links => exact linksQuery_sameOn h ids
  | tags => exact tagsQuery_sameOn h ids
  | memberships => exact membershipsQuery_sameOn h ids
  | attributions => exact attributionsQuery_sameOn h ids

end Relation

/-- A query that a store may answer on one database exactly as on the other. -/
def AnsweredAlike (c : Collation) (db db' : Database) (query : Query) : Prop :=
  ∀ answer, query.IsAnswer c db answer ↔ query.IsAnswer c db' answer

/-- Tenants are isolated. Every query for a tenant is answered alike on databases that are the same
to it, and an update for the tenant changes rows of its own alone. -/
theorem tenant_isolated (compiler : Compiler) (h : AgreeFor tenant db db') :
    (∀ filter sort page mode compiled, compiler.compile tenant filter sort page mode = .ok compiled →
      AnsweredAlike c db db' compiled.query) ∧
    (∀ scope items plan, compiler.planWithin tenant scope items = .ok plan →
      (∀ sort page mode query, compiler.modeQuery plan sort page mode = .ok query →
        AnsweredAlike c db db' query) ∧ AnsweredAlike c db db' plan.labelQuery) ∧
    (∀ id, AnsweredAlike c db db' (lookupQuery tenant id)) ∧
    (∀ (relation : Relation) ids, AnsweredAlike c db db' (relation.query tenant ids)) ∧
    ∀ (plan : FilterPlan) change, plan.tenant = tenant →
      (∀ row : Record, row "organization_id" ≠ .text tenant →
        (plan.membershipUpdate change).changed c db row = row) ∧
      ((plan.membershipUpdate change).apply c db Schema.memberships.name).filter
          (fun row => row "organization_id" ≠ .text tenant) =
        (db Schema.memberships.name).filter (fun row => row "organization_id" ≠ .text tenant) ∧
      ∀ table ≠ Schema.memberships.name,
        (plan.membershipUpdate change).apply c db table = db table := by
  have halike : ∀ {query : Query}, query.SameOn c db db' → AnsweredAlike c db db' query :=
    fun hquery => Query.isAnswer_sameOn hquery
  refine ⟨?_, ?_, fun id => halike (h.lookupQuery_sameOn id),
    fun relation ids => halike (relation.query_sameOn h ids), ?_⟩
  · intro filter sort page mode compiled hcompiled
    obtain ⟨hplan, hquery, _⟩ := Compiler.compile_cases hcompiled
    exact halike (h.modeQuery_sameOn hplan hquery)
  · intro scope items plan hplan
    exact ⟨fun sort page mode query hquery => halike (h.modeQuery_sameOn hplan hquery),
      halike (h.labelQuery_sameOn hplan)⟩
  · rintro plan change rfl
    exact ⟨fun row => plan.membershipUpdate_changed_of_ne change row,
      plan.membershipUpdate_others change, fun table hne => Function.update_of_ne hne _ _⟩

/-- Rows of another organization. -/
def foreignRow? : String → Option Record
  | "organizations_artists" => some (rowOf [("organization_id", .text "x"), ("artist_id", .text "a"),
      ("added_by", .text "v"), ("muted", .bool false), ("archived", .bool false),
      ("favorite", .bool false)])
  | "tags" => some (rowOf [("id", .int 2), ("artist_id", .text "a"), ("tag", .text "secret"),
      ("tag_type_id", .int 1), ("organization_id", .text "x")])
  | "user_artists" => some (rowOf [("user_id", .text "v"), ("organization_id", .text "x"),
      ("artist_id", .text "a")])
  | _ => none

private theorem sample_agreeFor : AgreeFor "t" (listedRows sampleRoster)
    (fun table => listedRows sampleRoster table + singleRows foreignRow? table) := by
  have hshared : ∀ t ∈ [Schema.artists, Schema.evaluations, Schema.statistics,
      Schema.statisticTypes, Schema.artistLinks, Schema.linkSources],
      (foreignRow? t.name).toList.length = 0 := by decide
  have hforeign : ∀ t ∈ Schema.tables, ∀ row ∈ foreignRow? t.name,
      row "organization_id" = .text "x" := by decide
  have hothers : ∀ t ∈ Schema.tables, ∀ row ∈ singleRows foreignRow? t.name,
      row "organization_id" = .text "x" := by
    intro t ht row hrow
    exact hforeign t ht row (by simpa [singleRows] using hrow)
  constructor
  · intro t ht
    simp [singleRows, List.length_eq_zero_iff.mp (hshared t ht)]
  · intro t ht
    have hmem : t ∈ Schema.tables := by
      revert t
      decide
    simp only [Multiset.filter_add, left_eq_add, Multiset.filter_eq_nil]
    intro row hrow
    simp [hothers t hmem row hrow]
  · simp only [Multiset.filter_add, left_eq_add, Multiset.filter_eq_nil]
    intro row hrow
    simp [hothers Schema.tags (by decide) row hrow]

/-- What another organization keeps about an artist makes no difference to a page. -/
theorem tenant_isolated_sample :
    AgreeFor "t" (listedRows sampleRoster)
      (fun table => listedRows sampleRoster table + singleRows foreignRow? table) ∧
    ∃ compiled, Compiler.sample.compile "t" { items := Compiler.sampleItems } Compiler.sampleSort
        ⟨0, 10⟩ .rows = .ok compiled ∧
      AnsweredAlike .plain (listedRows sampleRoster)
        (fun table => listedRows sampleRoster table + singleRows foreignRow? table) compiled.query := by
  obtain ⟨compiled, hcompiled⟩ : ∃ compiled, Compiler.sample.compile "t"
      { items := Compiler.sampleItems } Compiler.sampleSort ⟨0, 10⟩ .rows = .ok compiled := ⟨_, rfl⟩
  have halike := (tenant_isolated (c := .plain) Compiler.sample sample_agreeFor).1
  exact ⟨sample_agreeFor, compiled, hcompiled, halike _ _ _ _ _ hcompiled⟩

end TenantGrid
