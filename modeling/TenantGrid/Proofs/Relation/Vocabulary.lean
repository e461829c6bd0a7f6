import TenantGrid.Proofs.Plan.Results
import TenantGrid.Proofs.Plan.Vocabulary
/-!
# Statements keep to their vocabulary

Whatever is asked of the service, each statement that it sends is made of known words. None of its
text comes from the request, and each of its tokens can be written.
-/
namespace TenantGrid

open Sql (Expr Query keepsTo)

namespace Relation

variable {counts : List UInt64} {ids : List Uuid}

private theorem among_keepsTo {column : Expr}
    (h : keepsTo (statementWords counts) column.tokens = true)
    (ids : List Uuid) : keepsTo (statementWords counts) (among column ids).tokens = true := by
  simp [among, h]

private theorem query_keepsTo (relation : Relation) (tenant : String) (ids : List Uuid) :
    keepsTo (statementWords counts) (relation.query tenant ids).tokens = true := by
  have hamong : ∀ table name, isKnownName table && isKnownName name →
      keepsTo (statementWords counts) (among (.ofTable table name) ids).tokens = true := by
    intro table name hnames
    rw [Bool.and_eq_true] at hnames
    exact among_keepsTo (by simp [Expr.ofTable, hnames]) ids
  cases relation with
  | artists =>
    rw [query, artistsQuery, Sql.keepsTo_filtered, artistId, hamong _ _ (by decide)]
    rfl
  | currentEvaluation =>
    rw [query, currentEvaluationQuery, Sql.keepsTo_filtered, artistId, hamong _ _ (by decide)]
    rfl
  | evaluationHistory =>
    rw [query, evaluationHistoryQuery, Sql.keepsTo_filtered, hamong _ _ (by decide)]
    rfl
  | statistics | statisticWindows =>
    rw [query, statisticsQuery, Sql.keepsTo_filtered, hamong _ _ (by decide)]
    rfl
  | links =>
    rw [query, linksQuery, Sql.keepsTo_filtered, hamong _ _ (by decide)]
    rfl
  | tags =>
    rw [query, tagsQuery, Sql.keepsTo_filtered, Sql.keepsTo_filtered, hamong _ _ (by decide)]
    rfl
  | memberships =>
    rw [query, membershipsQuery, Sql.keepsTo_filtered, hamong _ _ (by decide)]
    rfl
  | attributions =>
    rw [query, attributionsQuery, Sql.keepsTo_filtered, hamong _ _ (by decide)]
    rfl

end Relation

/-- Whether tokens keep to the vocabulary of statements with the given row counts, so that each of them
can be written. -/
structure IsClosedText (counts : List UInt64) (tokens : List Sql.Token) : Prop where
  known : ∀ t ∈ tokens, t.isOf (statementWords counts) = true
  sound : Sql.Token.firstFault? tokens = none

private theorem isClosedText_of_keepsTo {counts : List UInt64} {tokens : List Sql.Token}
    (h : keepsTo (statementWords counts) tokens = true) : IsClosedText counts tokens :=
  ⟨List.all_eq_true.mp h, Sql.firstFault?_of_keepsTo h⟩

/-- Whatever is asked of the service, the words of each statement are those of a vocabulary that the
request has no part in, except for the row counts of a page. -/
theorem statements_isClosedText (compiler : Compiler) (tenant : String) :
    (∀ filter sort page mode compiled, compiler.compile tenant filter sort page mode = .ok compiled →
      compiled.statement = .ofTokens compiler.dialect compiled.query.tokens ∧
        IsClosedText (Compiler.rowCounts page mode) compiled.query.tokens) ∧
    (∀ scope items plan, compiler.planWithin tenant scope items = .ok plan →
      (∀ sort page mode query, compiler.modeQuery plan sort page mode = .ok query →
        IsClosedText (Compiler.rowCounts page mode) query.tokens) ∧
      IsClosedText [] plan.labelQuery.tokens ∧
      ∀ change, IsClosedText [] (plan.membershipUpdate change).tokens) ∧
    (∀ id, IsClosedText [] (lookupQuery tenant id).tokens) ∧
    ∀ (relation : Relation) ids, IsClosedText [] (relation.query tenant ids).tokens := by
  refine ⟨?_, ?_, fun id => isClosedText_of_keepsTo (lookupQuery_keepsTo tenant id),
    fun relation ids => isClosedText_of_keepsTo (relation.query_keepsTo tenant ids)⟩
  · intro filter sort page mode compiled hcompiled
    obtain ⟨hplan, hquery, hstatement⟩ := Compiler.compile_cases hcompiled
    have hscoped := Compiler.planWithin_isScoped hplan
    exact ⟨hstatement, isClosedText_of_keepsTo (Compiler.modeQuery_keepsTo
      (Compiler.planWithin_hasForm hplan) hscoped.allocated hquery)⟩
  · intro scope items plan hplan
    have hform := Compiler.planWithin_hasForm hplan
    have hjoins := (Compiler.planWithin_isScoped hplan).allocated
    refine ⟨?_, isClosedText_of_keepsTo (FilterPlan.labelQuery_keepsTo hform hjoins), fun change =>
      isClosedText_of_keepsTo (FilterPlan.membershipUpdate_keepsTo hform hjoins change)⟩
    intro sort page mode query hquery
    exact isClosedText_of_keepsTo (Compiler.modeQuery_keepsTo hform hjoins hquery)

theorem statements_isClosedText_sample :
    (∃ compiled, Compiler.sample.compile "t" { items := Compiler.sampleItems }
      [⟨"evaluation.status", .desc⟩] ⟨0, 10⟩ .rows = .ok compiled ∧
        IsClosedText [10, 0] compiled.query.tokens) ∧
    ∃ plan, Compiler.sample.planWithin "t" .archived Compiler.sampleItems = .ok plan ∧
      IsClosedText [] (plan.membershipUpdate .unarchive).tokens := by
  obtain ⟨compiled, hcompiled⟩ : ∃ compiled, Compiler.sample.compile "t"
      { items := Compiler.sampleItems } [⟨"evaluation.status", .desc⟩] ⟨0, 10⟩ .rows = .ok compiled :=
    ⟨_, rfl⟩
  obtain ⟨plan, hplan⟩ : ∃ plan,
      Compiler.sample.planWithin "t" .archived Compiler.sampleItems = .ok plan := ⟨_, rfl⟩
  obtain ⟨hcompile, hplans, _, _⟩ := statements_isClosedText Compiler.sample "t"
  exact ⟨⟨compiled, hcompiled, (hcompile _ _ _ _ _ hcompiled).2⟩, plan, hplan,
    (hplans _ _ _ hplan).2.2 .unarchive⟩

end TenantGrid
