import TenantGrid.Plan.Basic
import TenantGrid.Proofs.Filter.Test
import TenantGrid.Proofs.Plan.Reading
/-!
# Conditions of a plan

What the scope, the joins and the tests of a relation say of the rows of an artist, and that each of
them reads no further rows.
-/
namespace TenantGrid

open Sql (Collation Database Env Expr Query Record Value)

variable {c : Collation} {db : Database} {group : Multiset Env} {env : Env}

theorem artistId_readsOnly {names : List String} (h : Schema.artists.name ∈ names) :
    artistId.ReadsOnly names :=
  .ofTable "id" h

theorem artistId_value {artist : Record} (h : env.lookup Schema.artists.name = some artist) :
    artistId.value c db group env = artist "id" := by
  simp [artistId, Sql.readColumn, h]

def flagCondition (flag : String × Bool) : Expr :=
  (scopeColumn flag.1).eq (.boolLiteral flag.2)

def scopeCondition (tenant : String) (scope : Scope) : Expr :=
  (scope.flags.map flagCondition).foldl .and
    ((scopeColumn "organization_id").eq (.param (.text tenant)))

theorem scopeQuery_eq (tenant : String) (scope : Scope) :
    scopeQuery tenant scope = Sql.columnQuery Schema.memberships.name scopeAlias "artist_id" true
      (scopeCondition tenant scope) := by
  rcases scope with (_ | _ | _) | _ <;> rfl

theorem scopeCondition_readsOnly (tenant : String) (scope : Scope) :
    (scopeCondition tenant scope).ReadsOnly [scopeAlias] := by
  refine .foldl_and (.eq (.ofTable _ (by simp)) (.param _)) fun e he => ?_
  obtain ⟨flag, _, rfl⟩ := List.mem_map.mp he
  exact .eq (.ofTable _ (by simp)) (.boolLiteral _)

/-- The scope selects the tenant's rows in its archive and mute state. -/
theorem scopeCondition_holds (tenant : String) (scope : Scope) (row : Record) :
    (scopeCondition tenant scope).Holds c db group [(scopeAlias, row)] ↔
      c.Same (row "organization_id") (.text tenant) ∧ row "archived" = .bool scope.isArchived ∧
        scope.ShowsMuted row := by
  rcases scope with (_ | _ | _) | _ <;>
    simp [scopeCondition, flagCondition, Scope.flags, Scope.isArchived, Scope.ShowsMuted, scopeColumn,
      Expr.holds_and, Expr.holds_eq, Collation.same_bool_iff, Sql.readColumn, and_assoc]

theorem tenantScope_readsOnly {names : List String} (h : Schema.artists.name ∈ names)
    (tenant : String) (scope : Scope) : (tenantScope tenant scope).ReadsOnly names := by
  unfold tenantScope
  rw [scopeQuery_eq]
  exact (artistId_readsOnly h).inQuery false
    (Sql.columnQuery_isClosed _ _ _ _ (scopeCondition_readsOnly tenant scope))

theorem tenantScope_holds {artist : Record} (h : env.lookup Schema.artists.name = some artist)
    (tenant : String) (scope : Scope) :
    (tenantScope tenant scope).Holds c db group env ↔ scope.Shows c db tenant artist := by
  unfold tenantScope Scope.Shows membershipRows
  rw [scopeQuery_eq, Expr.holds_inQuery, artistId_value h]
  simp only [Sql.mem_columnQuery _ _ _ _ _ _ (scopeCondition_readsOnly tenant scope),
    scopeCondition_holds, Multiset.mem_filter]
  constructor
  · rintro ⟨_, ⟨row, hrow, ⟨horg, harchived, hmuted⟩, rfl⟩, hsame⟩
    exact ⟨row, ⟨hrow, hsame.symm, horg, harchived⟩, hmuted⟩
  · rintro ⟨row, ⟨hrow, hsame, horg, harchived⟩, hmuted⟩
    exact ⟨_, ⟨row, hrow, ⟨horg, harchived, hmuted⟩, rfl⟩, hsame.symm⟩

/-- A condition with a further one, if there is one. -/
def andInner (e : Expr) : Option Expr → Expr
  | some inner => e.and inner
  | none => e

theorem andInner_test_readsOnly {names : List String} {e column : Expr} (inner : Option Test)
    (he : e.ReadsOnly names) (hcolumn : column.ReadsOnly names) :
    (andInner e (inner.map (Test.on column))).ReadsOnly names := by
  cases inner with
  | none => exact he
  | some t => exact he.and (t.on_readsOnly hcolumn)

theorem andInner_holds (e : Expr) (inner : Option Expr) :
    (andInner e inner).Holds c db group env ↔
      e.Holds c db group env ∧ ∀ i ∈ inner, i.Holds c db group env := by
  cases inner <;> simp [andInner, Expr.holds_and]

private theorem visibleTo_readsOnly {names : List String} {organization : Expr}
    (h : organization.ReadsOnly names) (tenant : String) :
    (visibleTo tenant organization).ReadsOnly names :=
  ((h.isNull false).or (h.eq (.param _))).paren

theorem visibleTo_holds (tenant : String) (organization : Expr) :
    (visibleTo tenant organization).Holds c db group env ↔
      organization.value c db group env = .null ∨
        c.Same (organization.value c db group env) (.text tenant) := by
  simp [visibleTo, Expr.holds_paren, Expr.holds_or, Expr.holds_isNull, Expr.holds_eq]

def tagCondition (tenant : String) (type : TagType) : Expr :=
  ((Expr.ofTable tagAlias "tag_type_id").eq (.param (.int type.id))).and
    (visibleTo tenant (.ofTable tagAlias "organization_id"))

theorem tagQuery_eq (tenant : String) (type : TagType) (inner : Option Expr) :
    tagQuery tenant type inner = Sql.columnQuery Schema.tags.name tagAlias "artist_id" false
      (andInner (tagCondition tenant type) inner) := by
  cases inner <;> rfl

theorem tagCondition_readsOnly (tenant : String) (type : TagType) :
    (tagCondition tenant type).ReadsOnly [tagAlias] :=
  .and (.eq (.ofTable _ (by simp)) (.param _)) (visibleTo_readsOnly (.ofTable _ (by simp)) tenant)

theorem tagCondition_holds (tenant : String) (type : TagType) (row : Record) :
    (tagCondition tenant type).Holds c db group [(tagAlias, row)] ↔
      c.Same (row "tag_type_id") (.int type.id) ∧
        (row "organization_id" = .null ∨ c.Same (row "organization_id") (.text tenant)) := by
  simp [tagCondition, Expr.holds_and, Expr.holds_eq, visibleTo_holds, Sql.readColumn]

def userCondition (tenant : String) : Expr :=
  (Expr.ofTable userAlias "organization_id").eq (.param (.text tenant))

theorem userQuery_eq (tenant : String) (inner : Option Expr) :
    userQuery tenant inner = Sql.columnQuery Schema.userArtists.name userAlias "artist_id" false
      (andInner (userCondition tenant) inner) := by
  cases inner <;> rfl

theorem userCondition_readsOnly (tenant : String) : (userCondition tenant).ReadsOnly [userAlias] :=
  .eq (.ofTable _ (by simp)) (.param _)

theorem userCondition_holds (tenant : String) (row : Record) :
    (userCondition tenant).Holds c db group [(userAlias, row)] ↔
      c.Same (row "organization_id") (.text tenant) := by
  simp [userCondition, Expr.holds_eq, Sql.readColumn]

namespace FilterPlan

/-- The left join of a joined table. -/
def leftJoin (plan : FilterPlan) (joined : JoinedTable) : Sql.Join Expr :=
  ⟨.left, { table := joined.target.table.name, aliasName := some joined.aliasName },
    plan.joinCondition joined⟩

/-- The rows that belong to the artist under a join. -/
def targetRows (c : Collation) (db : Database) (plan : FilterPlan) (artist : Record) :
    JoinTarget → Multiset Record
  | .statistic typeId => statisticRows c db artist typeId
  | .evaluation => evaluationRows c db artist
  | .membership => membershipRows c db plan.tenant artist plan.scope.isArchived

theorem joinCondition_readsOnly (plan : FilterPlan) (joined : JoinedTable) :
    (plan.joinCondition joined).ReadsOnly [Schema.artists.name, joined.aliasName] := by
  have hcolumn : ∀ name, (Expr.ofTable joined.aliasName name).ReadsOnly
      [Schema.artists.name, joined.aliasName] := fun name => .ofTable name (by simp)
  have hid : artistId.ReadsOnly [Schema.artists.name, joined.aliasName] :=
    artistId_readsOnly (by simp)
  unfold joinCondition
  cases joined.target with
  | statistic typeId => exact .and (.eq (hcolumn _) hid) (.eq (hcolumn _) (.param _))
  | evaluation => exact .eq (hcolumn _) (.ofTable _ (by simp))
  | membership =>
    exact .and (.and (.eq (hcolumn _) hid) (.eq (hcolumn _) (.param _)))
      (.eq (hcolumn _) (.boolLiteral _))

/-- A row meets the condition of a join if it is one of those that belong to the artist. -/
theorem mem_targetRows (plan : FilterPlan) (joined : JoinedTable) {artist row : Record}
    (hartist : env.lookup Schema.artists.name = some artist)
    (hrow : env.lookup joined.aliasName = some row) :
    row ∈ plan.targetRows c db artist joined.target ↔
      row ∈ db joined.target.table.name ∧ (plan.joinCondition joined).Holds c db group env := by
  unfold joinCondition
  cases joined.target <;>
    simp [targetRows, statisticRows, evaluationRows, membershipRows, JoinTarget.table,
      Expr.holds_and, Expr.holds_eq, Collation.same_bool_iff, Sql.readColumn, artistId_value hartist,
      hartist, hrow, and_assoc]

end FilterPlan

end TenantGrid
