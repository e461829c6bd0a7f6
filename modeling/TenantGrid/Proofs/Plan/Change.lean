import TenantGrid.Proofs.Plan.Isolation
import TenantGrid.Proofs.Plan.Results
/-!
# Changes of the working set

A change of memberships reads the flags that it writes, in its own condition, in the scope and in
the joins of the ids that it applies to. It applies to all rows of an artist in its archive state or
to none, so that the artists it leaves alone look as before, and those that it applies to are out of
scope together.
-/
namespace TenantGrid

open Sql (Collation Database Env Expr Query Record Value)

private theorem foldl_update_apply {row : Record} {values : List (String × Value)} {name : String}
    (hnodup : (values.map Prod.fst).Nodup) :
    values.foldl (fun r p => Function.update r p.1 p.2) row name =
      (values.lookup name).getD (row name) := by
  induction values generalizing row with
  | nil => rfl
  | cons p rest ih =>
    obtain ⟨hnotMem, hrest⟩ := List.nodup_cons.mp hnodup
    rw [List.foldl_cons, ih hrest, List.lookup_cons]
    by_cases hname : name = p.1
    · subst hname
      have hnone := (Sql.lookup_eq_none_iff_notMem rest _).mpr hnotMem
      simp [hnone]
    · have hbeq : (name == p.1) = false := beq_false_of_ne hname
      simp [hname, hbeq]

namespace MembershipChange

/-- The scope within which a change is made: that of the visible artists, in any mute mode, or that of
the archived ones if they are restored. -/
inductive IsMadeWithin : MembershipChange → Scope → Prop
  | mute (muted : Bool) (mode : MuteMode) : IsMadeWithin (.mute muted) (.visible mode)
  | archive (user : String) (moment : Timestamp) (mode : MuteMode) :
    IsMadeWithin (.archive user moment) (.visible mode)
  | unarchive : IsMadeWithin .unarchive .archived

/-- The changes that take the artists they apply to out of the scope. -/
inductive Drains : MembershipChange → Scope → Prop
  | archive (user : String) (moment : Timestamp) (mode : MuteMode) :
    Drains (.archive user moment) (.visible mode)
  | unarchive : Drains .unarchive .archived
  | mute : Drains (.mute true) (.visible .hide)
  | unmute : Drains (.mute false) (.visible .only)

/-- The columns that a change writes, and the value that each takes. -/
def writes : MembershipChange → List (String × Value)
  | mute muted => [("muted", .bool muted)]
  | archive user moment =>
    [("archived", .bool true), ("archived_at", .timestamp moment), ("archived_by", .text user)]
  | unarchive => [("archived", .bool false), ("archived_at", .null), ("archived_by", .null)]

/-- A membership row with the change made to it. -/
def written (change : MembershipChange) (row : Record) : Record :=
  fun name => (change.writes.lookup name).getD (row name)

variable {change : MembershipChange} {scope : Scope}

private theorem IsMadeWithin.appliesToArchived_eq (h : change.IsMadeWithin scope) :
    change.appliesToArchived = scope.isArchived := by
  cases h <;> rfl

private theorem Drains.isMadeWithin (h : change.Drains scope) : change.IsMadeWithin scope := by
  cases h with
  | archive user moment mode => exact .archive user moment mode
  | unarchive => exact .unarchive
  | mute => exact .mute true .hide
  | unmute => exact .mute false .only

private theorem written_of_notMem {name : String} (row : Record)
    (h : name ∉ change.writes.map Prod.fst) : change.written row name = row name := by
  rw [written, (Sql.lookup_eq_none_iff_notMem _ name).mpr h]
  rfl

private theorem Drains.not_shown (h : change.Drains scope) (row : Record) :
    ¬ (change.written row "archived" = .bool scope.isArchived ∧
      scope.ShowsMuted (change.written row)) := by
  cases h <;> simp [written, writes, Scope.isArchived, Scope.ShowsMuted]

private theorem written_ne_null (change : MembershipChange) {row : Record} {name : String}
    (hrow : row name ≠ .null) (hname : name ∉ ["archived_at", "archived_by"]) :
    change.written row name ≠ .null := by
  by_cases hwrites : name ∈ change.writes.map Prod.fst
  · cases change <;> simp [writes] at hwrites hname <;>
      simp_all [written, writes]
  · rwa [written_of_notMem row hwrites]

private theorem writes_nodup (change : MembershipChange) : (change.writes.map Prod.fst).Nodup := by
  cases change <;> simp [writes]

private theorem assignments_eq_writes (change : MembershipChange) (c : Collation) (db : Database)
    (group : Multiset Env) (env : Env) :
    change.assignments.map (fun assignment => (assignment.1, assignment.2.value c db group env)) =
      change.writes := by
  cases change <;> simp [assignments, writes, Expr.value, Sql.Literal.meaning]

end MembershipChange

section

variable {compiler : Compiler} {c : Collation} {db db' : Database} {tenant : String}

private theorem Compiler.meets_congr {artist : Record} {archived : Bool}
    (hrows : membershipRows c db' tenant artist archived = membershipRows c db tenant artist archived)
    (htables : ∀ t ∈ [Schema.statistics, Schema.evaluations, Schema.tags, Schema.userArtists],
      db' t.name = db t.name) (item : FilterItem) (route : Route) :
    compiler.Meets c item db' tenant archived artist route ↔
      compiler.Meets c item db tenant archived artist route := by
  have hstatistics := htables Schema.statistics (by simp)
  have hevaluations := htables Schema.evaluations (by simp)
  have htags := htables Schema.tags (by simp)
  have husers := htables Schema.userArtists (by simp)
  cases route <;>
    simp only [Compiler.Meets, statisticRows, evaluationRows, tagRows, userRows, hrows, hstatistics,
      hevaluations, htags, husers]

end

namespace FilterPlan

variable {c : Collation} {db : Database} {plan : FilterPlan}

private theorem membershipUpdate_selects_iff (hplan : plan.IsScoped) (change : MembershipChange)
    (row : Record) :
    (plan.membershipUpdate change).selects c db row = true ↔
      row "organization_id" = .text plan.tenant ∧ row "archived" = .bool change.appliesToArchived ∧
        ∃ id ∈ plan.keptIds c db plan.joins, c.Same (row "artist_id") id := by
  have hread : ∀ name group, (Expr.bare name).value c db group [(Schema.memberships.name, row)] =
      row name := by
    intro name group
    simp [Expr.bare, Expr.value, Sql.readColumn]
  simp only [Sql.Update.selects, membershipUpdate, Sql.Update.filtered, Expr.conjoin, Sql.meets,
    decide_eq_true_eq]
  rw [← Expr.Holds, Expr.holds_and, Expr.holds_and, Expr.holds_eq, Expr.holds_eq,
    Expr.holds_inQuery, idQuery_results hplan, and_assoc]
  simp [hread, Collation.same_text_iff, Collation.same_bool_iff]

private theorem membershipUpdate_changed (change : MembershipChange) (row : Record) :
    (plan.membershipUpdate change).changed c db row =
      if (plan.membershipUpdate change).selects c db row then change.written row else row := by
  have hwrites := change.assignments_eq_writes c db {[(Schema.memberships.name, row)]}
    [(Schema.memberships.name, row)]
  unfold Sql.Update.changed
  refine if_congr Iff.rfl ?_ rfl
  funext name
  rw [MembershipChange.written, ← foldl_update_apply change.writes_nodup, ← hwrites, List.foldl_map]
  rfl

private theorem apply_memberships (change : MembershipChange) :
    (plan.membershipUpdate change).apply c db Schema.memberships.name =
      (db Schema.memberships.name).map ((plan.membershipUpdate change).changed c db) :=
  Function.update_self _ _ _

private theorem apply_of_ne (change : MembershipChange) {table : String}
    (hne : table ≠ Schema.memberships.name) :
    (plan.membershipUpdate change).apply c db table = db table :=
  Function.update_of_ne hne _ _

private theorem changed_of_notMem (change : MembershipChange) (row : Record) {name : String}
    (h : name ∉ change.writes.map Prod.fst) :
    (plan.membershipUpdate change).changed c db row name = row name := by
  rw [membershipUpdate_changed]
  split
  · exact MembershipChange.written_of_notMem row h
  · rfl

private theorem changed_artist (change : MembershipChange) (row : Record) :
    (plan.membershipUpdate change).changed c db row "artist_id" = row "artist_id" := by
  apply changed_of_notMem
  cases change <;> simp [MembershipChange.writes]

private theorem apply_isInstance (hdb : IsInstance c db) (change : MembershipChange) :
    IsInstance c ((plan.membershipUpdate change).apply c db) := by
  intro t ht
  by_cases htable : t.name = Schema.memberships.name
  · have hmemberships : t = Schema.memberships := by
      revert t
      decide
    subst hmemberships
    have hadmits := hdb Schema.memberships (by decide)
    rw [apply_memberships]
    constructor
    · intro row hrow column hcolumn hrequired
      obtain ⟨before, hbefore, rfl⟩ := Multiset.mem_map.mp hrow
      have hnull := hadmits.required before hbefore column hcolumn hrequired
      have hfree : ∀ column ∈ Schema.memberships.columns,
          column.notNull = true ∨ column.name ∈ Schema.memberships.primaryKey →
            column.name ∉ ["archived_at", "archived_by"] := by decide
      rw [membershipUpdate_changed]
      split
      · exact change.written_ne_null hnull (hfree column hcolumn hrequired)
      · exact hnull
    · intro key hkey model
      have hwrites : ∀ name ∈ key, name ∉ change.writes.map Prod.fst := by
        have hkeys : ∀ key ∈ Schema.memberships.keys, ∀ name ∈ key,
            name ∉ ["muted", "archived", "archived_at", "archived_by"] := by decide
        intro name hname hmem
        apply hkeys key hkey name hname
        cases change <;> simp_all [MembershipChange.writes]
      rw [Multiset.filter_map, Multiset.card_map]
      refine le_of_eq_of_le (congrArg _ (Multiset.filter_congr fun row _ => ?_))
        (hadmits.keyed key hkey model)
      refine forall₂_congr fun name hname => ?_
      rw [changed_of_notMem change row (hwrites name hname)]
  · rw [apply_of_ne change htable]
    exact hdb t ht

variable {compiler : Compiler} {tenant : String} {scope : Scope} {items : List FilterItem}
  {change : MembershipChange}

private theorem changed_of_not_selected (hplan : plan.IsScoped) (hdb : IsInstance c db)
    {artist : Record} (hartist : artist ∈ db Schema.artists.name)
    (hselects : ¬ plan.Selects c db artist) {row : Record}
    (hrow : c.Same (row "artist_id") (artist "id")) :
    (plan.membershipUpdate change).changed c db row = row := by
  rw [membershipUpdate_changed, if_neg]
  intro hupdated
  obtain ⟨_, _, id, hid, hsame⟩ := (membershipUpdate_selects_iff hplan change row).mp hupdated
  obtain ⟨other, hother, hotherSelects, rfl⟩ := (mem_keptIds hplan id).mp hid
  have hids : c.Same (artist "id") (other "id") := hrow.symm.trans hsame
  exact hselects (hdb.artist_unique hartist hother hids ▸ hotherSelects)

private theorem membershipRows_apply (hplan : plan.IsScoped) (hdb : IsInstance c db)
    {artist : Record} (hartist : artist ∈ db Schema.artists.name)
    (hselects : ¬ plan.Selects c db artist) (archived : Bool) :
    membershipRows c ((plan.membershipUpdate change).apply c db) tenant artist archived =
      membershipRows c db tenant artist archived := by
  have hunchanged : ∀ row : Record, c.Same (row "artist_id") (artist "id") →
      (plan.membershipUpdate change).changed c db row = row :=
    fun row => changed_of_not_selected hplan hdb hartist hselects
  unfold membershipRows
  rw [apply_memberships, Multiset.filter_map]
  have hfilter : (db Schema.memberships.name).filter ((fun row =>
        c.Same (row "artist_id") (artist "id") ∧ c.Same (row "organization_id") (.text tenant) ∧
          row "archived" = .bool archived) ∘ (plan.membershipUpdate change).changed c db) =
      (db Schema.memberships.name).filter fun row => c.Same (row "artist_id") (artist "id") ∧
        c.Same (row "organization_id") (.text tenant) ∧ row "archived" = .bool archived := by
    refine Multiset.filter_congr fun row _ => ?_
    by_cases hsame : c.Same (row "artist_id") (artist "id")
    · rw [Function.comp_apply, hunchanged row hsame]
    · simp [changed_artist, hsame]
  rw [hfilter]
  refine (Multiset.map_congr rfl fun row hrow => ?_).trans (Multiset.map_id' _)
  exact hunchanged row (Multiset.mem_filter.mp hrow).2.1

private theorem not_selects_apply (hcompiled : compiler.planWithin tenant scope items = .ok plan)
    (hdb : IsInstance c db) {artist : Record} (hartist : artist ∈ db Schema.artists.name)
    (hselects : ¬ plan.Selects c db artist) :
    ¬ plan.Selects c ((plan.membershipUpdate change).apply c db) artist := by
  have hrows : ∀ archived, membershipRows c ((plan.membershipUpdate change).apply c db) tenant artist
      archived = membershipRows c db tenant artist archived :=
    membershipRows_apply (Compiler.planWithin_isScoped hcompiled) hdb hartist hselects
  have htables : ∀ t ∈ [Schema.statistics, Schema.evaluations, Schema.tags, Schema.userArtists],
      (plan.membershipUpdate change).apply c db t.name = db t.name := by
    intro t ht
    refine apply_of_ne change ?_
    revert t
    decide
  rw [Compiler.planWithin_selects hcompiled hdb] at hselects
  rw [Compiler.planWithin_selects hcompiled (apply_isInstance hdb change)]
  simpa only [Scope.Shows, hrows, Compiler.meets_congr (hrows _) htables] using hselects

private theorem not_selects_drained (hcompiled : compiler.planWithin tenant scope items = .ok plan)
    (hdb : IsInstance c db) (hdrains : change.Drains scope) {artist : Record}
    (hartist : artist ∈ db Schema.artists.name) :
    ¬ plan.Selects c ((plan.membershipUpdate change).apply c db) artist := by
  by_cases hselects : plan.Selects c db artist
  · intro hagain
    obtain ⟨htenant, hscope⟩ := Compiler.planWithin_request hcompiled
    obtain ⟨row, hrow, hmuted⟩ := shows_of_selects hagain
    obtain ⟨hrow, hartistId, horganization, harchived⟩ := Multiset.mem_filter.mp hrow
    rw [apply_memberships] at hrow
    obtain ⟨before, hbefore, rfl⟩ := Multiset.mem_map.mp hrow
    rw [hscope] at harchived hmuted
    rw [membershipUpdate_changed_organization, Collation.same_text_iff] at horganization
    rw [changed_artist] at hartistId
    -- A changed row has left the scope, and a row that was left alone was not in it before.
    rw [membershipUpdate_changed] at harchived hmuted
    split at harchived
    · rename_i hupdated
      rw [if_pos hupdated] at hmuted
      exact hdrains.not_shown before ⟨harchived, hmuted⟩
    · rename_i hupdated
      apply hupdated
      rw [membershipUpdate_selects_iff (Compiler.planWithin_isScoped hcompiled)]
      refine ⟨horganization, ?_, artist "id", ?_, hartistId⟩
      · rw [harchived, hdrains.isMadeWithin.appliesToArchived_eq]
      · rw [mem_keptIds (Compiler.planWithin_isScoped hcompiled)]
        exact ⟨artist, hartist, hselects, rfl⟩
  · exact not_selects_apply hcompiled hdb hartist hselects

end FilterPlan

namespace Compiler

variable {compiler : Compiler} {c : Collation} {db : Database} {tenant : String} {scope : Scope}
  {items : List FilterItem} {plan : FilterPlan} {change : MembershipChange}

/-- The answers to a query of ids are the ids of the selected artists. -/
theorem mem_idQuery_answer (hplan : plan.IsScoped) {answer : List (List Value)}
    (hanswer : plan.idQuery.IsAnswer c db answer) (values : List Value) :
    values ∈ answer ↔ ∃ id ∈ plan.keptIds c db plan.joins, values = [id] := by
  have hvalues := (Query.isAnswer_unordered c db rfl rfl answer).mp hanswer
  rw [Query.results, FilterPlan.idQuery_results hplan, Multiset.map_map] at hvalues
  rw [← Multiset.mem_coe, hvalues, Multiset.mem_map]
  simp [eq_comm]

/-- A change applies to the working set exactly: to the tenant's membership rows of the artists whose
ids the plan finds, in the scope's archive state. It writes its own columns of these rows and nothing
else. If it drains the scope, the plan finds no artist afterwards, so that no change of the same plan
applies to a row any more. -/
theorem workingSet_changed (hplan : compiler.planWithin tenant scope items = .ok plan)
    (hdb : IsInstance c db) (hmade : change.IsMadeWithin scope) :
    let update := plan.membershipUpdate change
    let after := update.apply c db
    ∃ ids, compiler.idsQuery plan [] = .ok ids ∧ (∃ answer, ids.IsAnswer c db answer) ∧
      (∀ answer, ids.IsAnswer c db answer → ∀ row : Record, update.selects c db row = true ↔
        row "organization_id" = .text tenant ∧ row "archived" = .bool scope.isArchived ∧
          ∃ id, [id] ∈ answer ∧ c.Same (row "artist_id") id) ∧
      after Schema.memberships.name = (db Schema.memberships.name).map (fun row =>
        if update.selects c db row then change.written row else row) ∧
      (∀ (row : Record) (name : String), name ∉ change.writes.map Prod.fst →
        change.written row name = row name) ∧
      (∀ table ≠ Schema.memberships.name, after table = db table) ∧
      (change.Drains scope → (∃ answer, ids.IsAnswer c after answer) ∧
        (∀ answer, ids.IsAnswer c after answer → answer = []) ∧
        ∀ again : MembershipChange, (after Schema.memberships.name).filter
          (fun row => (plan.membershipUpdate again).selects c after row) = 0) := by
  intro update after
  have hscoped := planWithin_isScoped hplan
  have htenant := (planWithin_request hplan).1
  refine ⟨plan.idQuery, rfl, plan.idQuery.exists_isAnswer c db, ?_, ?_, ?_, ?_, ?_⟩
  · intro answer hanswer row
    rw [FilterPlan.membershipUpdate_selects_iff hscoped, htenant, hmade.appliesToArchived_eq]
    simp [mem_idQuery_answer hscoped hanswer]
  · exact (FilterPlan.apply_memberships change).trans
      (Multiset.map_congr rfl fun row _ => FilterPlan.membershipUpdate_changed change row)
  · exact fun row name hname => MembershipChange.written_of_notMem row hname
  · exact fun table hne => FilterPlan.apply_of_ne change hne
  · intro hdrains
    have hnone : ∀ id, id ∉ plan.keptIds c after plan.joins := by
      intro id hid
      obtain ⟨artist, hartist, hselects, _⟩ := (FilterPlan.mem_keptIds hscoped id).mp hid
      have hartists : after Schema.artists.name = db Schema.artists.name :=
        FilterPlan.apply_of_ne change (by decide)
      exact FilterPlan.not_selects_drained hplan hdb hdrains (hartists ▸ hartist) hselects
    refine ⟨plan.idQuery.exists_isAnswer c after, ?_, ?_⟩
    · intro answer hanswer
      refine List.eq_nil_iff_forall_not_mem.mpr fun values hvalues => ?_
      obtain ⟨id, hid, _⟩ := (mem_idQuery_answer hscoped hanswer values).mp hvalues
      exact hnone id hid
    · intro again
      refine Multiset.filter_eq_nil.mpr fun row _ hselects => ?_
      obtain ⟨_, _, id, hid, _⟩ :=
        (FilterPlan.membershipUpdate_selects_iff hscoped again row).mp hselects
      exact hnone id hid

/-- Once the artists of a filter are muted, the filter finds none that are not. -/
theorem workingSet_changed_sample :
    ∃ plan, sample.planWithin "t" .standard sampleItems = .ok plan ∧
      IsInstance .plain (listedRows sampleRoster) ∧
      (MembershipChange.mute true).IsMadeWithin .standard ∧
      ∃ ids, sample.idsQuery plan [] = .ok ids ∧ ∀ answer, ids.IsAnswer .plain
        ((plan.membershipUpdate (.mute true)).apply .plain (listedRows sampleRoster)) answer →
          answer = [] := by
  obtain ⟨plan, hplan⟩ : ∃ plan, sample.planWithin "t" .standard sampleItems = .ok plan := ⟨_, rfl⟩
  have hmade : (MembershipChange.mute true).IsMadeWithin .standard := .mute true .hide
  obtain ⟨ids, hids, _, _, _, _, _, hdrained⟩ :=
    workingSet_changed hplan sampleRoster_isInstance hmade
  exact ⟨plan, hplan, sampleRoster_isInstance, hmade, ids, hids, (hdrained .mute).2.1⟩

end Compiler

end TenantGrid
