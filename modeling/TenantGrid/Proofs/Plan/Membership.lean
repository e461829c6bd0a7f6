import TenantGrid.Proofs.Plan.Change
/-!
# Rows that a membership filter reads

A filter on a membership column joins the tenant's rows in the scope's archive state, whatever their
mute state is. The scope's own test looks at the mute state as well, and the two can be passed by
different rows of one artist. They are passed by one and the same row as long as the rows of an artist
do not differ in what the scope asks of the mute state.
-/
namespace TenantGrid

open Sql (Collation Database Record Value)

namespace Compiler

variable {compiler : Compiler} {c : Collation} {db : Database} {tenant : String} {scope : Scope}
  {item : FilterItem} {plan : FilterPlan} {route : Route} {artist : Record}

/-- Whether a membership row meets an item by the column that its route names. -/
def MeetsRow (compiler : Compiler) (c : Collation) (item : FilterItem) (row : Record) : Route → Prop
  | .membership column => compiler.Passes c item column.type false (row column.name)
  | .attribution column => compiler.PassesAttribution c item column.type (row column.name)
  | _ => False

private theorem meets_membership (htarget : route.joinTarget? = some .membership)
    (archived : Bool) :
    compiler.Meets c item db tenant archived artist route ↔
      ∃ row ∈ membershipRows c db tenant artist archived, compiler.MeetsRow c item row route := by
  cases route with
  | membership column | attribution column => exact Iff.rfl
  | artist column | statistic typeId metric | evaluation column | tags type | users =>
    simp [Route.joinTarget?] at htarget

private theorem contributes_of_predicates
    (hplan : compiler.planWithin tenant scope [item] = .ok plan)
    (hroute : compiler.catalog.route item.field = .ok route) (hput : plan.predicates ≠ []) :
    compiler.Contributes item tenant route := by
  have hstep : compiler.addItem { tenant, scope } item = .ok plan := by
    rw [planWithin, List.foldlM_cons] at hplan
    obtain ⟨after, hafter, hrest⟩ := bind_eq_ok hplan
    have heq : after = plan := by simpa [pure, Except.pure] using hrest
    rwa [heq] at hafter
  obtain ⟨found, hfound, ⟨_, hsame⟩ | ⟨e, he, _⟩⟩ := addItem_cases hstep
  · rw [hsame] at hput
    exact absurd rfl hput
  · have heq : found = route := Except.ok.inj (hfound.symm.trans hroute)
    rw [heq] at he
    exact (contributes_iff item tenant [] route).mpr ⟨e, he⟩

private theorem membershipFilter_selects
    (hplan : compiler.planWithin tenant scope [item] = .ok plan)
    (hroute : compiler.catalog.route item.field = .ok route)
    (htarget : route.joinTarget? = some .membership) (hput : plan.predicates ≠ [])
    (hdb : IsInstance c db) (artist : Record) :
    plan.Selects c db artist ↔
      (∃ row ∈ membershipRows c db tenant artist scope.isArchived, scope.ShowsMuted row) ∧
        ∃ row ∈ membershipRows c db tenant artist scope.isArchived,
          compiler.MeetsRow c item row route := by
  have hcontributes := contributes_of_predicates hplan hroute hput
  rw [planWithin_selects hplan hdb, ← meets_membership htarget]
  simp [Scope.Shows, hroute, hcontributes]

private theorem id_mem_answer (hplan : plan.IsScoped) (hdb : IsInstance c db)
    (hartist : artist ∈ db Schema.artists.name) {answer : List (List Value)}
    (hanswer : plan.idQuery.IsAnswer c db answer) :
    [artist "id"] ∈ answer ↔ plan.Selects c db artist := by
  rw [mem_idQuery_answer hplan hanswer]
  simp only [FilterPlan.mem_keptIds hplan]
  constructor
  · rintro ⟨id, ⟨other, hother, hselects, hid⟩, hsame⟩
    have hnull : other "id" ≠ .null := (FilterPlan.shows_of_selects hselects).id_ne_null
    have heq : artist "id" = other "id" := by simpa [hid] using hsame
    have hids : c.Same (artist "id") (other "id") := ⟨heq ▸ hnull, hnull, by rw [heq]⟩
    rwa [hdb.artist_unique hartist hother hids]
  · intro hselects
    exact ⟨artist "id", ⟨artist, hartist, hselects, rfl⟩, rfl⟩

/-- The membership row of the sample artist for the user who added it. -/
def addedBy (user : String) (muted favorite : Bool) : Record :=
  rowOf [("organization_id", .text "t"), ("artist_id", .text "a"), ("added_by", .text user),
    ("muted", .bool muted), ("archived", .bool false), ("favorite", .bool favorite)]

/-- The sample, where a second user has muted the favorite of the first. -/
def addedTwice : Database :=
  fun table => if table = Schema.memberships.name then
      {addedBy "u" false true, addedBy "v" true false}
    else singleRows sampleRow? table

def notFavorite : FilterItem :=
  ⟨"organization.favorite", "equals", .bool false⟩

private theorem notFavorite_route : sample.catalog.route notFavorite.field =
    .ok (.membership (.flag "favorite" false)) :=
  rfl

private theorem notFavorite_meetsRow (c : Collation) (row : Record) :
    sample.MeetsRow c notFavorite row (.membership (.flag "favorite" false)) ↔
      row "favorite" = .bool false := by
  have hop : Operator.ofName? notFavorite.operator = some .equals := by decide
  have hput : ({ field := notFavorite.field, column := .param (row "favorite"), type := .bool } :
      Subject).predicate sample.escapeNegated .equals notFavorite.value =
        .ok (some ((Sql.Expr.param (row "favorite")).eq (.param (.bool false)))) := rfl
  have haccepts : sample.Accepts c notFavorite .bool false .equals (row "favorite") ↔
      row "favorite" = .bool false := by
    unfold Accepts
    rw [hput]
    simp [Sql.Expr.holds_eq, Collation.same_bool_iff]
  change (∃ op, Operator.ofName? notFavorite.operator = some op ∧
    sample.Accepts c notFavorite .bool false op (row "favorite")) ↔ _
  simp [hop, haccepts]

private theorem card_filter_pair_le_one {p : Record → Prop} [DecidablePred p] {row other : Record}
    (h : ¬ (p row ∧ p other)) : (({row, other} : Multiset Record).filter p).card ≤ 1 := by
  by_cases hrow : p row
  · have hother : ¬ p other := fun hother => h ⟨hrow, hother⟩
    have hrest : ({other} : Multiset Record).filter p = 0 := by simp [Multiset.filter_singleton, hother]
    rw [Multiset.insert_eq_cons, Multiset.filter_cons_of_pos _ hrow, hrest]
    simp
  · rw [Multiset.insert_eq_cons, Multiset.filter_cons_of_neg _ hrow]
    exact (Multiset.card_le_card (Multiset.filter_le _ _)).trans (by simp)

private theorem addedTwice_isInstance (c : Collation) : IsInstance c addedTwice := by
  have hsample := sample_isInstance c
  intro t ht
  by_cases htable : t.name = Schema.memberships.name
  · have hmemberships : t = Schema.memberships := by
      revert t
      decide
    subst hmemberships
    have hrows : addedTwice Schema.memberships.name =
        {addedBy "u" false true, addedBy "v" true false} := by
      simp [addedTwice]
    rw [hrows]
    constructor
    · intro row hrow column hcolumn hrequired
      have hnull : ∀ row ∈ [addedBy "u" false true, addedBy "v" true false],
          ∀ column ∈ Schema.memberships.columns,
            column.notNull = true ∨ column.name ∈ Schema.memberships.primaryKey →
              row column.name ≠ .null := by
        decide
      exact hnull row (by simpa using hrow) column hcolumn hrequired
    · intro key hkey model
      have huser : ∀ key ∈ Schema.memberships.keys, "added_by" ∈ key := by decide
      have hadded := huser key hkey
      -- The rows were added by two users, and every key of the table tells users apart.
      have hone : ¬ ((∀ name ∈ key, c.Same (addedBy "u" false true name) (model name)) ∧
          ∀ name ∈ key, c.Same (addedBy "v" true false name) (model name)) := by
        rintro ⟨hfirst, hsecond⟩
        have hsame : c.Same (.text "u") (.text "v") :=
          (hfirst "added_by" hadded).trans (hsecond "added_by" hadded).symm
        rw [Collation.same_text_iff] at hsame
        simp at hsame
      exact card_filter_pair_le_one hone
  · have hsame : addedTwice t.name = singleRows sampleRow? t.name := by
      simp [addedTwice, htable]
    rw [hsame]
    exact hsample t ht

def addedArtist : Record :=
  rowOf [("id", .text "a"), ("active", .bool true)]

private theorem addedArtist_mem : addedArtist ∈ addedTwice Schema.artists.name := by
  have hrows : addedTwice Schema.artists.name = {addedArtist} := rfl
  simp [hrows]

private theorem exists_notFavorite_plan :
    ∃ plan, sample.planWithin "t" .standard [notFavorite] = .ok plan ∧ plan.predicates ≠ [] :=
  ⟨_, rfl, by simp⟩

private theorem mem_addedTwice_rows {artist : Record} (hartist : artist "id" = .text "a")
    (row : Record) :
    row ∈ membershipRows .plain addedTwice "t" artist false ↔
      row = addedBy "u" false true ∨ row = addedBy "v" true false := by
  have hrows : addedTwice Schema.memberships.name =
      {addedBy "u" false true, addedBy "v" true false} := by
    simp [addedTwice]
  unfold membershipRows
  rw [hrows, hartist, Multiset.mem_filter]
  constructor
  · rintro ⟨hrow, _⟩
    simpa using hrow
  · intro hrow
    refine ⟨by simpa using hrow, ?_⟩
    rcases hrow with rfl | rfl <;>
      simp only [Collation.same_text_iff] <;> decide

/-- What a filter on a membership column selects, read off the tenant's rows of an artist in the
scope's archive state: some row is in the mute state that the scope asks for, and some row, which may
be another one, meets the item. A row that is both is enough. It is also needed where these rows agree
in what the scope asks, as they do under every scope that asks for no mute state. -/
theorem membershipFilter_answers (hplan : compiler.planWithin tenant scope [item] = .ok plan)
    (hroute : compiler.catalog.route item.field = .ok route)
    (htarget : route.joinTarget? = some .membership) (hput : plan.predicates ≠ [])
    (hdb : IsInstance c db) :
    ∃ query, compiler.idsQuery plan [] = .ok query ∧ (∃ answer, query.IsAnswer c db answer) ∧
      ∀ answer, query.IsAnswer c db answer → ∀ artist ∈ db Schema.artists.name,
        let rows := membershipRows c db tenant artist scope.isArchived
        ([artist "id"] ∈ answer ↔
          (∃ row ∈ rows, scope.ShowsMuted row) ∧ ∃ row ∈ rows, compiler.MeetsRow c item row route) ∧
        ((∃ row ∈ rows, scope.ShowsMuted row ∧ compiler.MeetsRow c item row route) →
          [artist "id"] ∈ answer) ∧
        ((∀ row ∈ rows, ∀ other ∈ rows, scope.ShowsMuted row → scope.ShowsMuted other) →
          ([artist "id"] ∈ answer ↔
            ∃ row ∈ rows, scope.ShowsMuted row ∧ compiler.MeetsRow c item row route)) := by
  refine ⟨plan.idQuery, rfl, plan.idQuery.exists_isAnswer c db, ?_⟩
  intro answer hanswer artist hartist rows
  have hselected : [artist "id"] ∈ answer ↔
      (∃ row ∈ rows, scope.ShowsMuted row) ∧ ∃ row ∈ rows, compiler.MeetsRow c item row route := by
    rw [id_mem_answer (planWithin_isScoped hplan) hdb hartist hanswer]
    exact membershipFilter_selects hplan hroute htarget hput hdb artist
  have hone : (∃ row ∈ rows, scope.ShowsMuted row ∧ compiler.MeetsRow c item row route) →
      [artist "id"] ∈ answer := by
    rintro ⟨row, hrow, hshown, hmeets⟩
    exact hselected.mpr ⟨⟨row, hrow, hshown⟩, row, hrow, hmeets⟩
  refine ⟨hselected, hone, fun hagree => ⟨fun hanswered => ?_, hone⟩⟩
  obtain ⟨⟨row, hrow, hshown⟩, other, hother, hmeets⟩ := hselected.mp hanswered
  exact ⟨other, hother, hagree row hrow other hother hshown, hmeets⟩

/-- On the sample, where each of two rows passes one of the two tests. -/
theorem membershipFilter_answers_sample :
    ∃ plan query, sample.planWithin "t" .standard [notFavorite] = .ok plan ∧
      sample.catalog.route notFavorite.field = .ok (.membership (.flag "favorite" false)) ∧
      (Route.membership (.flag "favorite" false)).joinTarget? = some .membership ∧
      plan.predicates ≠ [] ∧ IsInstance .plain addedTwice ∧ sample.idsQuery plan [] = .ok query ∧
      ∀ answer, query.IsAnswer .plain addedTwice answer →
        ∀ artist ∈ addedTwice Schema.artists.name,
          let rows := membershipRows .plain addedTwice "t" artist false
          ([artist "id"] ∈ answer ↔ (∃ row ∈ rows, row "muted" = .bool false) ∧
            ∃ row ∈ rows, row "favorite" = .bool false) := by
  obtain ⟨plan, hplan, hput⟩ := exists_notFavorite_plan
  have hdb := addedTwice_isInstance .plain
  obtain ⟨query, hquery, _, hanswers⟩ :=
    membershipFilter_answers hplan notFavorite_route rfl hput hdb
  refine ⟨plan, query, hplan, notFavorite_route, rfl, hput, hdb, hquery, ?_⟩
  intro answer hanswer artist hartist rows
  have hselected := (hanswers answer hanswer artist hartist).1
  simp only [notFavorite_meetsRow] at hselected
  exact hselected

/-- The artist of the sample is found, among those that are not muted, as no favorite, although no row
of it is both. -/
theorem notFavorite_by_two_rows :
    ∃ plan query, sample.planWithin "t" .standard [notFavorite] = .ok plan ∧
      plan.predicates ≠ [] ∧ sample.idsQuery plan [] = .ok query ∧
      IsInstance .plain addedTwice ∧ (∃ answer, query.IsAnswer .plain addedTwice answer) ∧
      ∃ artist ∈ addedTwice Schema.artists.name,
        (∀ answer, query.IsAnswer .plain addedTwice answer → [artist "id"] ∈ answer) ∧
        ¬ ∃ row ∈ membershipRows .plain addedTwice "t" artist Scope.standard.isArchived,
          Scope.standard.ShowsMuted row ∧
            sample.MeetsRow .plain notFavorite row (.membership (.flag "favorite" false)) := by
  obtain ⟨plan, hplan, hput⟩ := exists_notFavorite_plan
  have hdb := addedTwice_isInstance .plain
  have hfirst : addedBy "u" false true ∈ membershipRows .plain addedTwice "t" addedArtist false :=
    (mem_addedTwice_rows rfl _).mpr (Or.inl rfl)
  have hsecond : addedBy "v" true false ∈ membershipRows .plain addedTwice "t" addedArtist false :=
    (mem_addedTwice_rows rfl _).mpr (Or.inr rfl)
  refine ⟨plan, plan.idQuery, hplan, hput, rfl, hdb, plan.idQuery.exists_isAnswer .plain addedTwice,
    addedArtist, addedArtist_mem, ?_, ?_⟩
  · intro answer hanswer
    rw [id_mem_answer (planWithin_isScoped hplan) hdb addedArtist_mem hanswer,
      membershipFilter_selects hplan notFavorite_route rfl hput hdb]
    simp only [notFavorite_meetsRow]
    exact ⟨⟨_, hfirst, rfl⟩, _, hsecond, rfl⟩
  · rintro ⟨row, hrow, hshown, hmeets⟩
    rw [notFavorite_meetsRow] at hmeets
    rcases (mem_addedTwice_rows rfl row).mp hrow with rfl | rfl
    · exact absurd hmeets (by decide)
    · exact absurd hshown (by change ¬ addedBy "v" true false "muted" = .bool false; decide)

end Compiler

end TenantGrid
