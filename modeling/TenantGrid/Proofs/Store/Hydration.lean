import TenantGrid.Proofs.Store.Grouping
/-!
# What hydration makes of rows

The store is asked for one relation after another. Of the artists that its rows make, those come out
that were asked for, in the order of the ids and each once. Nothing else than a query that fails or a row
that cannot be read keeps them from coming out, and the place of the artists among the relations has no
part in it.
-/
namespace TenantGrid

namespace Hydration

variable {catalog : Catalog} {ids : List Uuid} {loaded : Loaded} {views : List ArtistView}

/-- Whether the artists are those of the ids, in the order in which the ids occur first, and each is
what its rows say. -/
structure IsHydration (catalog : Catalog) (ids : List Uuid) (entries : List Entry)
    (views : List ArtistView) : Prop where
  found : ∀ id, id ∈ views.map ArtistView.id ↔ id ∈ ids ∧ HasArtist entries id
  ordered : (views.map ArtistView.id).Pairwise fun a b => ids.idxOf a < ids.idxOf b
  exact : ∀ view ∈ views, IsViewOf catalog entries view

private theorem idxOf_lt_of_filter {p : Uuid → Bool} {a b : Uuid} (ha : p a = true)
    (hb : p b = true) {ids : List Uuid} (h : (ids.filter p).idxOf a < (ids.filter p).idxOf b) :
    ids.idxOf a < ids.idxOf b := by
  induction ids with
  | nil => exact h
  | cons id rest ih =>
    by_cases hid : p id = true
    · rw [List.filter_cons_of_pos hid] at h
      simp only [List.idxOf_cons, beq_iff_eq, Bool.cond_eq_ite] at h ⊢
      split at h <;> split at h <;> simp_all
    · rw [List.filter_cons_of_neg hid] at h
      have hne : ∀ c, p c = true → (id == c) = false :=
        fun c hc => beq_false_of_ne fun heq => hid (heq ▸ hc)
      simpa [List.idxOf_cons, hne a ha, hne b hb] using ih h

private theorem eraseDups_ordered (ids : List Uuid) :
    ids.eraseDups.Pairwise fun a b => ids.idxOf a < ids.idxOf b := by
  match ids with
  | [] => simp
  | id :: rest =>
    have hmem : ∀ other ∈ (rest.filter fun b => !b == id).eraseDups, other ≠ id := by
      intro other hother
      simpa using (List.mem_filter.mp (List.mem_eraseDups.mp hother)).2
    rw [List.eraseDups_cons, List.pairwise_cons]
    refine ⟨fun other hother => ?_, ?_⟩
    · have hne : (id == other) = false := beq_false_of_ne (hmem other hother).symm
      simp [List.idxOf_cons, hne]
    · refine (eraseDups_ordered (rest.filter fun b => !b == id)).imp_of_mem ?_
      intro a b ha hb hlt
      have ha' : (id == a) = false := beq_false_of_ne (hmem a ha).symm
      have hb' : (id == b) = false := beq_false_of_ne (hmem b hb).symm
      have hrest := idxOf_lt_of_filter (p := fun b => !b == id) (by simpa using hmem a ha)
        (by simpa using hmem b hb) hlt
      simpa [List.idxOf_cons, ha', hb'] using hrest
termination_by ids.length
decreasing_by
  exact Nat.lt_succ_of_le (List.length_filter_le _ _)

private theorem map_id_filterMap (ids : List Uuid) (views : List ArtistView) :
    (ids.filterMap (ofId? views)).map ArtistView.id = ids.filter fun id => (ofId? views id).isSome := by
  induction ids with
  | nil => rfl
  | cons id rest ih =>
    cases hview : ofId? views id with
    | none => simp [hview, ih]
    | some view => simp [hview, ih, id_of_ofId? hview]

private theorem assemble_isHydration (h : assemble catalog ids loaded = .ok views) :
    IsHydration catalog ids (entries loaded) views := by
  obtain ⟨all, hall, h⟩ := bind_eq_ok h
  have hviews : views = ids.eraseDups.filterMap (ofId? all) := (Except.ok.inj h).symm
  have hrepresents := represents_of_loaded hall
  subst hviews
  refine ⟨fun id => ?_, ?_, fun view hview => ?_⟩
  · rw [map_id_filterMap, List.mem_filter, List.mem_eraseDups, hrepresents.present]
  · rw [map_id_filterMap]
    exact (eraseDups_ordered ids).filter _
  · obtain ⟨id, _, hfound⟩ := List.mem_filterMap.mp hview
    exact hrepresents.exact id view hfound

private theorem assemble_fails_iff :
    (∃ error, assemble catalog ids loaded = .error error) ↔
      ∃ e ∈ entries loaded, Spoils (entries loaded) e := by
  rw [← loaded_fails_iff catalog]
  refine exists_congr fun error => bind_eq_error.trans ⟨?_, .inl⟩
  rintro (h | ⟨_, _, h⟩)
  · exact h
  · exact nomatch h

end Hydration

namespace Session

open Hydration (Loaded entries Spoils IsHydration)

variable {session : Session} {catalog : Catalog} {tenant : String} {ids : List Uuid}
  {relations : List Relation} {loaded : Loaded}

/-- The statement that loads a relation. -/
def relationStatement (session : Session) (tenant : String) (ids : List Uuid) (relation : Relation) :
    Sql.Statement :=
  (relation.query tenant ids).statement session.store.dialect

/-- What the store answers to the query of a relation once those of others have been sent. -/
def answerAfter (session : Session) (tenant : String) (ids : List Uuid) (before : List Relation)
    (relation : Relation) : Except StoreError (List Row) :=
  let asked := before.foldl (fun s r => s.sending (session.relationStatement tenant ids r)) session
  (asked.fetchRows (session.relationStatement tenant ids relation)).1

/-- Whether the store answers the query of each relation in turn with the rows that were loaded for
it. -/
structure Loads (session : Session) (tenant : String) (ids : List Uuid) (relations : List Relation)
    (loaded : Loaded) : Prop where
  relations_eq : loaded.map Prod.fst = relations
  answered : ∀ before relation rows after, loaded = before ++ (relation, rows) :: after →
    session.answerAfter tenant ids (before.map Prod.fst) relation = .ok rows

/-- Whether the query of some relation fails. -/
def FetchFails (session : Session) (tenant : String) (ids : List Uuid) (relations : List Relation) :
    Prop :=
  ∃ before relation after error, relations = before ++ relation :: after ∧
    session.answerAfter tenant ids before relation = .error error

private theorem answerAfter_cons (session : Session) (tenant : String) (ids : List Uuid)
    (r : Relation) (before : List Relation) (relation : Relation) :
    session.answerAfter tenant ids (r :: before) relation =
      (session.sending (session.relationStatement tenant ids r)).answerAfter tenant ids before relation :=
  rfl

private theorem fetchRelations_cons (session : Session) (tenant : String) (ids : List Uuid)
    (relation : Relation) (rest : List Relation) :
    (session.fetchRelations tenant ids (relation :: rest)).1 =
      (session.answerAfter tenant ids [] relation).bind fun rows =>
        ((session.sending (session.relationStatement tenant ids relation)).fetchRelations tenant ids
          rest).1.map ((relation, rows) :: ·) := by
  have hfetched : session.fetchRows ((relation.query tenant ids).statement session.store.dialect) =
      (session.answerAfter tenant ids [] relation,
        session.sending (session.relationStatement tenant ids relation)) := rfl
  rw [fetchRelations, hfetched]
  cases session.answerAfter tenant ids [] relation <;> rfl

private theorem loads_cons {relation : Relation} {rest : List Relation} {rows : List Row} :
    session.Loads tenant ids (relation :: rest) ((relation, rows) :: loaded) ↔
      session.answerAfter tenant ids [] relation = .ok rows ∧
        (session.sending (session.relationStatement tenant ids relation)).Loads tenant ids rest
          loaded := by
  constructor
  · rintro ⟨hrelations, h⟩
    refine ⟨h [] relation rows loaded rfl, (List.cons.inj hrelations).2, ?_⟩
    intro before r rs after heq
    rw [← answerAfter_cons]
    exact h ((relation, rows) :: before) r rs after (by simp [heq])
  · rintro ⟨hfirst, hrelations, hrest⟩
    refine ⟨by simp [hrelations], fun before r rs after heq => ?_⟩
    cases before with
    | nil =>
      obtain ⟨hhead, _⟩ := List.cons.inj heq
      obtain ⟨rfl, rfl⟩ := Prod.mk.inj hhead
      exact hfirst
    | cons l before =>
      obtain ⟨rfl, htail⟩ := List.cons.inj heq
      exact hrest before r rs after htail

private theorem fetchFails_cons {relation : Relation} {rest : List Relation} :
    session.FetchFails tenant ids (relation :: rest) ↔
      (∃ error, session.answerAfter tenant ids [] relation = .error error) ∨
        (session.sending (session.relationStatement tenant ids relation)).FetchFails tenant ids
          rest := by
  constructor
  · rintro ⟨before, r, after, error, heq, herror⟩
    cases before with
    | nil =>
      obtain ⟨rfl, _⟩ := List.cons.inj heq
      exact .inl ⟨error, herror⟩
    | cons l before =>
      obtain ⟨rfl, htail⟩ := List.cons.inj heq
      exact .inr ⟨before, r, after, error, htail, herror⟩
  · rintro (⟨error, herror⟩ | ⟨before, r, after, error, rfl, herror⟩)
    · exact ⟨[], relation, rest, error, rfl, herror⟩
    · exact ⟨relation :: before, r, after, error, rfl, herror⟩

private theorem fetchRelations_eq_ok :
    (session.fetchRelations tenant ids relations).1 = .ok loaded ↔
      session.Loads tenant ids relations loaded := by
  induction relations generalizing session loaded with
  | nil =>
    rw [fetchRelations]
    constructor
    · intro h
      obtain rfl := Except.ok.inj h
      exact ⟨rfl, fun before _ _ _ heq => by simp at heq⟩
    · rintro ⟨hrelations, _⟩
      rw [List.map_eq_nil_iff.mp hrelations]
  | cons relation rest ih =>
    rw [fetchRelations_cons]
    constructor
    · intro h
      obtain ⟨rows, hrows, h⟩ := bind_eq_ok h
      obtain ⟨more, hmore, rfl⟩ := map_eq_ok h
      exact loads_cons.mpr ⟨hrows, ih.mp hmore⟩
    · intro h
      cases loaded with
      | nil => exact nomatch h.relations_eq
      | cons l more =>
        obtain ⟨rfl, _⟩ := List.cons.inj h.relations_eq
        obtain ⟨hrows, hmore⟩ := loads_cons.mp h
        rw [hrows, Except.bind, ih.mpr hmore]
        rfl

private theorem fetchRelations_fails_iff :
    (∃ error, (session.fetchRelations tenant ids relations).1 = .error error) ↔
      session.FetchFails tenant ids relations := by
  induction relations generalizing session with
  | nil =>
    constructor
    · rintro ⟨error, herror⟩
      exact nomatch herror
    · rintro ⟨before, _, _, _, heq, _⟩
      simp at heq
  | cons relation rest ih =>
    rw [fetchRelations_cons, fetchFails_cons, ← ih]
    cases session.answerAfter tenant ids [] relation with
    | error e => simp [Except.bind]
    | ok rows => simp [Except.bind, map_eq_error]

private theorem hydrate_eq (session : Session) (catalog : Catalog) (tenant : String)
    (relations : List Relation) (hids : ids ≠ []) :
    (session.hydrate catalog tenant ids relations).1 =
      (session.fetchRelations tenant ids relations).1 >>= Hydration.assemble catalog ids := by
  have hempty : ids.isEmpty = false := by simpa using hids
  simp [hydrate, hempty]

private theorem hydrate_of_loads (hids : ids ≠ []) (h : session.Loads tenant ids relations loaded) :
    (session.hydrate catalog tenant ids relations).1 = Hydration.assemble catalog ids loaded := by
  rw [hydrate_eq session catalog tenant relations hids, fetchRelations_eq_ok.mpr h]
  rfl

/-- Hydration loses, repeats and misplaces nothing. If it succeeds, it returns the artists of the ids
that have a row of their own, in the order in which the ids occur first. Each has the columns of its last
row, and shows in each part just the rows of this part that begin with its id, in the order they were
loaded. It fails exactly if a query fails or a row spoils the others, by beginning with no id or by
lacking what its relation requires where its artist has a row. The place of the artists among the
relations does not change the result for the same rows. -/
theorem hydrate_exact (session : Session) (catalog : Catalog) (tenant : String)
    (relations : List Relation) (hids : ids ≠ []) :
    let result := (session.hydrate catalog tenant ids relations).1
    (∀ views, result = .ok views → ∃ loaded, session.Loads tenant ids relations loaded ∧
      IsHydration catalog ids (entries loaded) views) ∧
    ((∃ error, result = .error error) ↔
      session.FetchFails tenant ids relations ∨
        ∃ loaded, session.Loads tenant ids relations loaded ∧
          ∃ e ∈ entries loaded, Spoils (entries loaded) e) ∧
    ∀ (other : Session) (relations' : List Relation) (loaded loaded' : Loaded),
      session.Loads tenant ids relations loaded → other.Loads tenant ids relations' loaded' →
      loaded'.filter (fun l => l.1 = .artists) = loaded.filter (fun l => l.1 = .artists) →
      loaded'.filter (fun l => l.1 ≠ .artists) = loaded.filter (fun l => l.1 ≠ .artists) →
        (other.hydrate catalog tenant ids relations').1 = result := by
  intro result
  refine ⟨fun views hviews => ?_, ?_, ?_⟩
  · change (session.hydrate catalog tenant ids relations).1 = .ok views at hviews
    rw [hydrate_eq session catalog tenant relations hids] at hviews
    obtain ⟨loaded, hloaded, hassembled⟩ := bind_eq_ok hviews
    exact ⟨loaded, fetchRelations_eq_ok.mp hloaded, Hydration.assemble_isHydration hassembled⟩
  · change (∃ error, (session.hydrate catalog tenant ids relations).1 = .error error) ↔ _
    rw [hydrate_eq session catalog tenant relations hids]
    simp only [bind_eq_error, exists_or]
    refine or_congr fetchRelations_fails_iff ?_
    rw [exists_comm]
    refine exists_congr fun loaded => ?_
    rw [exists_and_left, fetchRelations_eq_ok, Hydration.assemble_fails_iff]
  · intro other relations' loaded loaded' hloads hloads' hartists hothers
    change _ = (session.hydrate catalog tenant ids relations).1
    rw [hydrate_of_loads hids hloads, hydrate_of_loads hids hloads']
    unfold Hydration.assemble Hydration.artistsFirst
    rw [hartists, hothers]

/-- The identifier that repeats the last hexadecimal digit of a number. -/
def sampleId (number : Nat) : Uuid where
  digits := List.replicate 32 ⟨number % 16, Nat.mod_lt number (by decide)⟩
  length_digits := List.length_replicate

def sampleMoment : Timestamp := .midnight ⟨2024, 5, 1, by decide⟩

/-- The rows of an artist in every relation, with an earlier row of its own and an earlier evaluation, and
a tag of an artist that has no row. -/
def sampleRows : List (Relation × List Row) :=
  let id := Sql.Value.uuid (sampleId 1)
  let moment := Sql.Value.timestamp sampleMoment
  [(.tags, [[.uuid (sampleId 2), .text "rock", .int 1], [id, .text "jazz", .int 1]]),
    (.currentEvaluation, [[id, .int 3], [id, .int 4, .int 2, .int 3, .text "d", .text "l", .int 1]]),
    (.evaluationHistory, [[id, .int 4, .int 2], [id, .int 3, .int 1, .null, .null, .null, .null, moment]]),
    (.statistics, [[id, .int 7, .real (.ofNat 9)]]),
    (.links, [[id, .int 1, .text "web", .null, .text "example.org"]]),
    (.memberships, [[id, .text "u", .bool false, .bool true, moment]]),
    (.attributions, [[id, .text "u", moment]]),
    (.artists, [[id, .text "old"],
      [id, .text "new", .text "s", .text "a", .bool true, .null, moment, moment]])]

/-- What these rows say of the artist. -/
def sampleView : ArtistView :=
  let evaluation : EvaluationView :=
    ⟨4, "signed", "major", some "d", some "l", "dirty", none, none⟩
  { id := sampleId 1, name := some "new", spotifyId := some "s", avatar := some "a", active := true
    evaluation := some evaluation
    statistics := [⟨7, none, some (.ofNat 9), none, none, none, none, none, none, none, none⟩]
    links := [⟨"web", none, "example.org"⟩]
    tags := [⟨"jazz", some .user⟩]
    memberships := [⟨some "u", false, true, some sampleMoment, none⟩]
    users := [⟨"u", some sampleMoment⟩]
    createdAt := some sampleMoment
    updatedAt := some sampleMoment
    evaluations := [⟨4, "signed", "unknown", none, none, "clean", none, none⟩,
      ⟨3, "unsigned", "unknown", none, none, "clean", some sampleMoment, none⟩] }

/-- Of two artists that are asked for, one is known. It comes out once, as its rows say. -/
theorem hydrate_exact_sample :
    let ids := [sampleId 2, sampleId 1, sampleId 1]
    let session : Session := { store := .ofReplies .sqlite (sampleRows.map fun l => .rows l.2) }
    ids ≠ [] ∧ ∃ views loaded,
      (session.hydrate {} "t" ids (sampleRows.map Prod.fst)).1 = .ok views ∧
        session.Loads "t" ids (sampleRows.map Prod.fst) loaded ∧
        IsHydration {} ids (entries loaded) views ∧ views = [sampleView] := by
  intro ids session
  have hids : ids ≠ [] := List.cons_ne_nil _ _
  have hviews : (session.hydrate {} "t" ids (sampleRows.map Prod.fst)).1 = .ok [sampleView] := rfl
  obtain ⟨loaded, hloads, hydration⟩ :=
    (hydrate_exact session {} "t" (sampleRows.map Prod.fst) hids).1 _ hviews
  exact ⟨hids, _, loaded, hviews, hloads, hydration, rfl⟩

end Session

end TenantGrid
