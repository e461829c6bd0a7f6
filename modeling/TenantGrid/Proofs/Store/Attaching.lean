import Mathlib.Data.List.Forall2
import Mathlib.Data.Option.Basic
import TenantGrid.Proofs.Filter.Steps
import TenantGrid.Store.Hydration
/-!
# Rows of an artist

A row of a relation goes to one part of the one artist whose id it begins with. It is added to what
this part shows, and every other part and every other artist stays as it is.
-/
namespace TenantGrid

variable {catalog : Catalog} {relation : Relation} {row : Row} {rows : List Row}
  {view view' : ArtistView}

/-- What is attached to an artist, by the rows that it comes from. -/
inductive ViewPart where
  | evaluation
  | evaluations
  | statistics
  | links
  | tags
  | memberships
  | users
  deriving DecidableEq

/-- The part that the rows of a relation are attached to. Rows of artists are attached to nothing. -/
def Relation.part? : Relation → Option ViewPart
  | .artists => none
  | .currentEvaluation => some .evaluation
  | .evaluationHistory => some .evaluations
  | .statistics | .statisticWindows => some .statistics
  | .links => some .links
  | .tags => some .tags
  | .memberships => some .memberships
  | .attributions => some .users

theorem Relation.part?_eq_none : relation.part? = none ↔ relation = .artists := by
  cases relation <;> simp [part?]

/-- Whether a row has the columns that its relation requires, and a document that is JSON if it has
one. -/
def Relation.Decodes (row : Row) : Relation → Prop
  | .artists | .links | .tags | .memberships | .attributions => True
  | .currentEvaluation | .evaluationHistory => (row.value 1).toInt?.isSome
  | .statistics | .statisticWindows =>
    (row.value 1).toInt?.isSome ∧ ∀ text, row.text? 10 = some text → (Json.ofText? text).isSome

/-- The label of a code. A missing code counts as zero. -/
def codeLabel (choices : List Choice) (code? : Option Int) : String :=
  ((ColumnType.choice choices).choiceLabel? (code?.getD 0)).getD "unknown"

/-- Whether a row, with the id of its artist before everything else, is one of this evaluation. -/
structure EvaluationView.IsOf (row : Row) (view : EvaluationView) : Prop where
  id : (row.value 1).toInt? = some view.id
  status : view.status = codeLabel Schema.evaluationStatus (row.int? 2)
  distributorType : view.distributorType = codeLabel Schema.distributorType (row.int? 3)
  distributor : view.distributor = row.text? 4
  label : view.label = row.text? 5
  backCatalog : view.backCatalog = codeLabel Schema.backCatalog (row.int? 6)
  createdAt : view.createdAt = row.timestamp? 7
  updatedAt : view.updatedAt = row.timestamp? 8

structure StatisticView.IsOf (catalog : Catalog) (row : Row) (view : StatisticView) : Prop where
  typeId : (row.value 1).toInt? = some view.typeId
  type : view.type = catalog.statisticType? view.typeId
  latest : view.latest = row.real? 2
  previous : view.previous = row.real? 3
  min : view.min = row.real? 4
  max : view.max = row.real? 5
  avg : view.avg = row.real? 6
  weekOverWeek : view.weekOverWeek = row.real? 7
  monthOverMonth : view.monthOverMonth = row.real? 8
  latestDate : view.latestDate = row.timestamp? 9
  data : view.data = row.text? 10 >>= Json.ofText?

structure LinkView.IsOf (row : Row) (view : LinkView) : Prop where
  source : view.source = row.text 2
  logo : view.logo = row.text? 3
  url : view.url = row.text 4

structure TagView.IsOf (row : Row) (view : TagView) : Prop where
  tag : view.tag = row.text 1
  type : view.type = row.int? 2 >>= TagType.ofId?

structure MembershipView.IsOf (row : Row) (view : MembershipView) : Prop where
  addedBy : view.addedBy = row.text? 1
  muted : view.muted = row.flag 2
  favorite : view.favorite = row.flag 3
  createdAt : view.createdAt = row.timestamp? 4
  lastPlaylistId : view.lastPlaylistId = row.text? 5

structure AttributionView.IsOf (row : Row) (view : AttributionView) : Prop where
  userId : view.userId = row.text 1
  createdAt : view.createdAt = row.timestamp? 2

/-- Whether an artist's own columns are those of a row. -/
structure ArtistView.IsOf (row : Row) (view : ArtistView) : Prop where
  id : (row.value 0).toUuid? = some view.id
  name : view.name = row.text? 1
  spotifyId : view.spotifyId = row.text? 2
  avatar : view.avatar = row.text? 3
  active : view.active = row.flag 4
  createdAt : view.createdAt = row.timestamp? 6
  updatedAt : view.updatedAt = row.timestamp? 7

/-- Whether a part of an artist is just what some rows say, in order. Of current evaluations it is the
last. -/
def ViewPart.Shows (catalog : Catalog) (rows : List Row) (view : ArtistView) : ViewPart → Prop
  | evaluation => Option.Rel EvaluationView.IsOf rows.getLast? view.evaluation
  | evaluations => List.Forall₂ EvaluationView.IsOf rows view.evaluations
  | statistics => List.Forall₂ (StatisticView.IsOf catalog) rows view.statistics
  | links => List.Forall₂ LinkView.IsOf rows view.links
  | tags => List.Forall₂ TagView.IsOf rows view.tags
  | memberships => List.Forall₂ MembershipView.IsOf rows view.memberships
  | users => List.Forall₂ AttributionView.IsOf rows view.users

private theorem EvaluationView.isOf_of_ofRow {view : EvaluationView} (h : ofRow row = .ok view) :
    view.IsOf row := by
  obtain ⟨id, hid, rfl⟩ := map_eq_ok h
  exact ⟨Row.requiredInt_eq_ok.mp hid, rfl, rfl, rfl, rfl, rfl, rfl, rfl⟩

private theorem StatisticView.isOf_of_ofRow {view : StatisticView}
    (h : ofRow catalog row = .ok view) : view.IsOf catalog row := by
  have hdata := data_of_ofRow h
  obtain ⟨typeId, htype, h⟩ := bind_eq_ok h
  obtain ⟨data, _, h⟩ := bind_eq_ok h
  obtain rfl := Except.ok.inj h
  exact ⟨Row.requiredInt_eq_ok.mp htype, rfl, rfl, rfl, rfl, rfl, rfl, rfl, rfl, rfl, hdata⟩

namespace ArtistView

theorem isOf_of_ofRow (h : ofRow row = .ok view) : view.IsOf row := by
  obtain ⟨id, hid, rfl⟩ := map_eq_ok h
  exact ⟨Row.uuid_eq_ok.mp hid, rfl, rfl, rfl, rfl, rfl, rfl⟩

theorem shows_nil_of_ofRow (h : ofRow row = .ok view) (part : ViewPart) :
    part.Shows catalog [] view := by
  obtain ⟨id, _, rfl⟩ := map_eq_ok h
  cases part with
  | evaluation => exact .none
  | evaluations | statistics | links | tags | memberships | users => exact .nil

/-- A row is attached if it decodes. -/
theorem exists_attach :
    (∃ view', view.attach catalog row relation = .ok view') ↔ relation.Decodes row := by
  cases relation with
  | artists | links | tags | memberships | attributions => exact ⟨fun _ => trivial, fun _ => ⟨_, rfl⟩⟩
  | currentEvaluation | evaluationHistory =>
    rw [Relation.Decodes, ← EvaluationView.exists_ofRow]
    unfold attach
    cases EvaluationView.ofRow row <;> simp [Except.map]
  | statistics | statisticWindows =>
    rw [Relation.Decodes, ← @StatisticView.exists_ofRow catalog]
    unfold attach
    cases StatisticView.ofRow catalog row <;> simp [Except.map]

/-- A row that is attached leaves the artist's own columns alone. -/
theorem attach_own (h : view.attach catalog row relation = .ok view') :
    view'.id = view.id ∧ ∀ own, view.IsOf own → view'.IsOf own := by
  cases relation with
  | artists | links | tags | memberships | attributions =>
    obtain rfl := Except.ok.inj h
    exact ⟨rfl, fun own hown => { hown with }⟩
  | currentEvaluation | evaluationHistory | statistics | statisticWindows =>
    obtain ⟨_, _, rfl⟩ := map_eq_ok h
    exact ⟨rfl, fun own hown => { hown with }⟩

/-- A row that is attached comes last in its part. -/
theorem attach_shows {part : ViewPart} (h : view.attach catalog row relation = .ok view')
    (hpart : relation.part? = some part) (hshows : part.Shows catalog rows view) :
    part.Shows catalog (rows ++ [row]) view' := by
  cases relation with
  | artists => exact nomatch hpart
  | currentEvaluation =>
    obtain rfl := Option.some.inj hpart
    obtain ⟨e, he, rfl⟩ := map_eq_ok h
    rw [ViewPart.Shows, List.getLast?_concat]
    exact .some (EvaluationView.isOf_of_ofRow he)
  | evaluationHistory =>
    obtain rfl := Option.some.inj hpart
    obtain ⟨e, he, rfl⟩ := map_eq_ok h
    exact List.rel_append hshows (.cons (EvaluationView.isOf_of_ofRow he) .nil)
  | statistics | statisticWindows =>
    obtain rfl := Option.some.inj hpart
    obtain ⟨s, hs, rfl⟩ := map_eq_ok h
    exact List.rel_append hshows (.cons (StatisticView.isOf_of_ofRow hs) .nil)
  | links =>
    obtain rfl := Option.some.inj hpart
    obtain rfl := Except.ok.inj h
    exact List.rel_append hshows (.cons ⟨rfl, rfl, rfl⟩ .nil)
  | tags =>
    obtain rfl := Option.some.inj hpart
    obtain rfl := Except.ok.inj h
    exact List.rel_append hshows (.cons ⟨rfl, rfl⟩ .nil)
  | memberships =>
    obtain rfl := Option.some.inj hpart
    obtain rfl := Except.ok.inj h
    exact List.rel_append hshows (.cons ⟨rfl, rfl, rfl, rfl, rfl⟩ .nil)
  | attributions =>
    obtain rfl := Option.some.inj hpart
    obtain rfl := Except.ok.inj h
    exact List.rel_append hshows (.cons ⟨rfl, rfl⟩ .nil)

/-- Every other part stays as it is. -/
theorem attach_frame {part : ViewPart} (h : view.attach catalog row relation = .ok view')
    (hpart : relation.part? ≠ some part) :
    part.Shows catalog rows view' ↔ part.Shows catalog rows view := by
  cases relation with
  | artists =>
    obtain rfl := Except.ok.inj h
    exact Iff.rfl
  | links | tags | memberships | attributions =>
    obtain rfl := Except.ok.inj h
    cases part <;> first | exact Iff.rfl | exact absurd rfl hpart
  | currentEvaluation | evaluationHistory | statistics | statisticWindows =>
    obtain ⟨_, _, rfl⟩ := map_eq_ok h
    cases part <;> first | exact Iff.rfl | exact absurd rfl hpart

end ArtistView

namespace Hydration

variable {views views' : List ArtistView} {id : Uuid}

/-- The artist with an id. -/
def ofId? (views : List ArtistView) (id : Uuid) : Option ArtistView :=
  views.find? fun view => view.id == id

theorem id_of_ofId? (h : ofId? views id = some view) : view.id = id := by
  simpa using List.find?_some h

private theorem ofId?_cons (view : ArtistView) (views : List ArtistView) (id : Uuid) :
    ofId? (view :: views) id = if view.id = id then some view else ofId? views id := by
  rw [ofId?, List.find?_cons]
  by_cases hid : view.id = id
  · simp [hid]
  · simp [hid, beq_false_of_ne hid, ofId?]

/-- An artist that is put in is found by its id, and the others as before. -/
theorem ofId?_put (view : ArtistView) (views : List ArtistView) (id : Uuid) :
    ofId? (put view views) id = if view.id = id then some view else ofId? views id := by
  induction views with
  | nil => exact ofId?_cons view [] id
  | cons other rest ih =>
    by_cases hother : other.id = view.id
    · rw [put, if_pos hother, ofId?_cons, ofId?_cons, hother]
      split <;> rfl
    · rw [put, if_neg hother, ofId?_cons, ofId?_cons, ih]
      by_cases hid : other.id = id
      · have hview : view.id ≠ id := fun h => hother (hid.trans h.symm)
        simp [hid, hview]
      · simp [hid]

/-- A row is attached to the artist with its id, and to no other. -/
theorem ofId?_attachTo (h : attachTo catalog relation row id views = .ok views') :
    Option.Rel (fun view view' => view.attach catalog row relation = .ok view') (ofId? views id)
        (ofId? views' id) ∧
      ∀ other ≠ id, ofId? views' other = ofId? views other := by
  induction views generalizing views' with
  | nil =>
    obtain rfl := Except.ok.inj h
    exact ⟨.none, fun _ _ => rfl⟩
  | cons view rest ih =>
    rw [attachTo] at h
    split at h
    · rename_i hid
      obtain ⟨view', hview', rfl⟩ := map_eq_ok h
      have hid' : view'.id = id := (ArtistView.attach_own hview').1.trans hid
      refine ⟨?_, fun other hother => ?_⟩
      · rw [ofId?_cons, ofId?_cons, if_pos hid, if_pos hid']
        exact .some hview'
      · rw [ofId?_cons, ofId?_cons, hid, hid', if_neg hother.symm, if_neg hother.symm]
    · rename_i hid
      obtain ⟨rest', hrest', rfl⟩ := map_eq_ok h
      obtain ⟨hown, hothers⟩ := ih hrest'
      refine ⟨?_, fun other hother => ?_⟩
      · rwa [ofId?_cons, ofId?_cons, if_neg hid, if_neg hid]
      · rw [ofId?_cons, ofId?_cons, hothers other hother]

/-- It fails to be attached only if that artist refuses it. -/
theorem attachTo_error {error : StoreError}
    (h : attachTo catalog relation row id views = .error error) :
    ∃ view, ofId? views id = some view ∧ view.attach catalog row relation = .error error := by
  induction views with
  | nil => exact nomatch h
  | cons view rest ih =>
    rw [attachTo] at h
    rw [ofId?_cons]
    split at h
    · rename_i hid
      rw [if_pos hid]
      exact ⟨view, rfl, map_eq_error.mp h⟩
    · rename_i hid
      rw [if_neg hid]
      exact ih (map_eq_error.mp h)

end Hydration

end TenantGrid
