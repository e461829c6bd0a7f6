import TenantGrid.Proofs.Store.Attaching
/-!
# Rows by artist

Every row goes to the artist whose id it begins with, in the order the rows were loaded. A run over the
rows takes those of artists first, wherever their relation stands, so that every other row finds the
artist that it is for.
-/
namespace TenantGrid

/-- The id that a row begins with. -/
def Row.leadingId? (row : Row) : Option Uuid :=
  (row.value 0).toUuid?

namespace Hydration

/-- A row with its relation. -/
abbrev Entry := Relation × Row

/-- The rows that were loaded, in order. -/
def entries (loaded : Loaded) : List Entry :=
  loaded.flatMap fun l => l.2.map (l.1, ·)

/-- The rows of a part of an artist in order, or those of the artist itself. -/
def rowsOf (entries : List Entry) (part : Option ViewPart) (id : Uuid) : List Row :=
  (entries.filter fun e => e.1.part? = part ∧ e.2.leadingId? = some id).map Prod.snd

/-- Whether there is a row of the artist itself. -/
def HasArtist (entries : List Entry) (id : Uuid) : Prop :=
  rowsOf entries none id ≠ []

/-- Whether an artist is what its rows say: its own columns are those of its last row, and each part
shows the rows of this part. -/
structure IsViewOf (catalog : Catalog) (entries : List Entry) (view : ArtistView) : Prop where
  own : ∃ row, (rowsOf entries none view.id).getLast? = some row ∧ view.IsOf row
  parts : ∀ part : ViewPart, part.Shows catalog (rowsOf entries (some part) view.id) view

/-- Whether a row keeps the rows from being read: it begins with no id, or there is a row of its artist
and it lacks what its relation requires. -/
def Spoils (entries : List Entry) (e : Entry) : Prop :=
  e.2.leadingId? = none ∨
    ∃ id, e.2.leadingId? = some id ∧ HasArtist entries id ∧ ¬ e.1.Decodes e.2

variable {catalog : Catalog} {relation : Relation} {row : Row} {id : Uuid} {part : Option ViewPart}
  {done : List Entry} {views views' : List ArtistView}

private theorem rowsOf_append (before after : List Entry) (part : Option ViewPart) (id : Uuid) :
    rowsOf (before ++ after) part id = rowsOf before part id ++ rowsOf after part id := by
  simp [rowsOf]

private theorem rowsOf_snoc_self (done : List Entry) (h : row.leadingId? = some id) :
    rowsOf (done ++ [(relation, row)]) relation.part? id = rowsOf done relation.part? id ++ [row] := by
  simp [rowsOf, h]

private theorem rowsOf_snoc_ne (done : List Entry)
    (h : relation.part? ≠ part ∨ row.leadingId? ≠ some id) :
    rowsOf (done ++ [(relation, row)]) part id = rowsOf done part id := by
  have hdrop : ¬ (relation.part? = part ∧ row.leadingId? = some id) := by tauto
  simp [rowsOf, hdrop]

private theorem HasArtist.append {before : List Entry} (h : HasArtist before id)
    (after : List Entry) : HasArtist (before ++ after) id := by
  unfold HasArtist at h ⊢
  rw [rowsOf_append]
  exact List.append_ne_nil_of_left_ne_nil h _

private theorem hasArtist_snoc_of_ne (hrelation : relation ≠ .artists) :
    HasArtist (done ++ [(relation, row)]) id ↔ HasArtist done id := by
  have hpart : relation.part? ≠ none := mt Relation.part?_eq_none.mp hrelation
  rw [HasArtist, rowsOf_snoc_ne done (.inl hpart), HasArtist]

private theorem Spoils.mono {before after : List Entry} {e : Entry}
    (hartists : ∀ id, HasArtist before id → HasArtist after id) (h : Spoils before e) :
    Spoils after e := by
  rcases h with h | ⟨id, hid, hartist, hdecodes⟩
  · exact .inl h
  · exact .inr ⟨id, hid, hartists id hartist, hdecodes⟩

private theorem IsViewOf.congr {before after : List Entry} {view : ArtistView}
    (hrows : ∀ part, rowsOf after part view.id = rowsOf before part view.id)
    (h : IsViewOf catalog before view) : IsViewOf catalog after view := by
  refine ⟨?_, fun part => ?_⟩
  · rw [hrows]
    exact h.own
  · rw [hrows]
    exact h.parts part

/-- Whether there is an artist for each id that has a row of its own, and it is what its rows say. -/
structure Represents (catalog : Catalog) (done : List Entry) (views : List ArtistView) : Prop where
  present : ∀ id, (ofId? views id).isSome ↔ HasArtist done id
  exact : ∀ id view, ofId? views id = some view → IsViewOf catalog done view

/-- Whether no row of an artist comes after other rows. -/
def ArtistsLead (entries : List Entry) : Prop :=
  entries.Pairwise fun d e => e.1 = .artists → d.1 = .artists

private theorem Represents.start : Represents catalog [] [] :=
  ⟨fun _ => by simp [ofId?, HasArtist, rowsOf], fun _ _ h => nomatch h⟩

private theorem leadingId?_of_ofRow {view : ArtistView} (h : ArtistView.ofRow row = .ok view) :
    row.leadingId? = some view.id := by
  exact (ArtistView.isOf_of_ofRow h).id

private theorem rowsOf_of_artists (hlead : ∀ d ∈ done, d.1 = .artists) (part : ViewPart)
    (id : Uuid) : rowsOf done (some part) id = [] := by
  rw [rowsOf, List.map_eq_nil_iff, List.filter_eq_nil_iff]
  intro d hd
  simp [hlead d hd, Relation.part?]

private theorem IsViewOf.of_ofRow {view : ArtistView} (hlead : ∀ d ∈ done, d.1 = .artists)
    (hview : ArtistView.ofRow row = .ok view) :
    IsViewOf catalog (done ++ [(.artists, row)]) view := by
  have hrows : rowsOf (done ++ [(.artists, row)]) none view.id = rowsOf done none view.id ++ [row] :=
    rowsOf_snoc_self done (leadingId?_of_ofRow hview)
  constructor
  · exact ⟨row, by rw [hrows, List.getLast?_concat], ArtistView.isOf_of_ofRow hview⟩
  · intro part
    rw [rowsOf_snoc_ne done (.inl (by simp [Relation.part?])), rowsOf_of_artists hlead]
    exact ArtistView.shows_nil_of_ofRow hview part

private theorem Represents.put {view : ArtistView} (h : Represents catalog done views)
    (hlead : ∀ d ∈ done, d.1 = .artists) (hview : ArtistView.ofRow row = .ok view) :
    Represents catalog (done ++ [(.artists, row)]) (put view views) := by
  have hid := leadingId?_of_ofRow hview
  have hothers : ∀ id, view.id ≠ id → ∀ part,
      rowsOf (done ++ [(.artists, row)]) part id = rowsOf done part id := by
    intro id hne part
    refine rowsOf_snoc_ne done (.inr fun heq => hne ?_)
    exact Option.some.inj (hid.symm.trans heq)
  constructor
  · intro id
    rw [ofId?_put]
    by_cases hview : view.id = id
    · have hrows : rowsOf (done ++ [(.artists, row)]) none id = rowsOf done none id ++ [row] :=
        rowsOf_snoc_self done (hview ▸ hid)
      simp [HasArtist, hview, hrows]
    · rw [if_neg hview, h.present id, HasArtist, HasArtist, hothers id hview]
  · intro id found hfound
    rw [ofId?_put] at hfound
    split at hfound
    · obtain rfl := Option.some.inj hfound
      exact .of_ofRow hlead hview
    · rename_i hne
      have hfoundId := id_of_ofId? hfound
      exact (h.exact id found hfound).congr (hfoundId ▸ hothers id hne)

private theorem IsViewOf.attach {view view' : ArtistView} (h : IsViewOf catalog done view)
    (hrelation : relation ≠ .artists) (hid : row.leadingId? = some view.id)
    (hattach : view.attach catalog row relation = .ok view') :
    IsViewOf catalog (done ++ [(relation, row)]) view' := by
  have hpart : relation.part? ≠ none := mt Relation.part?_eq_none.mp hrelation
  obtain ⟨hsame, hkeeps⟩ := ArtistView.attach_own hattach
  constructor
  · obtain ⟨own, hlast, hcolumns⟩ := h.own
    rw [hsame, rowsOf_snoc_ne done (.inl hpart)]
    exact ⟨own, hlast, hkeeps own hcolumns⟩
  · intro part
    rw [hsame]
    by_cases hown : relation.part? = some part
    · rw [← hown, rowsOf_snoc_self done hid]
      exact ArtistView.attach_shows hattach hown (hown ▸ h.parts part)
    · rw [rowsOf_snoc_ne done (.inl hown), ArtistView.attach_frame hattach hown]
      exact h.parts part

private theorem Represents.attach (h : Represents catalog done views)
    (hrelation : relation ≠ .artists) (hid : row.leadingId? = some id)
    (hattach : attachTo catalog relation row id views = .ok views') :
    Represents catalog (done ++ [(relation, row)]) views' := by
  obtain ⟨hown, hothers⟩ := ofId?_attachTo hattach
  constructor
  · intro other
    rw [hasArtist_snoc_of_ne hrelation, ← h.present other]
    by_cases hother : other = id
    · rw [hother]
      generalize ofId? views id = before at hown ⊢
      generalize ofId? views' id = after at hown ⊢
      cases hown <;> simp
    · rw [hothers other hother]
  · intro other found hfound
    by_cases hother : other = id
    · rw [hother] at hfound
      rw [hfound] at hown
      cases hview : ofId? views id with
      | none => rw [hview] at hown; exact nomatch hown
      | some view =>
        rw [hview] at hown
        have hattached : view.attach catalog row relation = .ok found := by simpa using hown
        have hviewId := id_of_ofId? hview
        exact (h.exact id view hview).attach hrelation (hviewId ▸ hid) hattached
    · rw [hothers other hother] at hfound
      have hfoundId := id_of_ofId? hfound
      refine (h.exact other found hfound).congr fun part => rowsOf_snoc_ne done (.inr ?_)
      rw [hid, hfoundId]
      exact fun heq => hother (Option.some.inj heq).symm

private theorem not_spoils_of_addRow (h : Represents catalog done views)
    (hadd : addRow catalog relation views row = .ok views') :
    ¬ Spoils (done ++ [(relation, row)]) (relation, row) := by
  unfold addRow at hadd
  split at hadd
  · rename_i hrelation
    obtain ⟨view, hview, _⟩ := map_eq_ok hadd
    rintro (hnone | ⟨_, _, _, hdecodes⟩)
    · exact nomatch (leadingId?_of_ofRow hview).symm.trans hnone
    · exact hdecodes (hrelation ▸ trivial)
  · rename_i hrelation
    obtain ⟨id, hid, hattach⟩ := bind_eq_ok hadd
    have hlead : row.leadingId? = some id := Row.uuid_eq_ok.mp hid
    rintro (hnone | ⟨other, hother, hartist, hdecodes⟩)
    · exact nomatch hlead.symm.trans hnone
    · obtain rfl := Option.some.inj (hlead.symm.trans hother)
      rw [hasArtist_snoc_of_ne hrelation, ← h.present id] at hartist
      obtain ⟨view, hview⟩ := Option.isSome_iff_exists.mp hartist
      obtain ⟨hown, _⟩ := ofId?_attachTo hattach
      rw [hview] at hown
      generalize ofId? views' id = after at hown
      cases hown with
      | some hattached => exact hdecodes (ArtistView.exists_attach.mp ⟨_, hattached⟩)

private theorem spoils_of_addRow_error {error : StoreError} (h : Represents catalog done views)
    (hadd : addRow catalog relation views row = .error error) : Spoils done (relation, row) := by
  cases hlead : row.leadingId? with
  | none => exact .inl hlead
  | some id =>
    have hid : row.uuid 0 = .ok id := Row.uuid_eq_ok.mpr hlead
    unfold addRow at hadd
    split at hadd
    · rw [ArtistView.ofRow, hid] at hadd
      exact nomatch hadd
    · rw [hid] at hadd
      obtain ⟨view, hview, hattach⟩ := attachTo_error hadd
      refine .inr ⟨id, hlead, (h.present id).mp (by simp [hview]), fun hdecodes => ?_⟩
      obtain ⟨view', hview'⟩ := ArtistView.exists_attach.mpr hdecodes
      exact nomatch hattach.symm.trans hview'

/-- The artists with the row of an entry added. -/
def addEntry (catalog : Catalog) (views : List ArtistView) (e : Entry) :
    Except StoreError (List ArtistView) :=
  addRow catalog e.1 views e.2

private theorem addEntry_represents {e : Entry} (h : Represents catalog done views)
    (hlead : e.1 = .artists → ∀ d ∈ done, d.1 = .artists)
    (hadd : addEntry catalog views e = .ok views') : Represents catalog (done ++ [e]) views' := by
  obtain ⟨relation, row⟩ := e
  unfold addEntry addRow at hadd
  split at hadd
  · rename_i hrelation
    obtain ⟨view, hview, rfl⟩ := map_eq_ok hadd
    simp only at hrelation
    subst hrelation
    exact h.put (hlead rfl) hview
  · rename_i hrelation
    obtain ⟨id, hid, hattach⟩ := bind_eq_ok hadd
    exact h.attach hrelation (Row.uuid_eq_ok.mp hid) hattach

private theorem not_spoils_snoc {d e : Entry} (hlead : e.1 = .artists → d.1 = .artists)
    (h : ¬ Spoils done d) : ¬ Spoils (done ++ [e]) d := by
  rintro (hnone | ⟨id, hid, hartist, hdecodes⟩)
  · exact h (.inl hnone)
  · by_cases hrelation : e.1 = .artists
    · exact hdecodes (hlead hrelation ▸ trivial)
    · exact h (.inr ⟨id, hid, (hasArtist_snoc_of_ne hrelation).mp hartist, hdecodes⟩)

private theorem represents_of_run {all : List Entry} (hlead : ArtistsLead all)
    (h : all.foldlM (addEntry catalog) [] = .ok views) :
    Represents catalog all views ∧ ∀ e ∈ all, ¬ Spoils all e := by
  -- That the artists lead is assumed of what was done so far, since the induction knows no more of it.
  refine foldlM_induction
    (motive := fun done views => ArtistsLead done →
      Represents catalog done views ∧ ∀ e ∈ done, ¬ Spoils done e)
    (fun _ => ⟨.start, by simp⟩) ?_ h hlead
  intro done e views views' ih hadd hlead
  obtain ⟨hdone, _, hbefore⟩ := List.pairwise_append.mp hlead
  obtain ⟨hrepresents, hclean⟩ := ih hdone
  refine ⟨addEntry_represents hrepresents (fun he d hd => hbefore d hd e (by simp) he) hadd, ?_⟩
  intro d hd
  rcases List.mem_append.mp hd with hd | hd
  · exact not_spoils_snoc (hbefore d hd e (by simp)) (hclean d hd)
  · obtain rfl := List.mem_singleton.mp hd
    exact not_spoils_of_addRow hrepresents hadd

private theorem run_fails_iff {all : List Entry} (hlead : ArtistsLead all) :
    (∃ error, all.foldlM (addEntry catalog) [] = .error error) ↔ ∃ e ∈ all, Spoils all e := by
  constructor
  · rintro ⟨error, herror⟩
    obtain ⟨before, e, after, views, rfl, hbefore, hadd⟩ := foldlM_eq_error.mp herror
    have hrepresents := (represents_of_run (List.pairwise_append.mp hlead).1 hbefore).1
    refine ⟨e, by simp, (spoils_of_addRow_error hrepresents hadd).mono fun id => ?_⟩
    exact fun hartist => hartist.append _
  · rintro ⟨e, he, hspoils⟩
    cases hrun : all.foldlM (addEntry catalog) [] with
    | error error => exact ⟨error, rfl⟩
    | ok views => exact absurd hspoils ((represents_of_run hlead hrun).2 e he)

private theorem foldlM_addRows (loaded : Loaded) (views : List ArtistView) :
    loaded.foldlM (addRows catalog) views = (entries loaded).foldlM (addEntry catalog) views := by
  induction loaded generalizing views with
  | nil => rfl
  | cons l rest ih =>
    rw [entries, List.flatMap_cons, List.foldlM_append, List.foldlM_cons, List.foldlM_map]
    exact bind_congr fun views => ih views

private theorem entries_filter (p : Relation → Bool) (loaded : Loaded) :
    entries (loaded.filter fun l => p l.1) = (entries loaded).filter fun e => p e.1 := by
  induction loaded with
  | nil => rfl
  | cons l rest ih =>
    have hcons : ∀ loaded, entries (l :: loaded) = l.2.map (l.1, ·) ++ entries loaded :=
      fun loaded => List.flatMap_cons
    have hrows : (l.2.map (l.1, ·)).filter (fun e : Entry => p e.1) =
        if p l.1 then l.2.map (l.1, ·) else [] := by
      rw [List.filter_map]
      cases hp : p l.1 <;> simp [Function.comp_def, hp]
    rw [hcons, List.filter_append, hrows, ← ih, List.filter_cons]
    cases p l.1 <;> simp [hcons]

private theorem entries_artistsFirst (loaded : Loaded) :
    entries (artistsFirst loaded) = (entries loaded).filter (fun e => e.1 = .artists) ++
      (entries loaded).filter fun e => e.1 ≠ .artists := by
  have hartists := entries_filter (fun relation => relation = .artists) loaded
  have hothers := entries_filter (fun relation => relation ≠ .artists) loaded
  rw [artistsFirst, entries, List.flatMap_append]
  exact congrArg₂ (· ++ ·) hartists hothers

private theorem artistsLead_artistsFirst (loaded : Loaded) :
    ArtistsLead (entries (artistsFirst loaded)) := by
  rw [entries_artistsFirst]
  refine List.pairwise_append.mpr ⟨?_, ?_, ?_⟩
  · exact List.Pairwise.imp_of_mem (R := fun _ _ => True)
      (fun hd _ _ _ => by simpa using (List.mem_filter.mp hd).2) (List.pairwise_of_forall fun _ _ => trivial)
  · exact List.Pairwise.imp_of_mem (R := fun _ _ => True)
      (fun _ he _ hartists => absurd hartists (by simpa using (List.mem_filter.mp he).2))
      (List.pairwise_of_forall fun _ _ => trivial)
  · intro d hd e _ _
    simpa using (List.mem_filter.mp hd).2

private theorem rowsOf_filter (p : Relation → Bool) (kept : Bool) (entries : List Entry)
    (part : Option ViewPart) (id : Uuid)
    (h : ∀ relation : Relation, relation.part? = part → p relation = kept) :
    rowsOf (entries.filter fun e => p e.1) part id = if kept then rowsOf entries part id else [] := by
  have hfilter : ∀ e : Entry, (decide (e.1.part? = part ∧ e.2.leadingId? = some id) && p e.1) =
      (decide (e.1.part? = part ∧ e.2.leadingId? = some id) && kept) := by
    intro e
    by_cases hpart : e.1.part? = part
    · rw [h e.1 hpart]
    · simp [hpart]
  simp only [rowsOf, List.filter_filter, hfilter]
  cases kept <;> simp

private theorem rowsOf_artistsFirst (loaded : Loaded) (part : Option ViewPart) (id : Uuid) :
    rowsOf (entries (artistsFirst loaded)) part id = rowsOf (entries loaded) part id := by
  have hartists := rowsOf_filter (fun relation => relation = .artists) (part = none) (entries loaded)
    part id fun relation hrelation => by simp [← hrelation, Relation.part?_eq_none]
  have hothers := rowsOf_filter (fun relation => relation ≠ .artists) (part ≠ none) (entries loaded)
    part id fun relation hrelation => by simp [← hrelation, Relation.part?_eq_none]
  rw [entries_artistsFirst, rowsOf_append, hartists, hothers]
  by_cases hpart : part = none <;> simp [hpart]

private theorem hasArtist_artistsFirst (loaded : Loaded) (id : Uuid) :
    HasArtist (entries (artistsFirst loaded)) id ↔ HasArtist (entries loaded) id := by
  rw [HasArtist, rowsOf_artistsFirst, HasArtist]

private theorem mem_artistsFirst (loaded : Loaded) (e : Entry) :
    e ∈ entries (artistsFirst loaded) ↔ e ∈ entries loaded := by
  rw [entries_artistsFirst, List.mem_append, List.mem_filter, List.mem_filter]
  by_cases hartists : e.1 = .artists <;> simp [hartists]

private theorem Represents.of_artistsFirst {loaded : Loaded}
    (h : Represents catalog (entries (artistsFirst loaded)) views) :
    Represents catalog (entries loaded) views :=
  ⟨fun id => (h.present id).trans (hasArtist_artistsFirst loaded id), fun id view hview =>
    (h.exact id view hview).congr fun part => (rowsOf_artistsFirst loaded part view.id).symm⟩

/-- Taken with the artists first, the rows make the artists that they say, unless a row spoils them. -/
theorem represents_of_loaded {loaded : Loaded}
    (h : (artistsFirst loaded).foldlM (addRows catalog) [] = .ok views) :
    Represents catalog (entries loaded) views := by
  rw [foldlM_addRows] at h
  exact (represents_of_run (artistsLead_artistsFirst loaded) h).1.of_artistsFirst

theorem loaded_fails_iff (catalog : Catalog) (loaded : Loaded) :
    (∃ error, (artistsFirst loaded).foldlM (addRows catalog) [] = .error error) ↔
      ∃ e ∈ entries loaded, Spoils (entries loaded) e := by
  rw [foldlM_addRows, run_fails_iff (artistsLead_artistsFirst loaded)]
  refine exists_congr fun e => and_congr (mem_artistsFirst loaded e) ⟨?_, ?_⟩
  · exact Spoils.mono fun id => (hasArtist_artistsFirst loaded id).mp
  · exact Spoils.mono fun id => (hasArtist_artistsFirst loaded id).mpr

end Hydration

end TenantGrid
