import TenantGrid.Proofs.Filter.Shape
import TenantGrid.Proofs.Number.Digits
/-!
# Names of fields

The fields that a request can name, and where their values live. A name is routed just if it is one of
these, keys of a table's own rows are out of reach, and a field has a second name only among the tags of
users and by zeros before the type of a statistic.
-/
namespace TenantGrid

/-- The name of a metric of a statistic, whose type is written with the given digits. -/
def statisticField (digits : List Char) (metric : Metric) : String :=
  String.ofList ("statistic.".toList ++ (digits ++ '-' :: metric.column.toList))

/-- The names of fields, each with where its values live. -/
inductive Route.HasName (catalog : Catalog) : Route → String → Prop
  | statistic {digits : List Char} {typeId : Int} (metric : Metric) (hsome : digits ≠ [])
      (hdigits : ∀ c ∈ digits, c.isDigit = true) (hvalue : typeId = Nat.ofDigitChars 10 digits 0)
      (hbound : typeId < 2 ^ 63) (hknown : ∃ type ∈ catalog.statisticTypes, type.id = typeId) :
    HasName catalog (.statistic typeId metric) (statisticField digits metric)
  | evaluation {column : Column} (hcolumn : column ∈ Schema.evaluations.columns)
      (hshown : column.name ≠ "id" ∧ column.name ≠ "artist_id") :
    HasName catalog (.evaluation column) ("evaluation." ++ column.name)
  | membership {column : Column} (hcolumn : column ∈ Schema.memberships.columns)
      (hshown : column.name ≠ "organization_id" ∧ column.name ≠ "artist_id") :
    HasName catalog (.membership column) ("organization." ++ column.name)
  | attribution {column : Column} (hcolumn : column ∈ Schema.memberships.columns)
      (hname : column.name = "last_playlist_id") :
    HasName catalog (.attribution column) "organization.attribution_type"
  | tags : HasName catalog (.tags .user) "tags"
  | userTags : HasName catalog (.tags .user) "tags.user"
  | genres : HasName catalog (.tags .genre) "tags.genre"
  | users : HasName catalog .users "users"
  | artist {column : Column} (hcolumn : column ∈ Schema.artists.columns)
      (hshown : column.name ≠ "evaluation_id") :
    HasName catalog (.artist column) column.name

/-- Whether the second name is another one of the same field, with more zeros if it has any. -/
inductive Respells : String → String → Prop
  | userTags : Respells "tags" "tags.user"
  | zeros {digits : List Char} (metric : Metric) (zeros : Nat) (hsome : digits ≠ [])
      (hdigits : ∀ c ∈ digits, c.isDigit = true) :
    Respells (statisticField digits metric)
      (statisticField (List.replicate zeros '0' ++ digits) metric)

private theorem Table.column?_eq_some {table : Table}
    (hnodup : (table.columns.map Column.name).Nodup) {name : String} {column : Column} :
    table.column? name = some column ↔ column ∈ table.columns ∧ column.name = name := by
  unfold column?
  constructor
  · intro h
    exact ⟨List.mem_of_find?_eq_some h, by simpa using List.find?_some h⟩
  · rintro ⟨hcolumn, hname⟩
    cases hfound : table.columns.find? fun c => c.name == name with
    | none =>
      have hnone := List.find?_eq_none.mp hfound column hcolumn
      simp [hname] at hnone
    | some other =>
      have hother : other.name = name := by simpa using List.find?_some hfound
      rw [List.inj_on_of_nodup_map hnodup (List.mem_of_find?_eq_some hfound) hcolumn
        (hother.trans hname.symm)]

private theorem Schema.columns_nodup : (evaluations.columns.map Column.name).Nodup ∧
    (memberships.columns.map Column.name).Nodup := by
  decide +kernel

private theorem Metric.ofName?_eq_some {name : String} {metric : Metric} :
    ofName? name = some metric ↔ metric.column = name := by
  constructor
  · intro h
    simpa using List.find?_some h
  · rintro rfl
    cases metric <;> decide +kernel

namespace Route

variable {catalog : Catalog}

private theorem after?_append (mark rest : List Char) : after? mark (mark ++ rest) = some rest := by
  induction mark with
  | nil => rfl
  | cons c mark ih => simpa [after?] using ih

private theorem after?_ofList (mark rest : List Char) :
    after? mark (String.ofList (mark ++ rest)).toList = some rest := by
  rw [String.toList_ofList, after?_append]

private theorem columnExcept?_eq_some {table : Table}
    (hnodup : (table.columns.map Column.name).Nodup)
    {hidden : List String} {name : List Char} {column : Column} :
    columnExcept? table hidden name = some column ↔
      column ∈ table.columns ∧ column.name.toList = name ∧ column.name ∉ hidden := by
  rw [columnExcept?, Option.filter_eq_some_iff, Table.column?_eq_some hnodup]
  simp [← String.toList_inj, and_assoc]

private theorem splitDigits_append {digits rest : List Char} (h : ∀ c ∈ digits, c.isDigit = true) :
    Number.splitDigits (digits ++ '-' :: rest) = (digits, '-' :: rest) := by
  have hdigits : ∀ c ∈ digits, Text.isDigit c = true := by simpa [Number.isDigit_eq] using h
  have hhyphen : Text.isDigit '-' = false := by decide
  simp [Number.splitDigits, List.takeWhile_append_of_pos hdigits, List.dropWhile_append_of_pos hdigits,
    hhyphen]

private theorem statistic?_digits {digits : List Char} (hsome : digits ≠ [])
    (hdigits : ∀ c ∈ digits, c.isDigit = true) (metric : Metric) {route : Route} :
    statistic? catalog (digits ++ '-' :: metric.column.toList) = some route ↔
      ∃ typeId : Int, (typeId = Nat.ofDigitChars 10 digits 0 ∧ typeId < 2 ^ 63) ∧
        (∃ type ∈ catalog.statisticTypes, type.id = typeId) ∧ route = .statistic typeId metric := by
  have hmetric : Metric.ofName? metric.column = some metric := Metric.ofName?_eq_some.mpr rfl
  have hempty : digits.isEmpty = false := by simpa using hsome
  have hknown {typeId : Int} : (∃ t, catalog.statisticType? typeId = some t) ↔
      ∃ type ∈ catalog.statisticTypes, type.id = typeId := by
    simp [← Option.isSome_iff_exists, Catalog.statisticType?, List.find?_isSome]
  simp only [statistic?, splitDigits_append hdigits, after?, if_true, hempty, Bool.false_eq_true, if_false,
    Option.bind_eq_bind, Option.bind_eq_some_iff, Option.some.injEq, String.ofList_toList, hmetric,
    exists_eq_left', Number.readInt?_digits hsome hdigits, ← hknown]
  constructor
  · rintro ⟨typeId, hid, found, hfound, rfl⟩
    exact ⟨typeId, hid, ⟨found, hfound⟩, rfl⟩
  · rintro ⟨typeId, hid, ⟨found, hfound⟩, rfl⟩
    exact ⟨typeId, hid, found, hfound, rfl⟩

private theorem exists_of_statistic? {text : List Char} {route : Route}
    (h : statistic? catalog text = some route) :
    ∃ (digits : List Char) (metric : Metric), digits ≠ [] ∧ (∀ c ∈ digits, c.isDigit = true) ∧
      text = digits ++ '-' :: metric.column.toList := by
  unfold statistic? at h
  simp only [Option.bind_eq_bind, Option.bind_eq_some_iff] at h
  obtain ⟨name, hname, h⟩ := h
  split at h
  · simp at h
  rename_i hsome
  simp only [Option.bind_eq_some_iff] at h
  obtain ⟨_, _, metric, hmetric, _, _, _⟩ := h
  have hcolumn : metric.column.toList = name := by
    rw [Metric.ofName?_eq_some.mp hmetric, String.toList_ofList]
  refine ⟨(Number.splitDigits text).1, metric, by simpa using hsome, ?_, ?_⟩
  · intro c hc
    rw [← Number.isDigit_eq]
    exact List.all_eq_true.mp List.all_takeWhile c hc
  · rw [hcolumn, ← List.singleton_append, ← after?_some hname]
    exact List.takeWhile_append_dropWhile.symm

private theorem ofField?_statisticField (digits : List Char) (metric : Metric) :
    ofField? catalog (statisticField digits metric) =
      statistic? catalog (digits ++ '-' :: metric.column.toList) := by
  have hafter : after? "statistic.".toList (statisticField digits metric).toList =
      some (digits ++ '-' :: metric.column.toList) := after?_ofList _ _
  simp only [ofField?, hafter]

private theorem HasName.ofField?_eq {route : Route} {name : String}
    (h : route.HasName catalog name) : ofField? catalog name = some route := by
  cases h with
  | statistic metric hsome hdigits hvalue hbound hknown =>
    rw [ofField?_statisticField, statistic?_digits hsome hdigits]
    exact ⟨_, ⟨hvalue, hbound⟩, hknown, rfl⟩
  | @evaluation column hcolumn hshown =>
    have hfound : columnExcept? Schema.evaluations ["id", "artist_id"] column.name.toList = some column :=
      (columnExcept?_eq_some Schema.columns_nodup.1).mpr ⟨hcolumn, rfl, by simpa using hshown⟩
    have hother : after? "statistic.".toList ("evaluation.".toList ++ column.name.toList) = none := by
      simp [after?]
    simp only [ofField?, String.toList_append, hother, after?_append, hfound, Option.map_some]
  | @membership column hcolumn hshown =>
    have hfound : columnExcept? Schema.memberships ["organization_id", "artist_id"] column.name.toList =
        some column :=
      (columnExcept?_eq_some Schema.columns_nodup.2).mpr ⟨hcolumn, rfl, by simpa using hshown⟩
    have hplain : ∀ c ∈ Schema.memberships.columns, c.name.toList ≠ "attribution_type".toList := by
      decide +kernel
    have hother : after? "statistic.".toList ("organization.".toList ++ column.name.toList) = none := by
      simp [after?]
    have hother' : after? "evaluation.".toList ("organization.".toList ++ column.name.toList) = none := by
      simp [after?]
    simp only [ofField?, String.toList_append, hother, hother', after?_append, membership?,
      if_neg (hplain column hcolumn), hfound, Option.map_some]
  | @attribution column hcolumn hname =>
    have hfound : Schema.memberships.column? "last_playlist_id" = some column :=
      (Table.column?_eq_some Schema.columns_nodup.2).mpr ⟨hcolumn, hname⟩
    have hroute : ofField? catalog "organization.attribution_type" =
        (Schema.memberships.column? "last_playlist_id").map Route.attribution := by
      simp [ofField?, membership?, after?]
    rw [hroute, hfound, Option.map_some]
  | tags | userTags | genres | users => simp [ofField?, plain?, after?]
  | @artist column hcolumn hshown =>
    have hall : ∀ c ∈ Schema.artists.columns, c.name ≠ "evaluation_id" →
        ofField? {} c.name = some (.artist c) ∧ after? "statistic.".toList c.name.toList = none := by
      decide +kernel
    obtain ⟨hroute, hother⟩ := hall column hcolumn hshown
    rw [← hroute]
    simp only [ofField?, hother]

private theorem hasName_of_membership? {route : Route} {name : String} {rest : List Char}
    (hrest : name.toList = "organization.".toList ++ rest) (h : membership? rest = some route) :
    route.HasName catalog name := by
  unfold membership? at h
  split at h
  · rename_i hattribution
    obtain ⟨column, hfound, rfl⟩ := Option.map_eq_some_iff.mp h
    obtain ⟨hcolumn, hlast⟩ := (Table.column?_eq_some Schema.columns_nodup.2).mp hfound
    have hname : name = "organization.attribution_type" := by
      rw [← String.toList_inj, hrest, hattribution]
      decide
    rw [hname]
    exact .attribution hcolumn hlast
  · obtain ⟨column, hfound, rfl⟩ := Option.map_eq_some_iff.mp h
    obtain ⟨hcolumn, rfl, hshown⟩ := (columnExcept?_eq_some Schema.columns_nodup.2).mp hfound
    have hname : name = "organization." ++ column.name := by
      rw [← String.toList_inj, hrest, String.toList_append]
    rw [hname]
    exact .membership hcolumn (by simpa using hshown)

private theorem hasName_of_plain? {route : Route} {name : String}
    (h : plain? name.toList = some route) : route.HasName catalog name := by
  unfold plain? at h
  simp only [String.toList_inj] at h
  split at h
  · rename_i hname
    obtain rfl := Option.some.inj h
    rcases hname with rfl | rfl
    · exact .tags
    · exact .userTags
  split at h
  · rename_i hname
    obtain rfl := Option.some.inj h
    rw [hname]
    exact .genres
  split at h
  · rename_i hname
    obtain rfl := Option.some.inj h
    rw [hname]
    exact .users
  · have hnodup : (Schema.artists.columns.map Column.name).Nodup := by decide +kernel
    obtain ⟨column, hfound, rfl⟩ := Option.map_eq_some_iff.mp h
    obtain ⟨hcolumn, hname, hshown⟩ := (columnExcept?_eq_some hnodup).mp hfound
    rw [← String.toList_inj.mp hname]
    exact .artist hcolumn (by simpa using hshown)

private theorem hasName_of_ofField? {route : Route} {name : String}
    (h : ofField? catalog name = some route) : route.HasName catalog name := by
  unfold ofField? at h
  simp only at h
  split at h
  · rename_i rest hrest
    obtain ⟨digits, metric, hsome, hdigits, rfl⟩ := exists_of_statistic? h
    obtain ⟨typeId, ⟨hvalue, hbound⟩, hknown, rfl⟩ := (statistic?_digits hsome hdigits metric).mp h
    have hname : name = statisticField digits metric :=
      String.toList_inj.mp ((after?_some hrest).trans String.toList_ofList.symm)
    rw [hname]
    exact .statistic metric hsome hdigits hvalue hbound hknown
  split at h
  · rename_i rest hrest
    obtain ⟨column, hfound, rfl⟩ := Option.map_eq_some_iff.mp h
    obtain ⟨hcolumn, rfl, hshown⟩ := (columnExcept?_eq_some Schema.columns_nodup.1).mp hfound
    have hname : name = "evaluation." ++ column.name := by
      rw [← String.toList_inj, after?_some hrest, String.toList_append]
    rw [hname]
    exact .evaluation hcolumn (by simpa using hshown)
  split at h
  · rename_i rest hrest
    exact hasName_of_membership? (after?_some hrest) h
  · exact hasName_of_plain? h

theorem ofField?_eq_some {route : Route} {name : String} :
    ofField? catalog name = some route ↔ route.HasName catalog name :=
  ⟨hasName_of_ofField?, HasName.ofField?_eq⟩

private theorem HasName.respells {route : Route} {name other : String}
    (h : route.HasName catalog name) (h' : route.HasName catalog other) :
    name = other ∨ Respells name other ∨ Respells other name := by
  cases h with
  | @statistic digits typeId metric hsome hdigits hvalue hbound hknown =>
    cases h' with
    | @statistic digits' _ _ hsome' hdigits' hvalue' _ _ =>
      have hsame : Nat.ofDigitChars 10 digits 0 = Nat.ofDigitChars 10 digits' 0 := by
        exact_mod_cast hvalue.symm.trans hvalue'
      rcases Nat.le_total digits.length digits'.length with hle | hle
      · rw [Number.eq_zeros_append hdigits hdigits' hsame hle]
        exact Or.inr (Or.inl (.zeros metric _ hsome hdigits))
      · rw [Number.eq_zeros_append hdigits' hdigits hsame.symm hle]
        exact Or.inr (Or.inr (.zeros metric _ hsome' hdigits'))
  | evaluation | membership | attribution | genres | users | artist =>
    cases h'
    exact Or.inl rfl
  | tags =>
    cases h' with
    | tags => exact Or.inl rfl
    | userTags => exact Or.inr (Or.inl .userTags)
  | userTags =>
    cases h' with
    | tags => exact Or.inr (Or.inr .userTags)
    | userTags => exact Or.inl rfl

end Route

private theorem Respells.ofField?_eq {name other : String} (h : Respells name other)
    (catalog : Catalog) : Route.ofField? catalog name = Route.ofField? catalog other := by
  cases h with
  | userTags => simp [Route.ofField?, Route.plain?, Route.after?]
  | @zeros digits metric zeros hsome hdigits =>
    apply Option.ext
    intro route
    have hmore : List.replicate zeros '0' ++ digits ≠ [] := by simp [hsome]
    rw [Route.ofField?_statisticField, Route.ofField?_statisticField,
      Route.statistic?_digits hsome hdigits,
      Route.statistic?_digits hmore (Number.isDigit_of_mem_zeros hdigits), Number.ofDigitChars_zeros]

private theorem Catalog.route_eq_ok {catalog : Catalog} {field : String} {route : Route} :
    catalog.route field = .ok route ↔ route.HasName catalog field := by
  rw [← Route.ofField?_eq_some, Catalog.route]
  split
  · rename_i found hfound
    simp [hfound]
  · rename_i hnone
    simp [hnone]

/-- Just the names of fields are routed, each to where its values live, and every other text is reported
as it is. Two names that are routed lead to one place only if one respells the other. -/
theorem Catalog.route_exact (catalog : Catalog) :
    (∀ field route, catalog.route field = .ok route ↔ route.HasName catalog field) ∧
    (∀ field, (∀ route : Route, ¬ route.HasName catalog field) →
      catalog.route field = .error (.unknownField field)) ∧
    ∀ field other route route', catalog.route field = .ok route → catalog.route other = .ok route' →
      (route = route' ↔ field = other ∨ Respells field other ∨ Respells other field) := by
  refine ⟨fun field route => Catalog.route_eq_ok, ?_, ?_⟩
  · intro field hunnamed
    unfold Catalog.route
    split
    · rename_i route hroute
      exact absurd (Route.hasName_of_ofField? hroute) (hunnamed route)
    · rfl
  · intro field other route route' h h'
    constructor
    · rintro rfl
      exact (Catalog.route_eq_ok.mp h).respells (Catalog.route_eq_ok.mp h')
    · intro hsame
      have hfield : Route.ofField? catalog field = Route.ofField? catalog other := by
        rcases hsame with rfl | hrespells | hrespells
        · rfl
        · exact hrespells.ofField?_eq catalog
        · exact (hrespells.ofField?_eq catalog).symm
      rw [Catalog.route_ok h, Catalog.route_ok h'] at hfield
      exact Option.some.inj hfield

/-- A type with a zero before it, a key column, and the two names of the first field. -/
theorem Catalog.route_exact_sample :
    let catalog : Catalog := { statisticTypes := [⟨5, "source", "key", "Name", "int", none⟩] }
    catalog.route "statistic.05-avg" = .ok (.statistic 5 .avg) ∧
      catalog.route "evaluation.artist_id" = .error (.unknownField "evaluation.artist_id") ∧
      ("statistic.5-avg" = "statistic.05-avg" ∨ Respells "statistic.5-avg" "statistic.05-avg" ∨
        Respells "statistic.05-avg" "statistic.5-avg") := by
  intro catalog
  have hnamed (digits : List Char) (hsome : digits ≠ []) (hdigits : ∀ c ∈ digits, c.isDigit = true)
      (hfive : (5 : Int) = Nat.ofDigitChars 10 digits 0) :
      (Route.statistic 5 .avg).HasName catalog (statisticField digits .avg) :=
    .statistic .avg hsome hdigits hfive (by decide) ⟨_, List.mem_singleton_self _, rfl⟩
  have hzero : (Route.statistic 5 .avg).HasName catalog "statistic.05-avg" :=
    hnamed ['0', '5'] (by decide) (by simp) (by decide)
  have hplain : (Route.statistic 5 .avg).HasName catalog "statistic.5-avg" :=
    hnamed ['5'] (by decide) (by simp) (by decide)
  have hkey : ∀ route : Route, ¬ route.HasName catalog "evaluation.artist_id" := by
    intro route h
    have hnone : Route.ofField? catalog "evaluation.artist_id" = none := by decide +kernel
    exact absurd (hnone.symm.trans h.ofField?_eq) (by simp)
  obtain ⟨hroute, hunknown, hsame⟩ := Catalog.route_exact catalog
  have hfirst := (hroute _ _).mpr hplain
  have hsecond := (hroute _ _).mpr hzero
  exact ⟨hsecond, hunknown _ hkey, (hsame _ _ _ _ hfirst hsecond).mp rfl⟩

end TenantGrid
