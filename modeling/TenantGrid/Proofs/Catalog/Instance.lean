import TenantGrid.Catalog.Schema
import TenantGrid.Proofs.Sql.Meaning
import TenantGrid.Proofs.Sql.Plain
/-!
# Instances of the schema

The databases that keep the keys of the schema: required columns hold a value, and no two rows of a
table agree on a key of it.
-/
namespace TenantGrid

open Sql (Collation Database Record)

namespace Table

/-- The primary key of a table, if it has one. -/
def primaryKey (t : Table) : List String :=
  if t.compositeKey.isEmpty then (t.columns.filter Column.primaryKey).map Column.name
  else t.compositeKey

/-- The primary key and every unique column on its own. -/
def keys (t : Table) : List (List String) :=
  t.primaryKey :: (t.columns.filter Column.unique).map fun column => [column.name]

structure Admits (c : Collation) (t : Table) (rows : Multiset Record) : Prop where
  required : ∀ row ∈ rows, ∀ column ∈ t.columns,
    column.notNull = true ∨ column.name ∈ t.primaryKey → row column.name ≠ .null
  keyed : ∀ key ∈ t.keys, ∀ model : Record,
    (rows.filter fun row => ∀ name ∈ key, c.Same (row name) (model name)).card ≤ 1

end Table

/-- Whether a database keeps the keys and the required columns of every table. -/
def IsInstance (c : Collation) (db : Database) : Prop :=
  ∀ t ∈ Schema.tables, t.Admits c (db t.name)

/-- Whether a value is that of at most one row in a column. -/
def IsUnique (c : Collation) (rows : Multiset Record) (name : String) : Prop :=
  ∀ v : Sql.Value, (rows.filter fun row => c.Same (row name) v).card ≤ 1

/-- No two rows share a value of a column in which it is unique. -/
theorem IsUnique.eq_of_same {c : Collation} {rows : Multiset Record} {name : String}
    (h : IsUnique c rows name) {row other : Record} (hrow : row ∈ rows) (hother : other ∈ rows)
    (hsame : c.Same (row name) (other name)) : row = other := by
  have hself : c.Same (other name) (other name) := ⟨hsame.2.1, hsame.2.1, rfl⟩
  by_contra hne
  have hpair : ({row, other} : Multiset Record) ≤
      rows.filter fun r => c.Same (r name) (other name) := by
    refine (Multiset.le_iff_subset (by simpa using hne)).mpr fun r hr => ?_
    rcases Multiset.mem_cons.mp hr with rfl | hr
    · exact Multiset.mem_filter.mpr ⟨hrow, hsame⟩
    · obtain rfl := Multiset.mem_singleton.mp hr
      exact Multiset.mem_filter.mpr ⟨hother, hself⟩
  have hcard := (Multiset.card_le_card hpair).trans (h (other name))
  simp only [Multiset.insert_eq_cons, Multiset.card_cons, Multiset.card_singleton] at hcard
  omega

namespace IsInstance

variable {c : Collation} {db : Database}

private theorem required (h : IsInstance c db) {t : Table} (ht : t ∈ Schema.tables) (name : String)
    (hcolumn : ∃ column ∈ t.columns, column.name = name ∧
      (column.notNull = true ∨ column.name ∈ t.primaryKey))
    {row : Record} (hrow : row ∈ db t.name) : row name ≠ .null := by
  obtain ⟨column, hmem, rfl, hnotNull⟩ := hcolumn
  exact (h t ht).required row hrow column hmem hnotNull

theorem tag_artist_ne_null (h : IsInstance c db) {row : Record} (hrow : row ∈ db Schema.tags.name) :
    row "artist_id" ≠ .null :=
  h.required (t := Schema.tags) (by decide) "artist_id" (by decide) hrow

theorem user_artist_ne_null (h : IsInstance c db) {row : Record}
    (hrow : row ∈ db Schema.userArtists.name) : row "artist_id" ≠ .null :=
  h.required (t := Schema.userArtists) (by decide) "artist_id" (by decide) hrow

/-- An artist has at most one row of statistics of a type. -/
theorem statistic_card_le_one (h : IsInstance c db) (artistId typeId : Sql.Value) :
    ((db Schema.statistics.name).filter fun row =>
      c.Same (row "artist_id") artistId ∧ c.Same (row "statistic_type_id") typeId).card ≤ 1 := by
  have hkey := (h Schema.statistics (by decide)).keyed ["artist_id", "statistic_type_id"] (by decide)
    fun name => if name = "artist_id" then artistId else typeId
  simpa using hkey

/-- An id is that of at most one evaluation. -/
theorem evaluation_isUnique (h : IsInstance c db) :
    IsUnique c (db Schema.evaluations.name) "id" := by
  intro id
  have hkey := (h Schema.evaluations (by decide)).keyed ["id"] (by decide) fun _ => id
  simpa using hkey

theorem artist_isUnique (h : IsInstance c db) : IsUnique c (db Schema.artists.name) "id" := by
  intro id
  have hkey := (h Schema.artists (by decide)).keyed ["id"] (by decide) fun _ => id
  simpa using hkey

/-- No two artists share an id. -/
theorem artist_unique (h : IsInstance c db) {artist other : Record}
    (hartist : artist ∈ db Schema.artists.name) (hother : other ∈ db Schema.artists.name)
    (hsame : c.Same (artist "id") (other "id")) : artist = other :=
  h.artist_isUnique.eq_of_same hartist hother hsame

end IsInstance

/-- The row with the given values, and NULL elsewhere. -/
def rowOf (values : List (String × Sql.Value)) : Record :=
  fun name => (values.lookup name).getD .null

/-- The database with the listed rows. -/
def listedRows (rows : String → List Record) : Database :=
  fun table => Multiset.ofList (rows table)

private theorem listedRows_isInstance {c : Collation} {rows : String → List Record}
    (hrequired : ∀ t ∈ Schema.tables, ∀ row ∈ rows t.name, ∀ column ∈ t.columns,
      column.notNull = true ∨ column.name ∈ t.primaryKey → row column.name ≠ .null)
    (hkeyed : ∀ t ∈ Schema.tables, ∀ key ∈ t.keys, (rows t.name).Pairwise fun row other =>
      ¬ ∀ name ∈ key, c.Same (row name) (other name)) :
    IsInstance c (listedRows rows) := by
  intro t ht
  refine ⟨hrequired t ht, fun key hkey model => ?_⟩
  have hpairs := (hkeyed t ht key hkey).filter
    fun row => decide (∀ name ∈ key, c.Same (row name) (model name))
  have hmodel : ∀ row ∈ (rows t.name).filter
      (fun row => decide (∀ name ∈ key, c.Same (row name) (model name))),
      ∀ name ∈ key, c.Same (row name) (model name) := by
    intro row hrow
    exact of_decide_eq_true (List.mem_filter.mp hrow).2
  rw [listedRows, Multiset.filter_coe, Multiset.coe_card]
  generalize (rows t.name).filter _ = found at hpairs hmodel ⊢
  match found with
  | [] => exact Nat.zero_le 1
  | [_] => exact Nat.le_refl 1
  | row :: other :: _ =>
    refine absurd (fun name hname => ?_) ((List.pairwise_cons.mp hpairs).1 other (by simp))
    exact (hmodel row (by simp) name hname).trans (hmodel other (by simp) name hname).symm

/-- The database with no more than one row in a table. -/
def singleRows (row? : String → Option Record) : Database :=
  fun table => Multiset.ofList (row? table).toList

private theorem singleRows_isInstance (c : Collation) {row? : String → Option Record}
    (h : ∀ t ∈ Schema.tables, ∀ row ∈ row? t.name, ∀ column ∈ t.columns,
      column.notNull = true ∨ column.name ∈ t.primaryKey → row column.name ≠ .null) :
    IsInstance c (singleRows row?) := by
  have hrows : singleRows row? = listedRows fun table => (row? table).toList := rfl
  rw [hrows]
  refine listedRows_isInstance (fun t ht row hrow => h t ht row (by simpa using hrow)) ?_
  intro t _ key _
  cases row? t.name with
  | none => exact .nil
  | some row => exact List.pairwise_singleton _ row

/-- The rows of one artist that an organization keeps, with a statistic and a tag. -/
def sampleRow? : String → Option Record
  | "artists" => some (rowOf [("id", .text "a"), ("active", .bool true)])
  | "organizations_artists" => some (rowOf [("organization_id", .text "t"), ("artist_id", .text "a"),
      ("added_by", .text "u"), ("muted", .bool false), ("archived", .bool false),
      ("favorite", .bool true)])
  | "statistics" => some (rowOf [("artist_id", .text "a"), ("statistic_type_id", .int 7),
      ("latest", .int 9)])
  | "tags" => some (rowOf [("id", .int 1), ("artist_id", .text "a"), ("tag", .text "jazz"),
      ("tag_type_id", .int 2)])
  | _ => none

theorem sample_isInstance (c : Collation) : IsInstance c (singleRows sampleRow?) := by
  refine singleRows_isInstance c ?_
  decide

/-- Artists of two organizations, which users added once or twice. They have a label, an evaluation without
one, none or one that is missing. -/
def sampleRoster : String → List Record
  | "artists" =>
    [("a", "Una", Sql.Value.int 1), ("b", "Zoe", .int 2), ("c", "Ana", .null), ("d", "Pia", .int 3),
      ("e", "Ida", .int 4), ("f", "Mia", .int 9), ("g", "Eva", .int 1), ("h", "Liv", .int 1),
      ("i", "Kim", .int 1)].map fun artist =>
        rowOf [("id", .text artist.1), ("name", .text artist.2.1), ("active", .bool true),
          ("evaluation_id", artist.2.2)]
  | "evaluations" =>
    [(1, "a", Sql.Value.text "indie"), (2, "b", .null), (3, "d", .text "indie"),
      (4, "e", .text "major")].map fun evaluation =>
        rowOf [("id", .int evaluation.1), ("artist_id", .text evaluation.2.1), ("status", .int 1),
          ("distributor_type", .int 0), ("label", evaluation.2.2), ("back_catalog", .int 0)]
  | "organizations_artists" =>
    [("t", "a", "u", false, true), ("t", "a", "v", true, false), ("t", "b", "u", false, true),
      ("t", "c", "u", false, true), ("t", "d", "u", false, true), ("t", "d", "v", false, true),
      ("t", "e", "v", false, true), ("t", "f", "u", false, true), ("x", "g", "w", false, true),
      ("t", "h", "u", true, true), ("t", "i", "u", false, true)].map fun added =>
        rowOf [("organization_id", .text added.1), ("artist_id", .text added.2.1),
          ("added_by", .text added.2.2.1), ("muted", .bool added.2.2.2.1), ("archived", .bool false),
          ("favorite", .bool added.2.2.2.2)]
  | "statistics" =>
    [("a", 7), ("b", 9), ("c", 9), ("d", 8), ("e", 6), ("f", 9), ("g", 9), ("h", 9), ("i", 9)].map
      fun statistic => rowOf [("artist_id", .text statistic.1), ("statistic_type_id", .int 7),
        ("latest", .int statistic.2)]
  | "tags" =>
    [rowOf [("id", .int 1), ("artist_id", .text "a"), ("tag", .text "jazz"), ("tag_type_id", .int 2)],
      rowOf [("id", .int 2), ("artist_id", .text "i"), ("tag", .text "jazz"), ("tag_type_id", .int 1),
        ("organization_id", .text "t")]]
  | _ => []

theorem sampleRoster_isInstance : IsInstance .plain (listedRows sampleRoster) :=
  listedRows_isInstance (by decide +kernel) (by decide +kernel)

end TenantGrid
