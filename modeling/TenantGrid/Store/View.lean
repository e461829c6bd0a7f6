import TenantGrid.Catalog.Reference
import TenantGrid.Json.Printer
import TenantGrid.Json.Reader
import TenantGrid.Store.Row
/-!
# Views

What callers see of an artist and of everything that is loaded with it. Each view is read from the
rows of its relation, where the artist's id comes first, and is written as JSON with its fields in
one order. Stored codes come back as labels.
-/
namespace TenantGrid

namespace Json

def nullableString (text : Option String) : Json :=
  ofOption string text

def nullableMoment (moment : Option Timestamp) : Json :=
  ofOption (fun t => string t.text) moment

def nullableReal (x : Option Double) : Json :=
  ofOption (fun x => number (.real x)) x

end Json

structure EvaluationView where
  id : Int
  status : String
  distributorType : String
  distributor : Option String
  label : Option String
  backCatalog : String
  createdAt : Option Timestamp
  updatedAt : Option Timestamp

namespace EvaluationView

/-- The label of the code in a column; a missing code counts as zero. -/
private def codedLabel (row : Row) (column : Nat) (choices : List Choice) : String :=
  ((ColumnType.choice choices).choiceLabel? ((row.int? column).getD 0)).getD "unknown"

def ofRow (row : Row) : Except StoreError EvaluationView :=
  (row.requiredInt 1).map fun id => {
    id
    status := codedLabel row 2 Schema.evaluationStatus
    distributorType := codedLabel row 3 Schema.distributorType
    distributor := row.text? 4
    label := row.text? 5
    backCatalog := codedLabel row 6 Schema.backCatalog
    createdAt := row.timestamp? 7
    updatedAt := row.timestamp? 8 }

/-- A row of an evaluation needs its id. -/
theorem exists_ofRow {row : Row} :
    (∃ view, ofRow row = .ok view) ↔ (row.value 1).toInt?.isSome := by
  simp only [Option.isSome_iff_exists, ← Row.requiredInt_eq_ok]
  unfold ofRow
  cases row.requiredInt 1 <;> simp [Except.map]

def json (view : EvaluationView) : Json :=
  .object [("id", .ofInt view.id), ("status", .string view.status),
    ("distributorType", .string view.distributorType),
    ("distributor", .nullableString view.distributor), ("label", .nullableString view.label),
    ("backCatalog", .string view.backCatalog), ("createdAt", .nullableMoment view.createdAt),
    ("updatedAt", .nullableMoment view.updatedAt)]

end EvaluationView

structure StatisticView where
  typeId : Int
  /-- The type, if the catalog knows it. -/
  type : Option StatisticType
  latest : Option Double
  previous : Option Double
  min : Option Double
  max : Option Double
  avg : Option Double
  weekOverWeek : Option Double
  monthOverMonth : Option Double
  latestDate : Option Timestamp
  /-- The document of past figures, if it was loaded. -/
  data : Option Json

namespace StatisticView

private def document (row : Row) (column : Nat) : Except StoreError (Option Json) :=
  match row.text? column with
  | none => .ok none
  | some text =>
    match Json.ofText? text with
    | some data => .ok (some data)
    | none => .error .malformedDocument

private theorem exists_document {row : Row} {column : Nat} :
    (∃ data, document row column = .ok data) ↔
      ∀ text, row.text? column = some text → (Json.ofText? text).isSome := by
  unfold document
  split
  · simp_all
  · split <;> simp_all

def ofRow (catalog : Catalog) (row : Row) : Except StoreError StatisticView := do
  let typeId ← row.requiredInt 1
  let data ← document row 10
  .ok {
    typeId
    type := catalog.statisticType? typeId
    latest := row.real? 2
    previous := row.real? 3
    min := row.real? 4
    max := row.real? 5
    avg := row.real? 6
    weekOverWeek := row.real? 7
    monthOverMonth := row.real? 8
    latestDate := row.timestamp? 9
    data }

theorem data_of_ofRow {catalog : Catalog} {row : Row} {view : StatisticView}
    (h : ofRow catalog row = .ok view) : view.data = row.text? 10 >>= Json.ofText? := by
  unfold ofRow document at h
  cases hid : row.requiredInt 1 with
  | error e => rw [hid] at h; exact nomatch h
  | ok typeId =>
    rw [hid] at h
    cases htext : row.text? 10 with
    | none => rw [htext] at h; cases h; rfl
    | some text =>
      rw [htext] at h
      cases hdata : Json.ofText? text with
      | none => simp only [hdata] at h; exact nomatch h
      | some data =>
        simp only [hdata] at h
        cases h
        exact hdata.symm

/-- A row of statistics needs the type, and a document that is JSON if it has one. -/
theorem exists_ofRow {catalog : Catalog} {row : Row} :
    (∃ view, ofRow catalog row = .ok view) ↔
      (row.value 1).toInt?.isSome ∧
        ∀ text, row.text? 10 = some text → (Json.ofText? text).isSome := by
  rw [← exists_document]
  simp only [Option.isSome_iff_exists, ← Row.requiredInt_eq_ok]
  unfold ofRow
  cases row.requiredInt 1 <;> cases document row 10 <;> simp [bind, Except.bind]

def json (view : StatisticView) : Json :=
  .object ([("statisticTypeId", .ofInt view.typeId),
    ("name", .nullableString (view.type.map StatisticType.name)),
    ("format", .nullableString (view.type.map StatisticType.format)),
    ("latest", .nullableReal view.latest), ("previous", .nullableReal view.previous),
    ("min", .nullableReal view.min), ("max", .nullableReal view.max),
    ("avg", .nullableReal view.avg),
    ("weekOverWeek", .nullableReal view.weekOverWeek),
    ("monthOverMonth", .nullableReal view.monthOverMonth),
    ("latestDate", .nullableMoment view.latestDate)]
    ++ (view.data.map fun data => ("data", data)).toList)

end StatisticView

structure LinkView where
  source : String
  logo : Option String
  url : String
  deriving DecidableEq

namespace LinkView

def ofRow (row : Row) : LinkView where
  source := row.text 2
  logo := row.text? 3
  url := row.text 4

def json (view : LinkView) : Json :=
  .object [("source", .string view.source), ("logo", .nullableString view.logo),
    ("url", .string view.url)]

end LinkView

structure TagView where
  tag : String
  type : Option TagType
  deriving DecidableEq

namespace TagView

def ofRow (row : Row) : TagView where
  tag := row.text 1
  type := row.int? 2 >>= TagType.ofId?

def json (view : TagView) : Json :=
  .object [("tag", .string view.tag), ("tagType", .nullableString (view.type.map TagType.name))]

end TagView

/-- A membership row of the tenant. -/
structure MembershipView where
  addedBy : Option String
  muted : Bool
  favorite : Bool
  createdAt : Option Timestamp
  lastPlaylistId : Option String
  deriving DecidableEq

namespace MembershipView

def ofRow (row : Row) : MembershipView where
  addedBy := row.text? 1
  muted := row.flag 2
  favorite := row.flag 3
  createdAt := row.timestamp? 4
  lastPlaylistId := row.text? 5

def json (view : MembershipView) : Json :=
  .object [("addedBy", .nullableString view.addedBy), ("muted", .bool view.muted),
    ("favorite", .bool view.favorite), ("createdAt", .nullableMoment view.createdAt),
    ("lastPlaylistId", .nullableString view.lastPlaylistId)]

end MembershipView

/-- A user of the tenant that an artist is attributed to. -/
structure AttributionView where
  userId : String
  createdAt : Option Timestamp
  deriving DecidableEq

namespace AttributionView

def ofRow (row : Row) : AttributionView where
  userId := row.text 1
  createdAt := row.timestamp? 2

def json (view : AttributionView) : Json :=
  .object [("userId", .string view.userId), ("createdAt", .nullableMoment view.createdAt)]

end AttributionView

/-- An artist with all that was loaded with it. -/
structure ArtistView where
  id : Uuid
  name : Option String
  spotifyId : Option String
  avatar : Option String
  active : Bool
  evaluation : Option EvaluationView := none
  statistics : List StatisticView := []
  links : List LinkView := []
  tags : List TagView := []
  memberships : List MembershipView := []
  users : List AttributionView := []
  createdAt : Option Timestamp
  updatedAt : Option Timestamp
  /-- Every evaluation, the newest first. -/
  evaluations : List EvaluationView := []

namespace ArtistView

def ofRow (row : Row) : Except StoreError ArtistView :=
  (row.uuid 0).map fun id => {
    id
    name := row.text? 1
    spotifyId := row.text? 2
    avatar := row.text? 3
    active := row.flag 4
    createdAt := row.timestamp? 6
    updatedAt := row.timestamp? 7 }

private def listMembers (view : ArtistView) : List (String × Json) :=
  [("id", .string view.id.text), ("name", .nullableString view.name),
    ("spotifyId", .nullableString view.spotifyId), ("avatar", .nullableString view.avatar),
    ("active", .bool view.active),
    ("evaluation", .ofOption EvaluationView.json view.evaluation),
    ("statistics", .array (view.statistics.map StatisticView.json)),
    ("links", .array (view.links.map LinkView.json)),
    ("tags", .array (view.tags.map TagView.json)),
    ("memberships", .array (view.memberships.map MembershipView.json)),
    ("users", .array (view.users.map AttributionView.json)),
    ("createdAt", .nullableMoment view.createdAt), ("updatedAt", .nullableMoment view.updatedAt)]

/-- The artist in a list, without earlier evaluations. -/
def listJson (view : ArtistView) : Json :=
  .object view.listMembers

/-- The artist with its evaluations, if there are any. -/
def json (view : ArtistView) : Json :=
  .object (view.listMembers
    ++ if view.evaluations.isEmpty then []
      else [("evaluations", .array (view.evaluations.map EvaluationView.json))])

end ArtistView

/-- How many matching artists have a label. -/
structure LabelCount where
  label : Option String
  count : Nat
  deriving DecidableEq, Repr

namespace LabelCount

def ofRow (row : Row) : Except StoreError LabelCount :=
  (row.count 1).map fun count => { label := row.text? 0, count }

def json (view : LabelCount) : Json :=
  .object [("label", .nullableString view.label), ("count", .ofNat view.count)]

end LabelCount

end TenantGrid
