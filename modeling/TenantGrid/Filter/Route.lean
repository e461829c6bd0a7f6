import TenantGrid.Catalog.Reference
import TenantGrid.Filter.Error
import TenantGrid.Number.Reading
/-!
# Routes

A field name says where its value lives: in a column of the artist, in one of its statistics, in
its current evaluation, in the organization's membership row, or among its tags or users.
-/
namespace TenantGrid

/-- The figures kept for every statistic of an artist. -/
inductive Metric where
  | latest | previous | min | max | avg | weekOverWeek | monthOverMonth
  deriving DecidableEq, Repr

namespace Metric

def column : Metric → String
  | latest => "latest"
  | previous => "previous"
  | min => "min"
  | max => "max"
  | avg => "avg"
  | weekOverWeek => "week_over_week"
  | monthOverMonth => "month_over_month"

def all : List Metric :=
  [latest, previous, min, max, avg, weekOverWeek, monthOverMonth]

def ofName? (name : String) : Option Metric :=
  all.find? fun m => m.column == name

/-- Stored as a fraction and asked for in percent. -/
def isPercent : Metric → Bool
  | weekOverWeek | monthOverMonth => true
  | _ => false

end Metric

inductive Route where
  /-- A column of the artist. -/
  | artist (column : Column)
  | statistic (typeId : Int) (metric : Metric)
  /-- A column of the artist's current evaluation. -/
  | evaluation (column : Column)
  /-- A column of the organization's membership row. -/
  | membership (column : Column)
  /-- Whether the membership names a playlist, in the given column. -/
  | attribution (column : Column)
  | tags (type : TagType)
  | users
  deriving DecidableEq, Repr

/-- The rows that a route reads beside the artist's own. -/
inductive JoinTarget where
  | statistic (typeId : Int)
  | evaluation
  | membership
  deriving DecidableEq, Repr

namespace Route

def joinTarget? : Route → Option JoinTarget
  | artist _ | tags _ | users => none
  | statistic typeId _ => some (.statistic typeId)
  | evaluation _ => some .evaluation
  | membership _ | attribution _ => some .membership

/-- What follows a mark at the front of a name. -/
def after? : List Char → List Char → Option (List Char)
  | [], rest => some rest
  | m :: mark, c :: rest => if m = c then after? mark rest else none
  | _ :: _, [] => none

/-- The id of a statistic and a metric, with a hyphen between them. -/
def statistic? (catalog : Catalog) (text : List Char) : Option Route := do
  let (digits, rest) := Number.splitDigits text
  let metric ← after? ['-'] rest
  if digits.isEmpty then none
  else
    let typeId ← Number.readInt? digits
    let metric ← Metric.ofName? (String.ofList metric)
    let _ ← catalog.statisticType? typeId
    some (statistic typeId metric)

def columnExcept? (table : Table) (hidden : List String) (name : List Char) :
    Option Column :=
  (table.column? (String.ofList name)).filter fun c => !hidden.contains c.name

def membership? (name : List Char) : Option Route :=
  if name = "attribution_type".toList then
    (Schema.memberships.column? "last_playlist_id").map attribution
  else (columnExcept? Schema.memberships ["organization_id", "artist_id"] name).map membership

def plain? (name : List Char) : Option Route :=
  if name = "tags".toList ∨ name = "tags.user".toList then some (tags .user)
  else if name = "tags.genre".toList then some (tags .genre)
  else if name = "users".toList then some users
  else (columnExcept? Schema.artists ["evaluation_id"] name).map artist

/-- Where the value of a field lives, if there is such a field. -/
def ofField? (catalog : Catalog) (field : String) : Option Route :=
  let name := field.toList
  match after? "statistic.".toList name with
  | some rest => statistic? catalog rest
  | none =>
    match after? "evaluation.".toList name with
    | some rest => (columnExcept? Schema.evaluations ["id", "artist_id"] rest).map evaluation
    | none =>
      match after? "organization.".toList name with
      | some rest => membership? rest
      | none => plain? name

end Route

namespace Catalog

def route (catalog : Catalog) (field : String) : Except RequestError Route :=
  match Route.ofField? catalog field with
  | some route => .ok route
  | none => .error (.unknownField field)

end Catalog

end TenantGrid
