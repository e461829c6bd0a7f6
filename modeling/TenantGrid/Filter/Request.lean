import TenantGrid.Json.Printer
import TenantGrid.Json.Shape
import TenantGrid.Sql.Expr
/-!
# Requests

What the grid asks for: filter items that must all hold, sort items, and one page of the result.
Requests are read from JSON text and written back to it with every field spelled out.
-/
namespace TenantGrid

/-- Which memberships are visible by their mute flag. -/
inductive MuteMode where
  | hide
  | only
  | showAll
  deriving DecidableEq, Repr

/-- One condition on one field. -/
structure FilterItem where
  field : String
  operator : String
  value : Json

structure FilterModel where
  items : List FilterItem := []
  muted : Option MuteMode := none

structure SortItem where
  field : String
  direction : Sql.Direction
  deriving DecidableEq, Repr

/-- A page by its number, counted from zero, and its size. -/
structure Page where
  number : UInt64
  size : UInt64
  deriving DecidableEq

structure ListRequest where
  filter : FilterModel := {}
  sort : List SortItem := []
  page : UInt64 := 0
  pageSize : Option UInt64 := none

namespace MuteMode

def name : MuteMode → String
  | hide => "hide"
  | only => "only"
  | showAll => "show-all"

def json (mode : MuteMode) : Json :=
  .string mode.name

def shape : Json.Shape MuteMode :=
  .choice [("hide", hide), ("only", only), ("show-all", showAll)]

end MuteMode

namespace FilterItem

def json (item : FilterItem) : Json :=
  .object [("field", .string item.field), ("operator", .string item.operator),
    ("value", item.value)]

def shape : Json.Shape FilterItem := fun room w => do
  let fields ← Json.Shape.record ["field", "operator", "value"] room w
  let field ← fields.required "field" .string
  let operator ← fields.required "operator" .string
  let value ← fields.withDefault "value" .json .null
  some { field, operator, value }

end FilterItem

namespace FilterModel

/-- Muted artists are hidden unless the filter says otherwise. -/
def muteMode (filter : FilterModel) : MuteMode :=
  filter.muted.getD .hide

def json (filter : FilterModel) : Json :=
  .object [("items", .array (filter.items.map FilterItem.json)),
    ("muted", .ofOption MuteMode.json filter.muted)]

def shape : Json.Shape FilterModel := fun room w => do
  let fields ← Json.Shape.record ["items", "muted"] room w
  let items ← fields.withDefault "items" (.list FilterItem.shape) []
  let muted ← fields.withDefault "muted" (.optional MuteMode.shape) none
  some { items, muted }

end FilterModel

namespace SortItem

def directionName : Sql.Direction → String
  | .asc => "asc"
  | .desc => "desc"

def json (item : SortItem) : Json :=
  .object [("field", .string item.field), ("sort", .string (directionName item.direction))]

def shape : Json.Shape SortItem := fun room w => do
  let fields ← Json.Shape.record ["field", "sort"] room w
  let field ← fields.required "field" .string
  let direction ← fields.required "sort" (.choice [("asc", .asc), ("desc", .desc)])
  some { field, direction }

def listShape : Json.Shape (List SortItem) :=
  .list shape

end SortItem

namespace Page

/-- How many rows come before the page, at most 2 ^ 64 - 1. -/
def offset (page : Page) : UInt64 :=
  .ofNat (min (page.number.toNat * page.size.toNat) (UInt64.size - 1))

end Page

namespace ListRequest

def json (request : ListRequest) : Json :=
  .object [("filterModel", request.filter.json),
    ("sortModel", .array (request.sort.map SortItem.json)),
    ("page", .ofNat request.page.toNat),
    ("pageSize", .ofOption (fun size => .ofNat size.toNat) request.pageSize)]

def shape : Json.Shape ListRequest := fun room w => do
  let fields ← Json.Shape.record ["filterModel", "sortModel", "page", "pageSize"] room w
  let filter ← fields.withDefault "filterModel" FilterModel.shape {}
  let sort ← fields.withDefault "sortModel" SortItem.listShape []
  let page ← fields.withDefault "page" .count 0
  let pageSize ← fields.withDefault "pageSize" (.optional .count) none
  some { filter, sort, page, pageSize }

/-- The page asked for, of a given size unless the request names one. -/
def pageOf (request : ListRequest) (defaultSize : UInt64) : Page where
  number := request.page
  size := request.pageSize.getD defaultSize

end ListRequest

end TenantGrid
