import TenantGrid.Catalog.Schema
/-!
# Reference data

The statistics that are tracked and the sources that artist links point to, each found by its id.
-/
namespace TenantGrid

inductive TagType where
  /-- Entered by a user of an organization. -/
  | user
  /-- Assigned from outside, as a rule for all organizations. -/
  | genre
  deriving DecidableEq, Repr

namespace TagType

def id : TagType → Int
  | user => 1
  | genre => 2

def ofId? (id : Int) : Option TagType :=
  if id = 1 then some user else if id = 2 then some genre else none

def name : TagType → String
  | user => "user"
  | genre => "genre"

end TagType

structure StatisticType where
  id : Int
  source : String
  key : String
  name : String
  format : String
  displayOrder : Option Int
  deriving DecidableEq, Repr

structure LinkSource where
  id : Int
  key : String
  logo : Option String
  url : String
  deriving DecidableEq, Repr

/-- An entry put in its place by its id; it replaces an entry with the same id. -/
def insertById {α : Type} (id : α → Int) (entry : α) : List α → List α
  | [] => [entry]
  | other :: rest =>
    if id entry < id other then entry :: other :: rest
    else if id entry = id other then entry :: rest
    else other :: insertById id entry rest

/-- Reference data in ascending order of ids, which are all different. -/
structure Catalog where
  statisticTypes : List StatisticType := []
  linkSources : List LinkSource := []
  deriving DecidableEq, Repr

namespace Catalog

def ofLists (types : List StatisticType) (sources : List LinkSource) : Catalog where
  statisticTypes := types.foldl (fun known t => insertById StatisticType.id t known) []
  linkSources := sources.foldl (fun known s => insertById LinkSource.id s known) []

def statisticType? (catalog : Catalog) (id : Int) : Option StatisticType :=
  catalog.statisticTypes.find? fun t => t.id == id

def linkSource? (catalog : Catalog) (id : Int) : Option LinkSource :=
  catalog.linkSources.find? fun s => s.id == id

/-- The place of a statistic type in lists; those without a place of their own come last. -/
def displayPlace (t : StatisticType) : Int :=
  t.displayOrder.getD Int64.maxValue.toInt

/-- Statistic types in display order, those at one place in the order of their ids. -/
def displayed (catalog : Catalog) : List StatisticType :=
  catalog.statisticTypes.mergeSort fun s t => displayPlace s ≤ displayPlace t

end Catalog

end TenantGrid
