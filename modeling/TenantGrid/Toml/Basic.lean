import TenantGrid.Number.Double
/-!
# TOML documents

A document is a table of named values. How a table was first written decides what may be added to
it later: a table under a header of its own takes no dotted keys from outside, one made by dotted
keys takes no header, and an inline table is closed.
-/
namespace TenantGrid

/-- How a table was first written. -/
inductive TableOrigin where
  /-- By a header for a table within it. -/
  | implied
  /-- By a dotted key. -/
  | dotted
  /-- By a header of its own; the whole document counts as such a table. -/
  | headed
  /-- As an inline value. -/
  | inline
  deriving DecidableEq, Repr

inductive Toml where
  | string (s : String)
  | integer (n : Int)
  | real (x : Double)
  | bool (b : Bool)
  /-- A date, a time of day or both, as written. -/
  | moment (text : String)
  | array (items : List Toml)
  | table (origin : TableOrigin) (entries : List (String × Toml))
  /-- The tables of a repeated header, the last one first. -/
  | tables (reversed : List (List (String × Toml)))

/-- The named values of a table. -/
abbrev TomlEntries := List (String × Toml)

namespace TomlEntries

/-- The entries with one of them set. -/
def put (name : String) (value : Toml) : TomlEntries → TomlEntries
  | [] => [(name, value)]
  | (other, old) :: rest =>
    if other = name then (name, value) :: rest else (other, old) :: put name value rest

/-- The entries with a change made to a table within them, which is found by the names of a path.
On the way, dotted keys make dotted tables and enter those that have no header of their own;
headers make implied tables and enter all but inline ones. Of repeated tables the last is meant. -/
def change? (dotted : Bool) (change : TableOrigin → TomlEntries → Option TomlEntries) :
    List String → TableOrigin → TomlEntries → Option TomlEntries
  | [], origin, entries => change origin entries
  | name :: path, _, entries =>
    match entries.lookup name with
    | none =>
      let origin := if dotted then TableOrigin.dotted else .implied
      (change? dotted change path origin []).map fun inner =>
        entries.put name (.table origin inner)
    | some (.table origin inner) =>
      if origin = .inline ∨ (dotted ∧ origin = .headed) then none
      else (change? dotted change path origin inner).map fun inner =>
        entries.put name (.table origin inner)
    | some (.tables (last :: earlier)) =>
      (change? dotted change path .headed last).map fun last =>
        entries.put name (.tables (last :: earlier))
    | some _ => none

/-- The entries with a value under a new name. A dotted key ends in a table made by dotted keys. -/
def assign? (path : List String) (name : String) (value : Toml) (entries : TomlEntries) :
    Option TomlEntries :=
  change? true
    (fun origin entries =>
      if (origin = .dotted ↔ path.isEmpty) ∨ (entries.lookup name).isSome then none
      else some (entries.put name value))
    path .headed entries

/-- The entries with the table of a header, which may be implied so far but not written. -/
def openTable? (path : List String) (name : String) : TomlEntries → Option TomlEntries :=
  change? false
    (fun _ entries =>
      match entries.lookup name with
      | none => some (entries.put name (.table .headed []))
      | some (.table .implied inner) => some (entries.put name (.table .headed inner))
      | some _ => none)
    path .headed

/-- The entries with one more table of a repeated header. -/
def addTable? (path : List String) (name : String) : TomlEntries → Option TomlEntries :=
  change? false
    (fun _ entries =>
      match entries.lookup name with
      | none => some (entries.put name (.tables [[]]))
      | some (.tables reversed) => some (entries.put name (.tables ([] :: reversed)))
      | some _ => none)
    path .headed

end TomlEntries

end TenantGrid
