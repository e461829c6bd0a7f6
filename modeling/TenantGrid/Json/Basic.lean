import TenantGrid.Number.Notation
/-!
# JSON values

Values of JSON. Numbers keep whether they are whole or doubles, and objects keep the order of their
members: those that are read from a text have sorted names without repetition.
-/
namespace TenantGrid

inductive JsonNumber where
  /-- A whole number from -2 ^ 63 to 2 ^ 64 - 1. -/
  | whole (n : Int)
  | real (x : Double)
  deriving DecidableEq

inductive Json where
  | null
  | bool (b : Bool)
  | number (n : JsonNumber)
  | string (s : String)
  | array (items : List Json)
  | object (members : List (String × Json))

namespace Json

def ofInt (n : Int) : Json :=
  number (.whole n)

def ofNat (n : Nat) : Json :=
  number (.whole n)

def ofOption {α : Type} (encode : α → Json) : Option α → Json
  | some a => encode a
  | none => null

def isNull : Json → Bool
  | null => true
  | _ => false

/-- The members with one of them set, in the order of their names. -/
def setMember (name : String) (value : Json) : List (String × Json) → List (String × Json)
  | [] => [(name, value)]
  | (other, old) :: rest =>
    if name < other then (name, value) :: (other, old) :: rest
    else if name = other then (name, value) :: rest
    else (other, old) :: setMember name value rest

end Json

end TenantGrid
