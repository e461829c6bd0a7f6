import TenantGrid.Json.Reader
/-!
# Shapes

Data of a fixed form read from JSON text. A record is an object with its fields by name, where other
members are passed over unread, or an array of its fields in their order. A choice is a string, or
an object whose one member has that name and the value null.
-/
namespace TenantGrid.Json

/-- Reads data from a written value, with room for so many levels of arrays and objects. -/
abbrev Shape (α : Type) := Nat → Written → Option α

/-- The fields of a record that are given, and the room left for them. -/
structure Fields where
  room : Nat
  given : List (String × Written)

namespace Shape

def json : Shape Json := ofWritten?

def string : Shape String
  | _, .string units => unitString? units
  | _, _ => none

/-- A whole number from 0 to 2 ^ 64 - 1. -/
def count : Shape UInt64
  | _, .number n => match n.value? with
    | some (.whole n) => if 0 ≤ n then some (.ofNat n.toNat) else none
    | _ => none
  | _, _ => none

def list {α : Type} (item : Shape α) : Shape (List α)
  | 0, _ => none
  | room + 1, .array items => items.mapM (item room)
  | _, _ => none

/-- The data, or nothing for null. -/
def optional {α : Type} (shape : Shape α) : Shape (Option α)
  | _, .null => some none
  | room, w => (shape room w).map some

def choice {α : Type} (names : List (String × α)) : Shape α
  | _, .string units => (unitString? units).bind fun name => names.lookup name
  | room, .object [(units, .null)] =>
    if room = 0 then none else (unitString? units).bind fun name => names.lookup name
  | _, _ => none

/-- The members with one of the names; nothing if one of them comes twice. -/
private def named? (names : List String) (given : List (String × Written)) :
    List (List StringUnit × Written) → Option (List (String × Written))
  | [] => some given
  | (units, value) :: rest => do
    let name ← unitString? units
    if !names.contains name then named? names given rest
    else if (given.lookup name).isSome then none
    else named? names ((name, value) :: given) rest

def record (names : List String) : Shape Fields
  | 0, _ => none
  | room + 1, .object members => (named? names [] members).map (Fields.mk room)
  | room + 1, .array items =>
    if names.length < items.length then none else some ⟨room, names.zip items⟩
  | _, _ => none

end Shape

namespace Fields

def required {α : Type} (fields : Fields) (name : String) (shape : Shape α) : Option α :=
  fields.given.lookup name >>= shape fields.room

/-- The field, or what stands for it when it is not given. -/
def withDefault {α : Type} (fields : Fields) (name : String) (shape : Shape α) (absent : α) :
    Option α :=
  match fields.given.lookup name with
  | some w => shape fields.room w
  | none => some absent

end Fields

/-- The data that a JSON text holds. -/
def Shape.read? {α : Type} (shape : Shape α) (text : String) : Option α :=
  Written.ofText? text >>= shape nestingLimit

end TenantGrid.Json
