import TenantGrid.Plan.Basic
import TenantGrid.Proofs.Catalog.Instance
import TenantGrid.Proofs.Filter.Test
/-!
# Reading an artist directly

What a request asks of one artist, read off the database table by table and without a join. An item
names a value of the artist, some value of its membership rows, or the rows of a relation, and its
test is made of these.
-/
namespace TenantGrid

open Sql (Collation Database Expr Record Value)

/-- The row of a bag that has just one. -/
def soleRow? (rows : Multiset Record) : Option Record :=
  Quotient.liftOn rows (fun | [row] => some row | _ => none) fun l l' h => by
    have hlength := List.Perm.length_eq h
    match l, l', h with
    | [], _, h => rw [List.nil_perm.mp h]
    | [row], _, h => rw [List.perm_singleton.mp (List.Perm.symm h)]
    | _ :: _ :: _, [], _ => simp at hlength
    | _ :: _ :: _, [_], _ => simp at hlength
    | _ :: _ :: _, _ :: _ :: _, _ => rfl

/-- A column of the only row, NULL without one. -/
def soleValue (rows : Multiset Record) (name : String) : Value :=
  ((soleRow? rows).map fun row => row name).getD .null

section Rows

variable (c : Collation) (db : Database) (tenant : String) (artist : Record)

def statisticRows (typeId : Int) : Multiset Record :=
  (db Schema.statistics.name).filter fun row =>
    c.Same (row "artist_id") (artist "id") ∧ c.Same (row "statistic_type_id") (.int typeId)

/-- The evaluation that the artist points at. -/
def evaluationRows : Multiset Record :=
  (db Schema.evaluations.name).filter fun row => c.Same (row "id") (artist "evaluation_id")

/-- The tenant's membership rows of the artist in one archive state. -/
def membershipRows (archived : Bool) : Multiset Record :=
  (db Schema.memberships.name).filter fun row =>
    c.Same (row "artist_id") (artist "id") ∧ c.Same (row "organization_id") (.text tenant)
      ∧ row "archived" = .bool archived

/-- The artist's tags of a type that belong to all organizations or to the tenant. -/
def tagRows (type : TagType) : Multiset Record :=
  (db Schema.tags.name).filter fun row =>
    c.Same (row "artist_id") (artist "id") ∧ c.Same (row "tag_type_id") (.int type.id)
      ∧ (row "organization_id" = .null ∨ c.Same (row "organization_id") (.text tenant))

/-- The tenant's users that the artist is attributed to. -/
def userRows : Multiset Record :=
  (db Schema.userArtists.name).filter fun row =>
    c.Same (row "artist_id") (artist "id") ∧ c.Same (row "organization_id") (.text tenant)

/-- Whether a membership row is in the mute state that a scope asks for. -/
def Scope.ShowsMuted (row : Record) : Scope → Prop
  | .visible .hide => row "muted" = .bool false
  | .visible .only => row "muted" = .bool true
  | .visible .showAll | .archived => True

/-- Whether the tenant has the artist in the state that a scope asks for. -/
def Scope.Shows (scope : Scope) : Prop :=
  ∃ row ∈ membershipRows c db tenant artist scope.isArchived, scope.ShowsMuted row

end Rows

namespace Compiler

variable (compiler : Compiler) (c : Collation) (item : FilterItem)

/-- Whether an item's condition on a column, put on a value instead, is true. -/
def Accepts (type : ColumnType) (percent : Bool) (op : Operator) (v : Value) : Prop :=
  ∃ e, ({ field := item.field, column := .param v, type, percent } : Subject).predicate
      compiler.escapeNegated op item.value = .ok (some e) ∧ e.Holds c (fun _ => 0) 0 []

/-- Whether a value passes under the operator that the item names. -/
def Passes (type : ColumnType) (percent : Bool) (v : Value) : Prop :=
  ∃ op, Operator.ofName? item.operator = some op ∧ compiler.Accepts c item type percent op v

/-- Whether a value passes under the operator that a choice of attribution stands for. -/
def PassesAttribution (type : ColumnType) (v : Value) : Prop :=
  ∃ op, attributionOperator item.field item.value = .ok (some op) ∧
    compiler.Accepts c item type false op v

/-- Whether an item on a relation finds what it looks for, or finds nothing if its operator is
negative. -/
def PassesRelated (rows : Multiset Record) (name : String) : Prop :=
  ∃ op, Operator.ofName? item.operator = some op ∧
    let found := ∃ row ∈ rows, ∃ m : Membership,
      Membership.ofItem compiler.escapeNegated item.field (.param (row name)) op item.value
        = .ok (some m) ∧ ∀ e ∈ m.inner, e.Holds c (fun _ => 0) 0 []
    if op.isNegative then ¬ found else found

/-- Whether an artist meets an item by what its route names. -/
def Meets (db : Database) (tenant : String) (archived : Bool) (artist : Record) : Route → Prop
  | .artist column => compiler.Passes c item column.type false (artist column.name)
  | .statistic typeId metric =>
    compiler.Passes c item .real metric.isPercent
      (soleValue (statisticRows c db artist typeId) metric.column)
  | .evaluation column =>
    compiler.Passes c item column.type false (soleValue (evaluationRows c db artist) column.name)
  | .membership column =>
    ∃ row ∈ membershipRows c db tenant artist archived,
      compiler.Passes c item column.type false (row column.name)
  | .attribution column =>
    ∃ row ∈ membershipRows c db tenant artist archived,
      compiler.PassesAttribution c item column.type (row column.name)
  | .tags type => compiler.PassesRelated c item (tagRows c db tenant artist type) "tag"
  | .users => compiler.PassesRelated c item (userRows c db tenant artist) "user_id"

/-- Whether an item puts a condition at all. -/
def Contributes (tenant : String) (route : Route) : Prop :=
  ∃ e, compiler.itemPredicate tenant [] item route = .ok (some e)

end Compiler

private theorem soleRow?_singleton (row : Record) : soleRow? {row} = some row :=
  rfl

private theorem soleRow?_zero : soleRow? 0 = none :=
  rfl

/-- A left join to at most one row reads the value of the only row. -/
theorem exists_left_join_iff {rows : Multiset Record} (hcard : rows.card ≤ 1) (name : String)
    (p : Value → Prop) :
    ((∃ row ∈ rows, p (row name)) ∨ (rows = 0 ∧ p .null)) ↔ p (soleValue rows name) := by
  rcases Nat.le_one_iff_eq_zero_or_eq_one.mp hcard with h | h
  · obtain rfl := Multiset.card_eq_zero.mp h
    simp [soleValue, soleRow?_zero]
  · obtain ⟨row, rfl⟩ := Multiset.card_eq_one.mp h
    simp [soleValue, soleRow?_singleton]

end TenantGrid
