import TenantGrid.Catalog.Schema
import TenantGrid.Proofs.Sql.Collation
/-!
# Well-typed statements

What the store asks of a statement before it runs: every column is one of a table in reach, no two
tables of a query go by one name, a grouped query selects group keys and aggregates alone, and a bound
value stands beside a column that can hold it. A subquery has only its own tables in reach.
-/
namespace TenantGrid

open Sql (Expr TableRef Value)

/-- Whether a value is one of those that a column of the type holds. -/
def ColumnType.Admits : ColumnType → Value → Prop
  | .text, .text _ | .int, .int _ | .real, .real _ | .bool, .bool _ => True
  | .timestamp, .timestamp _ | .uuid, .uuid _ => True
  | .choice choices, .int code => ∃ choice ∈ choices, choice.code = code
  | _, _ => False

namespace Sql

/-- The tables whose columns an expression can read. -/
structure Level where
  tables : List TableRef := []
  /-- The table of an update, whose columns stand without a table before them. -/
  updated : Option String := none

namespace Level

def table? (level : Level) (name : String) : Option Table :=
  (level.tables.find? fun ref => ref.referenceName == name).bind fun ref => Schema.table? ref.table

def column? (level : Level) : Option String → String → Option Column
  | some table, name => (level.table? table).bind fun found => found.column? name
  | none, name => (level.updated.bind Schema.table?).bind fun found => found.column? name

/-- Whether an expression can stand beside the operand: a bound value must be one for its column. -/
def Fits (level : Level) (operand : Expr) : Expr → Prop
  | .param value => ∃ table name column, operand = .column table name ∧
      level.column? table name = some column ∧ column.type.Admits value
  | _ => True

end Level

/-- Whether the operator connects conditions and compares no values. -/
def BinaryOp.isConnective : BinaryOp → Bool
  | and | or => true
  | _ => false

def Expr.IsAggregate : Expr → Prop
  | .call function _ _ => (Aggregate.ofName? function).isSome
  | _ => False

mutual

@[simp] def Expr.IsWellTyped (level : Level) : Expr → Prop
  | .column table name => (level.column? table name).isSome
  | .literal _ | .param _ => True
  | .binary op left right =>
    left.IsWellTyped level ∧ right.IsWellTyped level ∧
      (op.isConnective = false → level.Fits left right ∧ level.Fits right left)
  | .not operand | .isNull operand _ | .paren operand => operand.IsWellTyped level
  | .call _ _ args => eachWellTyped level args
  | .inList operand values _ =>
    operand.IsWellTyped level ∧ eachWellTyped level values ∧
      ∀ value ∈ values, level.Fits operand value
  | .inQuery operand query _ => operand.IsWellTyped level ∧ queryWellTyped query
  | .like operand pattern _ _ _ =>
    operand.IsWellTyped level ∧ pattern.IsWellTyped level ∧ level.Fits operand pattern
  | .star table => ∀ name ∈ table, (level.table? name).isSome

def eachWellTyped (level : Level) : List Expr → Prop
  | [] => True
  | e :: rest => e.IsWellTyped level ∧ eachWellTyped level rest

def queryWellTyped : QueryOf Expr → Prop
  | ⟨select, _, source, joins, filter, groupBy, orderBy, _⟩ =>
    let tables := source.toList ++ joins.map Join.table
    (∀ ref ∈ tables, (Schema.table? ref.table).isSome) ∧
      (tables.map TableRef.referenceName).Nodup ∧
      joinsWellTyped source.toList joins ∧
      itemsWellTyped { tables } select ∧ filterWellTyped { tables } filter ∧
      eachWellTyped { tables } groupBy ∧ keysWellTyped { tables } orderBy ∧
      (groupBy ≠ [] → ∀ e ∈ select.map SelectItem.expr ++ orderBy.map OrderKey.expr,
        e ∈ groupBy ∨ e.IsAggregate)

/-- The condition of a join reads the tables before it and its own. -/
def joinsWellTyped (before : List TableRef) : List (Join Expr) → Prop
  | [] => True
  | ⟨_, table, condition⟩ :: rest =>
    condition.IsWellTyped { tables := before ++ [table] } ∧ joinsWellTyped (before ++ [table]) rest

def itemsWellTyped (level : Level) : List (SelectItem Expr) → Prop
  | [] => True
  | ⟨expr, _⟩ :: rest => expr.IsWellTyped level ∧ itemsWellTyped level rest

def filterWellTyped (level : Level) : Option Expr → Prop
  | none => True
  | some condition => condition.IsWellTyped level

def keysWellTyped (level : Level) : List (OrderKey Expr) → Prop
  | [] => True
  | ⟨expr, _, _⟩ :: rest => expr.IsWellTyped level ∧ keysWellTyped level rest

end

def Query.IsWellTyped (query : Query) : Prop :=
  queryWellTyped query

/-- An update assigns to columns of its table what they can hold. -/
def Update.IsWellTyped (update : Update) : Prop :=
  (∀ assignment ∈ update.assignments, ∃ column,
    Level.column? { updated := some update.table } none assignment.1 = some column ∧
      assignment.2.IsWellTyped { updated := some update.table } ∧
      ∀ value, assignment.2 = .param value → column.type.Admits value) ∧
    filterWellTyped { updated := some update.table } update.filter

variable {level : Level}

theorem eachWellTyped_iff {es : List Expr} :
    eachWellTyped level es ↔ ∀ e ∈ es, e.IsWellTyped level := by
  induction es with
  | nil => simp [eachWellTyped]
  | cons e rest ih => simp [eachWellTyped, ih]

theorem itemsWellTyped_iff {items : List (SelectItem Expr)} :
    itemsWellTyped level items ↔ ∀ item ∈ items, item.expr.IsWellTyped level := by
  induction items with
  | nil => simp [itemsWellTyped]
  | cons item rest ih =>
    cases item
    simp [itemsWellTyped, ih]

theorem keysWellTyped_iff {keys : List (OrderKey Expr)} :
    keysWellTyped level keys ↔ ∀ key ∈ keys, key.expr.IsWellTyped level := by
  induction keys with
  | nil => simp [keysWellTyped]
  | cons key rest ih =>
    cases key
    simp [keysWellTyped, ih]

namespace Expr.IsWellTyped

variable {e f : Expr} {table table' : Option String} {name name' : String} {column : Column}

theorem ofColumn (h : level.column? table name = some column) :
    (Expr.column table name).IsWellTyped level := by
  simp [h]

theorem and (he : e.IsWellTyped level) (hf : f.IsWellTyped level) :
    (e.and f).IsWellTyped level := by
  unfold Expr.and
  simp only [Expr.IsWellTyped]
  exact ⟨he, hf, fun h => by simp [BinaryOp.isConnective] at h⟩

theorem or (he : e.IsWellTyped level) (hf : f.IsWellTyped level) :
    (e.or f).IsWellTyped level := by
  unfold Expr.or
  simp only [Expr.IsWellTyped]
  exact ⟨he, hf, fun h => by simp [BinaryOp.isConnective] at h⟩

theorem foldl_and {conditions : List Expr} {first : Expr} (hfirst : first.IsWellTyped level)
    (h : ∀ e ∈ conditions, e.IsWellTyped level) :
    (conditions.foldl Expr.and first).IsWellTyped level := by
  induction conditions generalizing first with
  | nil => exact hfirst
  | cons e rest ih =>
    apply ih (hfirst.and (h e List.mem_cons_self))
    intro f hf
    exact h f (List.mem_cons_of_mem e hf)

theorem compareParam (op : BinaryOp) (h : level.column? table name = some column) {value : Value}
    (hvalue : column.type.Admits value) :
    (Expr.binary op (.column table name) (.param value)).IsWellTyped level := by
  have hcolumn := ofColumn h
  simp only [Expr.IsWellTyped] at hcolumn ⊢
  exact ⟨hcolumn, trivial, fun _ => ⟨⟨table, name, column, rfl, h, hvalue⟩, trivial⟩⟩

theorem compareColumn (op : BinaryOp) (h : (Expr.column table name).IsWellTyped level)
    (h' : (Expr.column table' name').IsWellTyped level) :
    (Expr.binary op (.column table name) (.column table' name')).IsWellTyped level := by
  simp only [Expr.IsWellTyped] at h h' ⊢
  exact ⟨h, h', fun _ => ⟨trivial, trivial⟩⟩

theorem compareLiteral (op : BinaryOp) (h : (Expr.column table name).IsWellTyped level)
    (l : Literal) : (Expr.binary op (.column table name) (.literal l)).IsWellTyped level := by
  simp only [Expr.IsWellTyped] at h ⊢
  exact ⟨h, trivial, fun _ => ⟨trivial, trivial⟩⟩

theorem amongParams (h : level.column? table name = some column) {values : List Value}
    (hvalues : ∀ value ∈ values, column.type.Admits value) (negated : Bool) :
    (Expr.inList (.column table name) (values.map .param) negated).IsWellTyped level := by
  have hcolumn := ofColumn h
  simp only [Expr.IsWellTyped, eachWellTyped_iff, List.mem_map] at hcolumn ⊢
  refine ⟨hcolumn, ?_, ?_⟩
  · rintro _ ⟨value, _, rfl⟩
    trivial
  · rintro _ ⟨value, hvalue, rfl⟩
    exact ⟨table, name, column, rfl, h, hvalues value hvalue⟩

end Expr.IsWellTyped

theorem Level.column?_single (ref : TableRef) (name : String) :
    Level.column? { tables := [ref] } (some ref.referenceName) name =
      (Schema.table? ref.table).bind fun table => table.column? name := by
  simp [Level.column?, Level.table?]

/-- A name in reach stands for the table that goes by it. -/
theorem Level.table?_of_mem (level : Level) (hnodup : (level.tables.map TableRef.referenceName).Nodup)
    {ref : TableRef} (hmem : ref ∈ level.tables) :
    level.table? ref.referenceName = Schema.table? ref.table := by
  have hfound : level.tables.find? (fun other => other.referenceName == ref.referenceName) =
      some ref := by
    cases h : level.tables.find? fun other => other.referenceName == ref.referenceName with
    | none => simpa using List.find?_eq_none.mp h ref hmem
    | some other =>
      have hname : other.referenceName = ref.referenceName := by simpa using List.find?_some h
      rw [List.inj_on_of_nodup_map hnodup (List.mem_of_find?_eq_some h) hmem hname]
  rw [Level.table?, hfound]
  rfl

end Sql

end TenantGrid
