import TenantGrid.Proofs.Sql.Meaning
/-!
# Conditions

When a condition is true of a row, by the form of the condition, and which rows an expression
reads. An expression that reads only some of the rows in reach has the same value wherever these
are the same, so that joins may add rows beside them.
-/
namespace TenantGrid.Sql

attribute [local simp] Expr.value

variable (c : Collation) (db : Database)

/-- Whether a condition is true of a row. -/
def Expr.Holds (e : Expr) (group : Multiset Env) (env : Env) : Prop :=
  e.value c db group env = .bool true

instance (e : Expr) (group : Multiset Env) (env : Env) : Decidable (e.Holds c db group env) := by
  unfold Expr.Holds; infer_instance

/-- Whether an expression reads no rows but those that go by the names, and sums up none. -/
def Expr.ReadsOnly (names : List String) (e : Expr) : Prop :=
  ∀ (c : Collation) (db : Database) (group group' : Multiset Env) (env env' : Env),
    (∀ name ∈ names, env.lookup name = env'.lookup name) →
      e.value c db group env = e.value c db group' env'

/-- Whether a query reads no rows but its own. -/
def Query.IsClosed (query : Query) : Prop :=
  ∀ (c : Collation) (db : Database) (outer : Env), queryResults c db query outer = query.results c db

section Lists

variable (group : Multiset Env) (env : Env)

theorem valuesOfEach_eq_map (args : List Expr) :
    valuesOfEach c db args group env = args.map fun e => e.value c db group env := by
  induction args with
  | nil => rfl
  | cons e rest ih => rw [valuesOfEach, ih, List.map_cons]

theorem itemValues_eq_map (items : List (SelectItem Expr)) :
    itemValues c db items group env = items.map fun item => item.expr.value c db group env := by
  induction items with
  | nil => rfl
  | cons item rest ih =>
    cases item
    rw [itemValues, ih, List.map_cons]

theorem keyValues_eq_map (keys : List (OrderKey Expr)) :
    keyValues c db keys group env = keys.map fun key => key.expr.value c db group env := by
  induction keys with
  | nil => rfl
  | cons key rest ih =>
    cases key
    rw [keyValues, ih, List.map_cons]

end Lists

section Holds

variable {c db} {group : Multiset Env} {env : Env}

theorem Expr.holds_and (e f : Expr) :
    (e.and f).Holds c db group env ↔ e.Holds c db group env ∧ f.Holds c db group env := by
  simp [Holds, Expr.and, Collation.binary, Truth.and_eq_true]

theorem Expr.holds_or (e f : Expr) :
    (e.or f).Holds c db group env ↔ e.Holds c db group env ∨ f.Holds c db group env := by
  simp [Holds, Expr.or, Collation.binary, Truth.or_eq_true]

theorem Expr.holds_paren (e : Expr) :
    (Expr.paren e).Holds c db group env ↔ e.Holds c db group env := by
  simp [Holds]

theorem Expr.holds_eq (e f : Expr) :
    (e.eq f).Holds c db group env ↔ c.Same (e.value c db group env) (f.value c db group env) := by
  simp [Holds, Expr.eq, Collation.binary, Collation.equal_eq_true]

theorem Expr.holds_isNull (e : Expr) :
    (Expr.isNull e false).Holds c db group env ↔ e.value c db group env = .null := by
  simp [Holds]

theorem Expr.holds_inQuery (e : Expr) (query : Query) :
    (Expr.inQuery e query false).Holds c db group env ↔
      ∃ r ∈ queryResults c db query env,
        c.Same (e.value c db group env) (r.values.headD .null) := by
  simp [Holds, Truth.negatedIf, Collation.among_eq_true]

theorem Expr.holds_notInQuery (e : Expr) (query : Query)
    (he : e.value c db group env ≠ .null)
    (hquery : ∀ r ∈ queryResults c db query env, r.values.headD .null ≠ .null) :
    (Expr.inQuery e query true).Holds c db group env ↔
      ¬ ∃ r ∈ queryResults c db query env,
        c.Same (e.value c db group env) (r.values.headD .null) := by
  have hvalues : ∀ w ∈ (queryResults c db query env).map fun r => r.values.headD .null,
      w ≠ .null := by
    intro w hw
    obtain ⟨r, hr, rfl⟩ := Multiset.mem_map.mp hw
    exact hquery r hr
  simp only [Holds, value, Truth.negatedIf, if_true, Truth.value_eq_bool, Truth.not_eq_some,
    Bool.not_true, Collation.among_eq_false he hvalues]
  simp

@[simp] theorem Expr.value_param (v : Value) : (Expr.param v).value c db group env = v := by
  simp

@[simp] theorem Expr.value_boolLiteral (b : Bool) :
    (Expr.boolLiteral b).value c db group env = .bool b := by
  simp [Expr.boolLiteral, Literal.meaning]

@[simp] theorem Expr.value_ofTable (table name : String) :
    (Expr.ofTable table name).value c db group env = readColumn env (some table) name := by
  simp [Expr.ofTable]

/-- Conditions joined from the left hold if the first and all others do. -/
theorem Expr.holds_foldl_and (conditions : List Expr) (first : Expr) :
    (conditions.foldl Expr.and first).Holds c db group env ↔
      first.Holds c db group env ∧ ∀ e ∈ conditions, e.Holds c db group env := by
  induction conditions generalizing first with
  | nil => simp
  | cons e rest ih => simp [ih, holds_and, and_assoc]

end Holds

/-- A name that nothing goes by is not found. -/
theorem lookup_eq_none_iff_notMem {α : Type} (named : List (String × α)) (name : String) :
    named.lookup name = none ↔ name ∉ named.map Prod.fst := by
  rw [List.lookup_eq_none_iff]
  simp only [bne_iff_ne, List.mem_map, not_exists, not_and, ne_comm, ne_eq]

namespace Expr.ReadsOnly

variable {names : List String}

theorem mono {e : Expr} {more : List String} (h : e.ReadsOnly names)
    (hsub : ∀ name ∈ names, name ∈ more) : e.ReadsOnly more := by
  intro c db group group' env env' henv
  exact h c db group group' env env' fun name hname => henv name (hsub name hname)

theorem ofTable {table : String} (name : String) (h : table ∈ names) :
    (Expr.ofTable table name).ReadsOnly names := by
  intro c db group group' env env' henv
  simp [readColumn, henv table h]

theorem param (v : Value) : (Expr.param v).ReadsOnly names := by
  intro c db group group' env env' _
  simp

theorem boolLiteral (b : Bool) : (Expr.boolLiteral b).ReadsOnly names := by
  intro c db group group' env env' _
  simp

private theorem binary {e f : Expr} (op : BinaryOp) (he : e.ReadsOnly names)
    (hf : f.ReadsOnly names) : (Expr.binary op e f).ReadsOnly names := by
  intro c db group group' env env' henv
  simp only [value]
  rw [he c db group group' env env' henv, hf c db group group' env env' henv]

theorem eq {e f : Expr} (he : e.ReadsOnly names) (hf : f.ReadsOnly names) :
    (e.eq f).ReadsOnly names :=
  he.binary .eq hf

theorem and {e f : Expr} (he : e.ReadsOnly names) (hf : f.ReadsOnly names) :
    (e.and f).ReadsOnly names :=
  he.binary .and hf

theorem or {e f : Expr} (he : e.ReadsOnly names) (hf : f.ReadsOnly names) :
    (e.or f).ReadsOnly names :=
  he.binary .or hf

theorem isNull {e : Expr} (negated : Bool) (he : e.ReadsOnly names) :
    (Expr.isNull e negated).ReadsOnly names := by
  intro c db group group' env env' henv
  simp only [value]
  rw [he c db group group' env env' henv]

theorem paren {e : Expr} (he : e.ReadsOnly names) : (Expr.paren e).ReadsOnly names := by
  intro c db group group' env env' henv
  simp only [value]
  exact he c db group group' env env' henv

theorem inQuery {e : Expr} {query : Query} (negated : Bool) (he : e.ReadsOnly names)
    (hquery : query.IsClosed) : (Expr.inQuery e query negated).ReadsOnly names := by
  intro c db group group' env env' henv
  simp only [value]
  rw [he c db group group' env env' henv, hquery c db env, hquery c db env']

theorem foldl_and {conditions : List Expr} {first : Expr} (hfirst : first.ReadsOnly names)
    (h : ∀ e ∈ conditions, e.ReadsOnly names) :
    (conditions.foldl Expr.and first).ReadsOnly names := by
  induction conditions generalizing first with
  | nil => exact hfirst
  | cons e rest ih =>
    apply ih (hfirst.and (h e (by simp)))
    intro f hf
    exact h f (by simp [hf])

/-- Rows at the end of a list are not read if the names are found before. -/
theorem append {e : Expr} (h : e.ReadsOnly names) (c : Collation) (db : Database)
    (group group' : Multiset Env) {env : Env} (more : Env)
    (hnames : ∀ name ∈ names, name ∈ env.map Prod.fst) :
    e.value c db group (env ++ more) = e.value c db group' env := by
  apply h
  intro name hname
  rw [List.lookup_append]
  cases hfound : env.lookup name with
  | some row => simp
  | none => exact absurd (hnames name hname) ((lookup_eq_none_iff_notMem env name).mp hfound)

end Expr.ReadsOnly

/-- A query of one column of one table under an alias. -/
def columnQuery (table aliasName column : String) (distinct : Bool) (condition : Expr) : Query :=
  { select := [{ expr := .ofTable aliasName column }]
    distinct
    source := some { table, aliasName := some aliasName }
    filter := some condition }

private theorem columnQuery_results (c : Collation) (db : Database)
    (table aliasName column : String) (distinct : Bool) {condition : Expr}
    (h : condition.ReadsOnly [aliasName]) (outer : Env) :
    queryResults c db (columnQuery table aliasName column distinct condition) outer =
      let found := ((db table).filter fun row =>
        condition.value c db 0 [(aliasName, row)] = .bool true).map
          fun row => (⟨[row column], []⟩ : Selected)
      if distinct then found.dedup else found := by
  have hcondition : ∀ (group : Multiset Env) (row : Record),
      condition.value c db group ((aliasName, row) :: outer) =
        condition.value c db 0 [(aliasName, row)] := by
    intro group row
    apply h
    simp
  simp only [columnQuery, queryResults, joinedRows, sourceRows, TableRef.referenceName,
    Option.getD_some, Multiset.map_map, Function.comp_def, List.cons_append, List.nil_append,
    Multiset.filter_map, meets, hcondition, List.isEmpty_nil, if_true, List.any_cons, List.any_nil,
    Expr.ofTable, Expr.hasAggregate, Bool.or_false, Bool.false_eq_true, if_false, itemValues,
    keyValues, Expr.value]
  simp [readColumn]

theorem columnQuery_isClosed (table aliasName column : String) (distinct : Bool) {condition : Expr}
    (h : condition.ReadsOnly [aliasName]) :
    (columnQuery table aliasName column distinct condition).IsClosed := by
  intro c db outer
  rw [Query.results, columnQuery_results c db _ _ _ _ h, columnQuery_results c db _ _ _ _ h]

/-- The selected values are those of the rows that meet the condition. -/
theorem mem_columnQuery (c : Collation) (db : Database) (table aliasName column : String)
    (distinct : Bool) {condition : Expr} (h : condition.ReadsOnly [aliasName]) (outer : Env)
    (r : Selected) :
    r ∈ queryResults c db (columnQuery table aliasName column distinct condition) outer ↔
      ∃ row ∈ db table, condition.Holds c db 0 [(aliasName, row)] ∧ r = ⟨[row column], []⟩ := by
  rw [columnQuery_results c db _ _ _ _ h]
  cases distinct <;>
    simp [Expr.Holds, Multiset.mem_filter, and_assoc, eq_comm]

end TenantGrid.Sql
