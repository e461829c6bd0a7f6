import TenantGrid.Proofs.Sql.Answer
import TenantGrid.Proofs.Sql.Joins
/-!
# Two databases

When an expression or a query cannot tell two databases apart. Only queries read tables, and a table
that is read through a condition counts by the rows that meet it.
-/
namespace TenantGrid.Sql

/-- Whether an expression has the same values on two databases. -/
def Expr.SameOn (c : Collation) (db db' : Database) (e : Expr) : Prop :=
  ∀ (group : Multiset Env) (env : Env), e.value c db group env = e.value c db' group env

/-- Whether a query has the same results on two databases wherever it stands. -/
def Query.SameOn (c : Collation) (db db' : Database) (query : Query) : Prop :=
  ∀ outer : Env, queryResults c db query outer = queryResults c db' query outer

variable {c : Collation} {db db' : Database}

namespace Expr.SameOn

theorem column (table : Option String) (name : String) :
    (Expr.column table name).SameOn c db db' := by
  intro group env
  simp only [value]

theorem param (v : Value) : (Expr.param v).SameOn c db db' := by
  intro group env
  simp only [value]

theorem literal (l : Literal) : (Expr.literal l).SameOn c db db' := by
  intro group env
  simp only [value]

theorem binary {e f : Expr} (op : BinaryOp) (he : e.SameOn c db db') (hf : f.SameOn c db db') :
    (Expr.binary op e f).SameOn c db db' := by
  intro group env
  simp only [value, he group env, hf group env]

theorem eq {e f : Expr} (he : e.SameOn c db db') (hf : f.SameOn c db db') :
    (e.eq f).SameOn c db db' :=
  he.binary .eq hf

theorem and {e f : Expr} (he : e.SameOn c db db') (hf : f.SameOn c db db') :
    (e.and f).SameOn c db db' :=
  he.binary .and hf

theorem or {e f : Expr} (he : e.SameOn c db db') (hf : f.SameOn c db db') :
    (e.or f).SameOn c db db' :=
  he.binary .or hf

theorem isNull {e : Expr} (negated : Bool) (he : e.SameOn c db db') :
    (Expr.isNull e negated).SameOn c db db' := by
  intro group env
  simp only [value, he group env]

theorem paren {e : Expr} (he : e.SameOn c db db') : (Expr.paren e).SameOn c db db' := by
  intro group env
  simp only [value, he group env]

theorem inList {e : Expr} {values : List Expr} (negated : Bool) (he : e.SameOn c db db')
    (hvalues : ∀ v ∈ values, v.SameOn c db db') : (Expr.inList e values negated).SameOn c db db' := by
  intro group env
  have hlist : valuesOfEach c db values group env = valuesOfEach c db' values group env := by
    simp only [valuesOfEach_eq_map]
    exact List.map_congr_left fun v hv => hvalues v hv group env
  simp only [value, he group env, hlist]

theorem inQuery {e : Expr} {query : Query} (negated : Bool) (he : e.SameOn c db db')
    (hquery : query.SameOn c db db') : (Expr.inQuery e query negated).SameOn c db db' := by
  intro group env
  simp only [value, he group env, hquery env]

theorem call {args : List Expr} (function : String) (distinct : Bool)
    (hargs : ∀ e ∈ args, e.SameOn c db db') : (Expr.call function distinct args).SameOn c db db' := by
  intro group env
  have hlist : ∀ group env, valuesOfEach c db args group env = valuesOfEach c db' args group env := by
    intro group env
    simp only [valuesOfEach_eq_map]
    exact List.map_congr_left fun e he => hargs e he group env
  simp only [value, hlist]

theorem foldl_and {conditions : List Expr} {first : Expr} (hfirst : first.SameOn c db db')
    (h : ∀ e ∈ conditions, e.SameOn c db db') :
    (conditions.foldl Expr.and first).SameOn c db db' := by
  induction conditions generalizing first with
  | nil => exact hfirst
  | cons e rest ih =>
    apply ih (hfirst.and (h e (by simp)))
    intro f hf
    exact h f (by simp [hf])

end Expr.SameOn

private theorem filter_eq_of_imp {rows rows' : Multiset Record} {p q : Record → Prop}
    [DecidablePred p] [DecidablePred q] (himp : ∀ row, q row → p row)
    (hrows : rows.filter p = rows'.filter p) : rows.filter q = rows'.filter q := by
  have hfilter : ∀ s : Multiset Record, s.filter q = (s.filter p).filter q := by
    intro s
    rw [Multiset.filter_filter]
    exact Multiset.filter_congr fun row _ => ⟨fun h => ⟨h, himp row h⟩, And.left⟩
  rw [hfilter rows, hfilter rows', hrows]

theorem joinMatches_sameOn {join : Join Expr} {p : Record → Prop} [DecidablePred p]
    (hcondition : join.condition.SameOn c db db') {outer row : Env}
    (himp : ∀ record, join.condition.Holds c db'
      {row ++ [(join.table.referenceName, record)] ++ outer}
      (row ++ [(join.table.referenceName, record)] ++ outer) → p record)
    (hrows : (db join.table.table).filter p = (db' join.table.table).filter p) :
    joinMatches c db join outer row = joinMatches c db' join outer row := by
  have hfound := filter_eq_of_imp himp hrows
  simp only [Expr.Holds] at hfound
  simp only [joinMatches, matchingRows, hcondition _ _, decide_eq_true_eq, hfound]

theorem joinMatches_sameOn_of_eq {join : Join Expr} (hcondition : join.condition.SameOn c db db')
    (htable : db join.table.table = db' join.table.table) (outer row : Env) :
    joinMatches c db join outer row = joinMatches c db' join outer row :=
  joinMatches_sameOn (p := fun _ => True) hcondition (fun _ _ => trivial) (by rw [htable])

private theorem joinedRows_sameOn {joins : List (Join Expr)} {outer row : Env}
    (hnames : (row.map Prod.fst ++ joins.map fun j => j.table.referenceName).Nodup)
    (h : ∀ join ∈ joins, ∀ row : Env, join.table.referenceName ∉ row.map Prod.fst →
      joinMatches c db join outer row = joinMatches c db' join outer row) :
    joinedRows c db joins outer {row} = joinedRows c db' joins outer {row} := by
  induction joins generalizing row with
  | nil => rfl
  | cons join rest ih =>
    have hfresh : join.table.referenceName ∉ row.map Prod.fst := by
      intro hmem
      exact List.disjoint_of_nodup_append hnames hmem (by simp)
    simp only [joinedRows_cons, Multiset.singleton_bind, h join (by simp) row hfresh]
    rw [joinedRows_eq_bind, joinedRows_eq_bind rest]
    refine Multiset.bind_congr fun next hnext => ih ?_ fun j hj => h j (by simp [hj])
    obtain ⟨record, _, rfl⟩ := Multiset.mem_map.mp hnext
    simpa using hnames

/-- The rows that a query keeps before it groups them. -/
def Query.kept (c : Collation) (db : Database) (query : Query) (outer : Env) : Multiset Env :=
  ((joinedRows c db query.joins outer (sourceRows db query.source)).map (· ++ outer)).filter
    fun env => meets c db query.filter env

/-- Queries that keep the same rows and whose expressions have the same values have the same
results. -/
theorem queryResults_sameOn {query : Query} {outer : Env}
    (hkept : query.kept c db outer = query.kept c db' outer)
    (hselect : ∀ item ∈ query.select, item.expr.SameOn c db db')
    (hgroup : ∀ e ∈ query.groupBy, e.SameOn c db db')
    (horder : ∀ key ∈ query.orderBy, key.expr.SameOn c db db') :
    queryResults c db query outer = queryResults c db' query outer := by
  obtain ⟨select, distinct, source, joins, filter, groupBy, orderBy, window⟩ := query
  have hitems : ∀ group env, itemValues c db select group env = itemValues c db' select group env := by
    intro group env
    simp only [itemValues_eq_map]
    exact List.map_congr_left fun item hitem => hselect item hitem group env
  have hkeys : ∀ group env, keyValues c db orderBy group env = keyValues c db' orderBy group env := by
    intro group env
    simp only [keyValues_eq_map]
    exact List.map_congr_left fun key hkey => horder key hkey group env
  have hgroups : ∀ group env, valuesOfEach c db groupBy group env =
      valuesOfEach c db' groupBy group env := by
    intro group env
    simp only [valuesOfEach_eq_map]
    exact List.map_congr_left fun e he => hgroup e he group env
  simp only [Query.kept] at hkept
  simp only [queryResults, hitems, hkeys, hgroups, hkept]

private theorem meets_sameOn {filter : Option Expr} (h : ∀ e ∈ filter, e.SameOn c db db') (env : Env) :
    meets c db filter env = meets c db' filter env := by
  cases filter with
  | none => rfl
  | some e => simp only [meets, h e rfl {env} env]

/-- A query of a table that is the same in both databases keeps the same rows if its joins find the
same. -/
theorem Query.kept_sameOn {query : Query} {table : TableRef} {outer : Env}
    (hsource : query.source = some table) (htable : db table.table = db' table.table)
    (hnames : (table.referenceName :: query.joins.map fun j => j.table.referenceName).Nodup)
    (hjoins : ∀ join ∈ query.joins, ∀ row : Env, join.table.referenceName ∉ row.map Prod.fst →
      joinMatches c db join outer row = joinMatches c db' join outer row)
    (hfilter : ∀ e ∈ query.filter, e.SameOn c db db') :
    query.kept c db outer = query.kept c db' outer := by
  have hjoined : joinedRows c db query.joins outer (sourceRows db query.source) =
      joinedRows c db' query.joins outer (sourceRows db' query.source) := by
    rw [joinedRows_eq_bind, joinedRows_eq_bind query.joins, hsource, sourceRows, sourceRows, htable]
    refine Multiset.bind_congr fun row hrow => joinedRows_sameOn ?_ hjoins
    obtain ⟨record, _, rfl⟩ := Multiset.mem_map.mp hrow
    exact hnames
  simp only [kept, hjoined, meets_sameOn hfilter]

/-- A query of one table keeps the same rows if its condition restricts them to what the databases
have in common. -/
theorem Query.kept_sameOn_of_imp {query : Query} {table : TableRef} {condition : Expr} {outer : Env}
    {p : Record → Prop} [DecidablePred p] (hsource : query.source = some table)
    (hjoins : query.joins = []) (hfilter : query.filter = some condition)
    (hcondition : condition.SameOn c db db')
    (himp : ∀ row, condition.Holds c db' {(table.referenceName, row) :: outer}
      ((table.referenceName, row) :: outer) → p row)
    (hrows : (db table.table).filter p = (db' table.table).filter p) :
    query.kept c db outer = query.kept c db' outer := by
  have hfound := filter_eq_of_imp himp hrows
  simp only [Expr.Holds] at hfound
  simp only [kept, hsource, hjoins, hfilter, joinedRows, sourceRows, Multiset.map_map,
    Multiset.filter_map, Function.comp_def, List.cons_append, List.nil_append, meets,
    hcondition _ _, decide_eq_true_eq, hfound]

theorem columnQuery_sameOn {table aliasName column : String} {distinct : Bool} {condition : Expr}
    {p : Record → Prop} [DecidablePred p] (hreads : condition.ReadsOnly [aliasName])
    (hcondition : condition.SameOn c db db')
    (himp : ∀ row, condition.Holds c db' 0 [(aliasName, row)] → p row)
    (hrows : (db table).filter p = (db' table).filter p) :
    (columnQuery table aliasName column distinct condition).SameOn c db db' := by
  intro outer
  refine queryResults_sameOn ?_ (fun item hitem => ?_) (by simp [columnQuery]) (by simp [columnQuery])
  · refine Query.kept_sameOn_of_imp rfl rfl rfl hcondition (fun row hholds => himp row ?_) hrows
    unfold Expr.Holds at hholds ⊢
    rw [← hholds]
    exact hreads c db' _ _ _ _ (by simp [TableRef.referenceName])
  · obtain rfl := List.mem_singleton.mp hitem
    exact .column _ _

theorem Query.isAnswer_sameOn {query : Query} (h : query.SameOn c db db')
    (answer : List (List Value)) : query.IsAnswer c db answer ↔ query.IsAnswer c db' answer := by
  simp only [IsAnswer, results, h []]

end TenantGrid.Sql
