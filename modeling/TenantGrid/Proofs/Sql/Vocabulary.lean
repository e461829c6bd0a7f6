import TenantGrid.Proofs.Sql.Words
/-!
# Vocabularies

The words that a statement may be made of whatever is bound to it: names, functions, escape characters
and row counts, besides keywords, marks and blanks. A statement keeps to a vocabulary if each part of
it does.
-/
namespace TenantGrid.Sql

structure Vocabulary where
  isName : String → Bool
  functions : List String
  escapes : List Char
  /-- The counts of LIMIT and OFFSET. -/
  counts : List UInt64

/-- Whether a token is of the vocabulary. Bound values are, as they are not part of the text. -/
def Token.isOf (v : Vocabulary) : Token → Bool
  | keyword _ | symbol _ | space | newline | indent _ => true
  | identifier name => v.isName name
  | function name => v.functions.contains name
  | boolLiteral _ | nullLiteral => true
  | stringLiteral s => v.escapes.any fun c => s == String.singleton c
  | intLiteral n => v.counts.any fun count => n == count.toInt64.toInt
  | bind _ => true
  | realLiteral _ | dataType _ | verbatim _ => false

/-- Whether all tokens are of the vocabulary. -/
def keepsTo (v : Vocabulary) (tokens : List Token) : Bool :=
  tokens.all (Token.isOf v)

/-- What is of a vocabulary can be written. -/
theorem firstFault?_of_keepsTo {v : Vocabulary} {tokens : List Token}
    (h : keepsTo v tokens = true) : Token.firstFault? tokens = none := by
  rw [Token.firstFault?, List.findSome?_eq_none_iff]
  intro t ht
  have hof : t.isOf v = true := List.all_eq_true.mp h t ht
  cases t with
  | realLiteral x => exact nomatch hof
  | _ => rfl

section KeepsTo

variable (v : Vocabulary)

@[simp] theorem keepsTo_nil : keepsTo v [] = true :=
  rfl

@[simp] theorem keepsTo_cons (t : Token) (rest : List Token) :
    keepsTo v (t :: rest) = (t.isOf v && keepsTo v rest) :=
  rfl

@[simp] theorem keepsTo_append (tokens others : List Token) :
    keepsTo v (tokens ++ others) = (keepsTo v tokens && keepsTo v others) :=
  List.all_append

@[simp] theorem keepsTo_intercalate {separator : List Token} (h : keepsTo v separator = true)
    (parts : List (List Token)) :
    keepsTo v (List.intercalate separator parts) = parts.all (keepsTo v) := by
  induction parts with
  | nil => rfl
  | cons part rest ih =>
    cases rest with
    | nil => simp
    | cons next rest => rw [List.intercalate_cons_cons, keepsTo_append, keepsTo_append, h, ih]; simp

@[simp] theorem keepsTo_separated (parts : List (List Token)) :
    keepsTo v (separated parts) = parts.all (keepsTo v) :=
  keepsTo_intercalate v rfl parts

@[simp] theorem keepsTo_aliasTokens (aliasName : Option String) :
    keepsTo v (aliasTokens aliasName) = aliasName.all v.isName := by
  cases aliasName <;> simp [aliasTokens, Token.isOf]

@[simp] theorem keepsTo_qualifierTokens (table : Option String) :
    keepsTo v (qualifierTokens table) = table.all v.isName := by
  cases table <;> simp [qualifierTokens, Token.isOf]

@[simp] theorem keepsTo_negationTokens (negated : Bool) :
    keepsTo v (negationTokens negated) = true := by
  cases negated <;> rfl

@[simp] theorem keepsTo_escapeTokens (escape : Option Char) :
    keepsTo v (escapeTokens escape) = escape.all v.escapes.contains := by
  cases escape with
  | none => rfl
  | some c =>
    have hany : (v.escapes.any fun d => c.toString == String.singleton d) = v.escapes.contains c := by
      rw [Bool.eq_iff_iff]
      simp
    simpa [escapeTokens, Token.isOf] using hany

@[simp] theorem keepsTo_directionTokens (direction : Option Direction) :
    keepsTo v (directionTokens direction) = true := by
  rcases direction with _ | _ | _ <;> rfl

@[simp] theorem keepsTo_nullsTokens (nulls : Option NullsPlacement) :
    keepsTo v (nullsTokens nulls) = true := by
  rcases nulls with _ | _ | _ <;> rfl

/-- Whether the names of a table reference are of the vocabulary. -/
def TableRef.keepsTo (ref : TableRef) : Bool :=
  v.isName ref.table && ref.aliasName.all v.isName

@[simp] theorem keepsTo_tableTokens (ref : TableRef) :
    Sql.keepsTo v ref.tokens = ref.keepsTo v := by
  simp [TableRef.tokens, TableRef.keepsTo, Token.isOf]

@[simp] theorem keepsTo_sourceTokens (source : Option TableRef) :
    keepsTo v (sourceTokens source) = source.all (TableRef.keepsTo v) := by
  cases source <;> simp [sourceTokens, Token.isOf]

/-- Whether the counts of a window are of the vocabulary. -/
def Window.keepsTo (window : Window) : Bool :=
  window.limit.all (fun n => (rowCountLiteral n).isOf v) &&
    window.offset.all fun n => (rowCountLiteral n).isOf v

@[simp] theorem keepsTo_windowTokens (window : Option Window) :
    keepsTo v (windowTokens window) = window.all (Window.keepsTo v) := by
  rcases window with _ | ⟨_ | limit, _ | offset⟩ <;>
    simp [windowTokens, Window.tokens, Window.keepsTo, Token.isOf]

@[simp] theorem keepsTo_listClause (word : Keyword) (parts : List (List Token)) :
    keepsTo v (listClause word parts) = parts.all (keepsTo v) := by
  cases parts <;> simp [listClause, Token.isOf]

@[simp] theorem keepsTo_selectList (parts : List (List Token)) :
    keepsTo v (selectList parts) = parts.all (keepsTo v) := by
  have hpart : (keepsTo v ∘ fun item => .newline :: .indent 1 :: item) = keepsTo v := by
    funext item
    simp [Token.isOf]
  rw [selectList, keepsTo_intercalate v rfl, List.all_map, hpart]

@[simp] theorem keepsTo_column (table : Option String) (name : String) :
    keepsTo v (Expr.column table name).tokens = (table.all v.isName && v.isName name) := by
  simp [Expr.tokens, Token.isOf]

@[simp] theorem keepsTo_param (value : Value) : keepsTo v (Expr.param value).tokens = true :=
  rfl

@[simp] theorem keepsTo_bool (b : Bool) : keepsTo v (Expr.literal (.bool b)).tokens = true :=
  rfl

@[simp] theorem keepsTo_null : keepsTo v (Expr.literal .null).tokens = true :=
  rfl

@[simp] theorem keepsTo_binary (op : BinaryOp) (left right : Expr) :
    keepsTo v (Expr.binary op left right).tokens =
      (keepsTo v left.tokens && keepsTo v right.tokens) := by
  cases op <;> simp [Expr.tokens, BinaryOp.token, Token.isOf]

@[simp] theorem keepsTo_call (function : String) (distinct : Bool) (args : List Expr) :
    keepsTo v (Expr.call function distinct args).tokens =
      (v.functions.contains function && args.all fun arg => keepsTo v arg.tokens) := by
  cases distinct <;>
    simp [Expr.tokens, Token.isOf, tokensOfEach_eq_map, List.all_map, Function.comp_def]

@[simp] theorem keepsTo_inList (operand : Expr) (values : List Expr) (negated : Bool) :
    keepsTo v (Expr.inList operand values negated).tokens =
      (values.isEmpty || (keepsTo v operand.tokens && values.all fun value => keepsTo v value.tokens)) := by
  cases values <;>
    simp [Expr.tokens, Token.isOf, tokensOfEach_eq_map, List.all_map, Function.comp_def]

@[simp] theorem keepsTo_inQuery (operand : Expr) (query : QueryOf Expr) (negated : Bool) :
    keepsTo v (Expr.inQuery operand query negated).tokens =
      (keepsTo v operand.tokens && keepsTo v (queryTokens query)) := by
  simp [Expr.tokens, Token.isOf]

@[simp] theorem keepsTo_isNull (operand : Expr) (negated : Bool) :
    keepsTo v (Expr.isNull operand negated).tokens = keepsTo v operand.tokens := by
  simp [Expr.tokens, Token.isOf]

@[simp] theorem keepsTo_like (operand pattern : Expr) (escape : Option Char)
    (negated anyCase : Bool) :
    keepsTo v (Expr.like operand pattern escape negated anyCase).tokens =
      (keepsTo v operand.tokens && keepsTo v pattern.tokens && escape.all v.escapes.contains) := by
  simp [Expr.tokens, Token.isOf, Bool.and_assoc]

@[simp] theorem keepsTo_paren (inner : Expr) :
    keepsTo v (Expr.paren inner).tokens = keepsTo v inner.tokens := by
  simp [Expr.tokens, Token.isOf]

private theorem keepsTo_selectTokens (items : List (SelectItem Expr)) :
    (selectTokens items).all (keepsTo v) =
      items.all fun item => keepsTo v item.expr.tokens && item.aliasName.all v.isName := by
  induction items with
  | nil => rfl
  | cons item rest ih => simp [selectTokens, ih]

private theorem keepsTo_joinTokens (joins : List (Join Expr)) :
    keepsTo v (joinTokens joins) =
      joins.all fun join => join.table.keepsTo v && keepsTo v join.condition.tokens := by
  induction joins with
  | nil => rfl
  | cons join rest ih => simp [joinTokens, ih, Token.isOf, Bool.and_assoc]

private theorem keepsTo_orderTokens (keys : List (OrderKey Expr)) :
    (orderTokens keys).all (keepsTo v) = keys.all fun key => keepsTo v key.expr.tokens := by
  induction keys with
  | nil => rfl
  | cons key rest ih => simp [orderTokens, ih]

@[simp] theorem keepsTo_whereTokens (filter : Option Expr) :
    keepsTo v (whereTokens filter) = filter.all fun e => keepsTo v e.tokens := by
  cases filter <;> simp [whereTokens, Token.isOf]

/-- A query keeps to a vocabulary if each of its clauses does. -/
@[simp] theorem keepsTo_queryTokens (query : QueryOf Expr) :
    keepsTo v (queryTokens query) =
      ((query.select.all fun item => keepsTo v item.expr.tokens && item.aliasName.all v.isName) &&
        query.source.all (TableRef.keepsTo v) &&
        (query.joins.all fun join => join.table.keepsTo v && keepsTo v join.condition.tokens) &&
        (query.filter.all fun e => keepsTo v e.tokens) &&
        (query.groupBy.all fun e => keepsTo v e.tokens) &&
        (query.orderBy.all fun key => keepsTo v key.expr.tokens) &&
        query.window.all (Window.keepsTo v)) := by
  obtain ⟨select, distinct, source, joins, filter, groupBy, orderBy, window⟩ := query
  cases distinct <;>
    simp [queryTokens, Token.isOf, keepsTo_selectTokens, keepsTo_joinTokens, keepsTo_orderTokens,
      tokensOfEach_eq_map, List.all_map, Function.comp_def, Bool.and_assoc]

/-- A further condition is all that a query has to keep to besides. -/
theorem keepsTo_filtered (query : Query) (condition : Expr) :
    keepsTo v (query.filtered condition).tokens =
      (keepsTo v query.tokens && keepsTo v condition.tokens) := by
  obtain ⟨select, distinct, source, joins, filter, groupBy, orderBy, window⟩ := query
  cases filter <;>
    simp [Query.filtered, Query.tokens, Expr.conjoin, Expr.and, Bool.and_assoc, Bool.and_comm,
      Bool.and_left_comm]

private theorem keepsTo_updateTokens (update : Update) :
    keepsTo v update.tokens =
      (v.isName update.table &&
        (update.assignments.all fun assignment =>
          v.isName assignment.1 && keepsTo v assignment.2.tokens) &&
        update.filter.all fun e => keepsTo v e.tokens) := by
  simp [Update.tokens, Update.assignmentTokens, Token.isOf, List.all_map, Function.comp_def,
    Bool.and_assoc]

theorem keepsTo_updateFiltered (update : Update) (condition : Expr) :
    keepsTo v (update.filtered condition).tokens =
      (keepsTo v update.tokens && keepsTo v condition.tokens) := by
  obtain ⟨table, assignments, filter⟩ := update
  cases filter <;>
    simp [keepsTo_updateTokens, Update.filtered, Expr.conjoin, Expr.and, Bool.and_assoc]

end KeepsTo

end TenantGrid.Sql
