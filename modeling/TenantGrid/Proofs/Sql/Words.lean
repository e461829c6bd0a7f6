import Mathlib.Data.List.Basic
import TenantGrid.Sql.Rendering
/-!
# Words of a statement

The tokens of a statement without its bound values. They settle the text of the statement and how
many parameters it has, so that statements with the same words differ in their parameters alone.
-/
namespace TenantGrid.Sql

/-- The token with a bound value left open. -/
def Token.masked : Token → Token
  | .bind _ => .bind .null
  | t => t

def Token.words (tokens : List Token) : List Token :=
  tokens.map masked

def Expr.words (e : Expr) : List Token :=
  Token.words e.tokens

def Query.words (query : Query) : List Token :=
  Token.words query.tokens

def Update.words (update : Update) : List Token :=
  Token.words update.tokens

/-- Whether two statements have the same text and as many parameters. -/
def Statement.SameText (s s' : Statement) : Prop :=
  s.sql = s'.sql ∧ s.params.length = s'.params.length

namespace Statement

private theorem partsFrom_words (dialect : Dialect) (tokens : List Token) (index : Nat) :
    partsFrom dialect index (Token.words tokens) = partsFrom dialect index tokens := by
  induction tokens generalizing index with
  | nil => rfl
  | cons t rest ih => cases t <;> simp_all [Token.words, Token.masked, partsFrom]

private theorem length_params_words (tokens : List Token) :
    ((Token.words tokens).filterMap Token.bound?).length = (tokens.filterMap Token.bound?).length := by
  have hbound : Token.bound? ∘ Token.masked = fun t => t.bound?.map fun _ => Value.null := by
    funext t
    cases t <;> rfl
  rw [Token.words, List.filterMap_map, hbound, ← List.map_filterMap, List.length_map]

private theorem ofTokens_sameText (dialect : Dialect) {tokens tokens' : List Token}
    (h : Token.words tokens = Token.words tokens') :
    SameText (ofTokens dialect tokens) (ofTokens dialect tokens') := by
  constructor
  · simp only [ofTokens]
    rw [← partsFrom_words, h, partsFrom_words]
  · simp only [ofTokens]
    rw [← length_params_words, h, length_params_words]

end Statement

@[simp] theorem Token.words_append (ts us : List Token) :
    Token.words (ts ++ us) = Token.words ts ++ Token.words us :=
  List.map_append

@[simp] theorem Token.words_cons (t : Token) (ts : List Token) :
    Token.words (t :: ts) = t.masked :: Token.words ts :=
  rfl

@[simp] theorem Token.words_nil : Token.words [] = [] :=
  rfl

private theorem Token.words_intercalate (sep : List Token) (parts : List (List Token)) :
    Token.words (List.intercalate sep parts) =
      List.intercalate (Token.words sep) (parts.map Token.words) := by
  induction parts with
  | nil => rfl
  | cons part rest ih =>
    cases rest with
    | nil => simp [List.intercalate]
    | cons next rest => simp_all [List.intercalate]

theorem tokensOfEach_eq_map (es : List Expr) : tokensOfEach es = es.map Expr.tokens := by
  induction es with
  | nil => rfl
  | cons e rest ih => rw [tokensOfEach, ih, List.map_cons]

theorem joinTokens_eq_flatMap (joins : List (Join Expr)) :
    joinTokens joins = joins.flatMap fun join => joinTokens [join] := by
  induction joins with
  | nil => rfl
  | cons join rest ih =>
    cases join
    simp [joinTokens, ih]

namespace Expr

theorem words_param (v w : Value) : (param v).words = (param w).words :=
  rfl

theorem words_binary {e e' f f' : Expr} (op : BinaryOp) (he : e.words = e'.words)
    (hf : f.words = f'.words) : (binary op e f).words = (binary op e' f').words := by
  unfold words at he hf
  simp [words, tokens, he, hf]

theorem words_and {e e' f f' : Expr} (he : e.words = e'.words) (hf : f.words = f'.words) :
    (e.and f).words = (e'.and f').words :=
  words_binary .and he hf

theorem words_like (e : Expr) (v w : Value) (escape : Option Char) (negated anyCase : Bool) :
    (like e (param v) escape negated anyCase).words =
      (like e (param w) escape negated anyCase).words := by
  simp [words, tokens, Token.masked]

theorem words_inQuery (e : Expr) {query query' : Query} (negated : Bool)
    (h : query.words = query'.words) :
    (inQuery e query negated).words = (inQuery e query' negated).words := by
  unfold Query.words Query.tokens at h
  simp [words, tokens, h]

/-- Lists of one length have the same words, whatever values they hold. -/
theorem words_inList (e : Expr) {values values' : List Value} (negated : Bool)
    (h : values.length = values'.length) :
    (inList e (values.map param) negated).words = (inList e (values'.map param) negated).words := by
  have hlist : ∀ vs : List Value, Token.words (separated (tokensOfEach (vs.map param))) =
      List.intercalate [.symbol .comma, .space] (List.replicate vs.length [.bind .null]) := by
    intro vs
    have hparam : (Token.words ∘ tokens) ∘ param = fun _ => [.bind .null] := by
      funext v
      rfl
    rw [separated, Token.words_intercalate, tokensOfEach_eq_map, List.map_map, List.map_map, hparam,
      List.map_const']
    rfl
  have hempty : (values.map param).isEmpty = (values'.map param).isEmpty := by
    cases values <;> cases values' <;> simp_all
  unfold words
  simp only [tokens, hempty]
  split
  · rfl
  · simp [hlist, h]

theorem words_foldl_and {es es' : List Expr} {e e' : Expr} (hfirst : e.words = e'.words)
    (h : es.map words = es'.map words) : (es.foldl and e).words = (es'.foldl and e').words := by
  induction es generalizing es' e e' with
  | nil =>
    obtain rfl := List.map_eq_nil_iff.mp (h.symm.trans List.map_nil)
    exact hfirst
  | cons f rest ih =>
    cases es' with
    | nil => simp at h
    | cons f' rest' =>
      simp only [List.map_cons, List.cons.injEq] at h
      rw [List.foldl_cons, List.foldl_cons]
      exact ih (words_and hfirst h.1) h.2

end Expr

/-- Whether two queries differ in bound values of their joins and conditions alone. -/
structure Query.SameFrame (query query' : Query) : Prop where
  select : query.select = query'.select
  distinct : query.distinct = query'.distinct
  source : query.source = query'.source
  joins : Token.words (joinTokens query.joins) = Token.words (joinTokens query'.joins)
  filter : query.filter.map Expr.words = query'.filter.map Expr.words
  groupBy : query.groupBy = query'.groupBy
  orderBy : query.orderBy = query'.orderBy
  window : query.window = query'.window

private theorem words_whereTokens {filter filter' : Option Expr}
    (h : filter.map Expr.words = filter'.map Expr.words) :
    Token.words (whereTokens filter) = Token.words (whereTokens filter') := by
  cases filter <;> cases filter' <;> simp_all [whereTokens, Expr.words]

theorem Query.SameFrame.words {query query' : Query} (h : query.SameFrame query') :
    query.words = query'.words := by
  obtain ⟨select, distinct, source, joins, filter, groupBy, orderBy, window⟩ := query
  obtain ⟨select', distinct', source', joins', filter', groupBy', orderBy', window'⟩ := query'
  obtain ⟨rfl, rfl, rfl, hjoins, hfilter, rfl, rfl, rfl⟩ := h
  simp [Query.words, Query.tokens, queryTokens, hjoins, words_whereTokens hfilter]

theorem Update.words_eq {update update' : Update} (htable : update.table = update'.table)
    (hassignments : update.assignments.map (Token.words ∘ assignmentTokens) =
      update'.assignments.map (Token.words ∘ assignmentTokens))
    (hfilter : update.filter.map Expr.words = update'.filter.map Expr.words) :
    update.words = update'.words := by
  simp [words, tokens, separated, Token.words_intercalate, List.map_map, htable, hassignments,
    words_whereTokens hfilter]

theorem Query.statement_sameText (dialect : Dialect) {query query' : Query}
    (h : query.words = query'.words) :
    Statement.SameText (query.statement dialect) (query'.statement dialect) :=
  Statement.ofTokens_sameText dialect h

theorem Update.statement_sameText (dialect : Dialect) {update update' : Update}
    (h : update.words = update'.words) :
    Statement.SameText (update.statement dialect) (update'.statement dialect) :=
  Statement.ofTokens_sameText dialect h

end TenantGrid.Sql
