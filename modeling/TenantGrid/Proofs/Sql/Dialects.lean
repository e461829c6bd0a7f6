import Mathlib.Data.List.Forall2
import TenantGrid.Proofs.Sql.Meaning
import TenantGrid.Sql.Rendering
/-!
# Statements across dialects

The dialects have functions of their own for the least and the greatest of booleans, and nothing else
in the tokens of a statement depends on the dialect. Order keys that differ in these functions alone
stand in statements with the same parameters, and order results in the same way.
-/
namespace TenantGrid.Sql

/-- Whether a token of one dialect stands for that of the other. -/
inductive Token.SameAcross : Token → Token → Prop
  | same (t : Token) : SameAcross t t
  | every : SameAcross (.function "MIN") (.function "BOOL_AND")
  | any : SameAcross (.function "MAX") (.function "BOOL_OR")

/-- Whether the tokens of one dialect stand for those of the other, one by one. -/
abbrev SameTokens : List Token → List Token → Prop :=
  List.Forall₂ Token.SameAcross

namespace SameTokens

variable {tokens tokens' others others' : List Token}

theorem refl (tokens : List Token) : SameTokens tokens tokens :=
  List.forall₂_same.mpr fun t _ => .same t

private theorem append (h : SameTokens tokens tokens') (h' : SameTokens others others') :
    SameTokens (tokens ++ others) (tokens' ++ others') :=
  List.rel_append h h'

private theorem intercalate (separator : List Token) {parts parts' : List (List Token)}
    (h : List.Forall₂ SameTokens parts parts') :
    SameTokens (List.intercalate separator parts) (List.intercalate separator parts') := by
  induction h with
  | nil => exact .nil
  | cons hfirst hrest ih =>
    cases hrest with
    | nil => simpa using hfirst
    | cons hsecond hrest =>
      rw [List.intercalate_cons_cons, List.intercalate_cons_cons]
      exact (hfirst.append (refl separator)).append ih

theorem bound_eq (h : SameTokens tokens tokens') :
    tokens.filterMap Token.bound? = tokens'.filterMap Token.bound? := by
  induction h with
  | nil => rfl
  | @cons t t' _ _ hhead _ ih =>
    have hbound : t.bound? = t'.bound? := by cases hhead <;> rfl
    rw [List.filterMap_cons, List.filterMap_cons, hbound, ih]

end SameTokens

/-- Whether two order keys have the same tokens and order the values of these in the same way. -/
structure OrderKey.SameAcross (key key' : OrderKey Expr) : Prop where
  tokens : SameTokens key.expr.tokens key'.expr.tokens
  direction : key.direction = key'.direction
  nulls : key.nulls = key'.nulls

variable {keys keys' : List (OrderKey Expr)}

private theorem orderTokens_same (h : List.Forall₂ OrderKey.SameAcross keys keys') :
    List.Forall₂ SameTokens (orderTokens keys) (orderTokens keys') := by
  induction h with
  | nil => exact .nil
  | @cons key key' _ _ hhead _ ih =>
    obtain ⟨expr, direction, nulls⟩ := key
    obtain ⟨expr', direction', nulls'⟩ := key'
    obtain ⟨htokens, rfl, rfl⟩ := hhead
    exact .cons ((htokens.append (.refl _)).append (.refl _)) ih

private theorem listClause_same (word : Keyword) {parts parts' : List (List Token)}
    (h : List.Forall₂ SameTokens parts parts') :
    SameTokens (listClause word parts) (listClause word parts') := by
  cases h with
  | nil => exact .nil
  | cons hfirst hrest =>
    have hlist := SameTokens.intercalate [.symbol .comma, .space] (.cons hfirst hrest)
    exact (SameTokens.refl [.newline, .keyword word, .space]).append hlist

/-- Two queries that differ in such order keys have the same tokens. -/
theorem queryTokens_same (query : Query) (h : List.Forall₂ OrderKey.SameAcross keys keys') :
    SameTokens (queryTokens { query with orderBy := keys })
      (queryTokens { query with orderBy := keys' }) := by
  obtain ⟨select, distinct, source, joins, filter, groupBy, orderBy, window⟩ := query
  have horder := listClause_same .orderBy (orderTokens_same h)
  exact ((SameTokens.refl _).append horder).append (.refl _)

namespace Collation

variable (c : Collation)

private theorem compareKeys_same (h : List.Forall₂ OrderKey.SameAcross keys keys') :
    c.compareKeys keys = c.compareKeys keys' := by
  induction h with
  | nil => rfl
  | @cons key key' _ _ hhead _ ih =>
    obtain ⟨expr, direction, nulls⟩ := key
    obtain ⟨expr', direction', nulls'⟩ := key'
    obtain ⟨_, rfl, rfl⟩ := hhead
    have hkey : c.compareKey (⟨expr, direction, nulls⟩ : OrderKey Expr) =
        c.compareKey (⟨expr', direction, nulls⟩ : OrderKey Expr) := rfl
    funext vs ws
    rw [compareKeys, compareKeys, hkey, ih]

end Collation

/-- Queries with the same results, window and order have the same answers. -/
theorem Query.isAnswer_congr (c : Collation) (db : Database) {query query' : Query}
    (hwindow : query.window = query'.window)
    (horder : List.Forall₂ OrderKey.SameAcross query.orderBy query'.orderBy)
    (hresults : query.results c db = query'.results c db) (answer : List (List Value)) :
    query.IsAnswer c db answer ↔ query'.IsAnswer c db answer := by
  rw [IsAnswer, IsAnswer, hwindow, c.compareKeys_same horder, hresults]

end TenantGrid.Sql
