import Mathlib.Data.List.TakeWhile
import TenantGrid.Proofs.Sql.Reader
/-!
# Parentheses

What is written for an expression closes every parenthesis that it opens, and clauses begin only
inside of them. The WHERE clause of a statement is found by that alone, and what stands outside of all
parentheses is read part by part, whether or not the operators there can be read.
-/
namespace TenantGrid.Sql

namespace Token

def isParenthesis : Token → Bool
  | .symbol .leftParen | .symbol .rightParen => true
  | _ => false

/-- Whether a token may be part of an expression, outside of parentheses. -/
def isInner : Token → Bool
  | .keyword w => !w.opensClause
  | _ => true

def isNotWhere : Token → Bool
  | .keyword .whereHolds => false
  | _ => true

private theorem isNotWhere_of_isInner {token : Token} (h : token.isInner = true) :
    token.isNotWhere = true := by
  unfold isNotWhere
  split
  · exact nomatch h
  · rfl

end Token

/-- Whether parentheses come in pairs, one in another, with only such tokens outside of them. -/
inductive Nests : (Token → Bool) → List Token → Prop where
  | nil {outside : Token → Bool} : Nests outside []
  | word {outside : Token → Bool} {token : Token} {rest : List Token} (htoken : outside token = true)
      (hparen : token.isParenthesis = false) (hrest : Nests outside rest) :
      Nests outside (token :: rest)
  | group {outside : Token → Bool} {inner rest : List Token} (hinner : Nests (fun _ => true) inner)
      (hrest : Nests outside rest) :
      Nests outside (.symbol .leftParen :: (inner ++ .symbol .rightParen :: rest))

namespace Nests

variable {outside other : Token → Bool} {tokens more : List Token}

theorem append (h : Nests outside tokens) (hmore : Nests outside more) :
    Nests outside (tokens ++ more) := by
  induction h with
  | nil => exact hmore
  | word htoken hparen _ ih => exact .word htoken hparen (ih hmore)
  | group hinner _ _ ih =>
    have hgroup := Nests.group hinner (ih hmore)
    simpa using hgroup

private theorem mono (h : Nests outside tokens)
    (himp : ∀ token, outside token = true → other token = true) : Nests other tokens := by
  induction h with
  | nil => exact .nil
  | word htoken hparen _ ih => exact .word (himp _ htoken) hparen (ih himp)
  | group hinner _ _ ih => exact .group hinner (ih himp)

private theorem anyhow (h : Nests outside tokens) : Nests (fun _ => true) tokens :=
  h.mono fun _ _ => rfl

/-- Tokens none of which is a parenthesis. -/
theorem of_all (h : (tokens.all fun token => outside token && !token.isParenthesis) = true) :
    Nests outside tokens := by
  induction tokens with
  | nil => exact .nil
  | cons token rest ih =>
    simp only [List.all_cons, Bool.and_eq_true, Bool.not_eq_true'] at h
    exact .word h.1.1 h.1.2 (ih (by simpa using h.2))

private theorem intercalate {comma : List Token} (hcomma : Nests outside comma)
    {parts : List (List Token)} (h : ∀ part ∈ parts, Nests outside part) :
    Nests outside (List.intercalate comma parts) := by
  induction parts with
  | nil => exact .nil
  | cons first rest ih =>
    rw [List.forall_mem_cons] at h
    cases rest with
    | nil => simpa using h.1
    | cons second rest =>
      rw [List.intercalate_cons_cons]
      exact (h.1.append hcomma).append (ih h.2)

private theorem separated {parts : List (List Token)}
    (h : ∀ part ∈ parts, Nests Token.isInner part) : Nests Token.isInner (separated parts) :=
  .intercalate (.of_all rfl) h

private theorem selectList {parts : List (List Token)}
    (h : ∀ part ∈ parts, Nests Token.isInner part) : Nests Token.isInner (selectList parts) := by
  apply intercalate (.of_all rfl)
  intro line hline
  obtain ⟨part, hpart, rfl⟩ := List.mem_map.mp hline
  exact .word rfl rfl (.word rfl rfl (h part hpart))

private theorem listClause {word : Keyword} (hword : (Token.keyword word).isNotWhere = true)
    {parts : List (List Token)} (h : ∀ part ∈ parts, Nests Token.isInner part) :
    Nests Token.isNotWhere (listClause word parts) := by
  have hparts := (separated h).mono fun _ => Token.isNotWhere_of_isInner
  unfold Sql.listClause
  split
  · exact .nil
  · exact .word rfl rfl (.word hword rfl (.word rfl rfl hparts))

private theorem among {operand members : List Token} (hoperand : Nests Token.isInner operand)
    (negated : Bool) (hmembers : Nests (fun _ => true) members) :
    Nests Token.isInner (operand ++ negationTokens negated ++ .space :: .keyword .inSet :: .space ::
      .symbol .leftParen :: members ++ [.symbol .rightParen]) := by
  have hwords : Nests Token.isInner (negationTokens negated ++ [.space, .keyword .inSet, .space]) := by
    cases negated <;> exact .of_all rfl
  have htest := (hoperand.append hwords).append (Nests.group hmembers .nil)
  simpa using htest

end Nests

private theorem nests_qualifierTokens (table : Option String) :
    Nests Token.isInner (qualifierTokens table) := by
  cases table <;> exact .of_all rfl

private theorem nests_aliasTokens (aliasName : Option String) :
    Nests Token.isInner (aliasTokens aliasName) := by
  cases aliasName <;> exact .of_all rfl

private theorem TableRef.nests (ref : TableRef) : Nests Token.isInner ref.tokens :=
  .word rfl rfl (nests_aliasTokens ref.aliasName)

private theorem nests_sourceTokens (source : Option TableRef) :
    Nests Token.isNotWhere (sourceTokens source) := by
  cases source with
  | none => exact .nil
  | some ref =>
    have htable := ref.nests.mono fun _ => Token.isNotWhere_of_isInner
    exact .word rfl rfl (.word rfl rfl (.word rfl rfl htable))

private theorem nests_windowTokens (window : Option Window) :
    Nests Token.isNotWhere (windowTokens window) := by
  rcases window with _ | ⟨_ | limit, _ | offset⟩ <;> exact .of_all rfl

private theorem nests_beforeWhere (distinct : Bool) {parts : List (List Token)}
    (hparts : ∀ part ∈ parts, Nests Token.isInner part) (source : Option TableRef)
    {joins : List Token} (hjoins : Nests Token.isNotWhere joins) :
    Nests Token.isNotWhere (.keyword .select :: (if distinct then [.space, .keyword .distinct] else [])
      ++ selectList parts ++ sourceTokens source ++ joins) := by
  have hdistinct : Nests Token.isNotWhere
      (.keyword .select :: if distinct then [.space, .keyword .distinct] else []) := by
    cases distinct <;> exact .of_all rfl
  have hselect := (Nests.selectList hparts).mono fun _ => Token.isNotWhere_of_isInner
  exact ((hdistinct.append hselect).append (nests_sourceTokens source)).append hjoins

private theorem nests_afterWhere {groups keys : List (List Token)}
    (hgroups : ∀ part ∈ groups, Nests Token.isInner part)
    (hkeys : ∀ part ∈ keys, Nests Token.isInner part) (window : Option Window) :
    Nests Token.isNotWhere
      (listClause .groupBy groups ++ listClause .orderBy keys ++ windowTokens window) :=
  ((Nests.listClause rfl hgroups).append (.listClause rfl hkeys)).append (nests_windowTokens window)

mutual

theorem Expr.nests : ∀ e : Expr, Nests Token.isInner e.tokens
  | .column table name => (nests_qualifierTokens table).append (.of_all rfl)
  | .literal l => by cases l <;> exact .of_all rfl
  | .param value => .of_all rfl
  | .binary op left right => by
    have hop : Nests Token.isInner [.space, op.token, .space] := by
      cases op <;> exact .of_all rfl
    have hwhole := (left.nests.append hop).append right.nests
    simpa [Expr.tokens] using hwhole
  | .not operand => .word rfl rfl (.word rfl rfl operand.nests)
  | .call function distinct args => by
    have hdistinct : Nests Token.isInner (if distinct then [.keyword .distinct, .space] else []) := by
      cases distinct <;> exact .of_all rfl
    have hargs := hdistinct.append (.separated (nests_each args))
    have hcall : Nests Token.isInner (.function function :: .symbol .leftParen ::
        ((if distinct then [.keyword .distinct, .space] else []) ++ separated (tokensOfEach args) ++
          [.symbol .rightParen])) :=
      .word rfl rfl (.group hargs.anyhow .nil)
    simpa [Expr.tokens] using hcall
  | .inList operand values negated => by
    have htest := operand.nests.among negated (Nests.separated (nests_each values)).anyhow
    unfold Expr.tokens
    split
    · cases negated <;> exact .of_all rfl
    · exact htest
  | .inQuery operand query negated => operand.nests.among negated (nests_query query)
  | .isNull operand negated => by
    refine operand.nests.append ?_
    cases negated <;> exact .of_all rfl
  | .like operand pattern escape negated anyCase => by
    have hword : Nests Token.isInner (negationTokens negated ++
        [.space, .keyword (if anyCase then .likeAnyCase else .like), .space]) := by
      cases negated <;> cases anyCase <;> exact .of_all rfl
    have hescape : Nests Token.isInner (escapeTokens escape) := by
      cases escape <;> exact .of_all rfl
    have htest := (operand.nests.append hword).append (pattern.nests.append hescape)
    simpa [Expr.tokens] using htest
  | .star table => (nests_qualifierTokens table).append (.of_all rfl)
  | .paren inner => .group inner.nests.anyhow .nil

private theorem nests_each : ∀ es : List Expr,
    ∀ part ∈ tokensOfEach es, Nests Token.isInner part
  | [] => nofun
  | e :: rest => List.forall_mem_cons.mpr ⟨e.nests, nests_each rest⟩

private theorem nests_query : ∀ query : QueryOf Expr, Nests (fun _ => true) (queryTokens query)
  | ⟨select, distinct, source, joins, filter, groupBy, orderBy, window⟩ => by
    have hbefore := nests_beforeWhere distinct (nests_select select) source (nests_joins joins)
    have hafter := nests_afterWhere (nests_each groupBy) (nests_order orderBy) window
    have hquery := (hbefore.anyhow.append (nests_where filter)).append hafter.anyhow
    simpa [queryTokens] using hquery

private theorem nests_select : ∀ items : List (SelectItem Expr),
    ∀ part ∈ selectTokens items, Nests Token.isInner part
  | [] => nofun
  | ⟨expr, aliasName⟩ :: rest =>
    List.forall_mem_cons.mpr ⟨expr.nests.append (nests_aliasTokens aliasName), nests_select rest⟩

private theorem nests_joins : ∀ joins : List (Join Expr),
    Nests Token.isNotWhere (joinTokens joins)
  | [] => .nil
  | ⟨kind, table, condition⟩ :: rest => by
    have hkind : Nests Token.isNotWhere
        [.newline, .keyword kind.keyword, .space, .keyword .join, .space] := by
      cases kind <;> exact .of_all rfl
    have htable := table.nests.mono fun _ => Token.isNotWhere_of_isInner
    have hon : Nests Token.isNotWhere [.space, .keyword .onCondition, .space] := .of_all rfl
    have hcondition := condition.nests.mono fun _ => Token.isNotWhere_of_isInner
    have hjoins := (((hkind.append htable).append hon).append hcondition).append (nests_joins rest)
    simpa [joinTokens] using hjoins

private theorem nests_where : ∀ filter : Option Expr, Nests (fun _ => true) (whereTokens filter)
  | none => .nil
  | some condition => .word rfl rfl (.word rfl rfl (.word rfl rfl condition.nests.anyhow))

private theorem nests_order : ∀ keys : List (OrderKey Expr),
    ∀ part ∈ orderTokens keys, Nests Token.isInner part
  | [] => nofun
  | ⟨expr, direction, nulls⟩ :: rest => by
    have hdirection : Nests Token.isInner (directionTokens direction ++ nullsTokens nulls) := by
      rcases direction with _ | _ | _ <;> rcases nulls with _ | _ | _ <;> exact .of_all rfl
    have hkey := expr.nests.append hdirection
    rw [← List.append_assoc] at hkey
    exact List.forall_mem_cons.mpr ⟨hkey, nests_order rest⟩

end

/-- Every token with the number of parentheses that it is inside of. -/
def withDepth : Nat → List Token → List (Token × Nat)
  | _, [] => []
  | depth, .symbol .leftParen :: rest => (.symbol .leftParen, depth + 1) :: withDepth (depth + 1) rest
  | depth, .symbol .rightParen :: rest => (.symbol .rightParen, depth) :: withDepth (depth - 1) rest
  | depth, token :: rest => (token, depth) :: withDepth depth rest

/-- What stands after the word WHERE, up to the next clause. -/
def whereClause? (tokens : List Token) : Option (List Token) :=
  match (withDepth 0 tokens).dropWhile fun placed => placed.2 ≠ 0 || placed.1.isNotWhere with
  | [] => none
  | _ :: rest =>
    some ((rest.takeWhile fun placed => placed.2 ≠ 0 || placed.1.isInner).map Prod.fst)

private theorem map_fst_withDepth (depth : Nat) (tokens : List Token) :
    (withDepth depth tokens).map Prod.fst = tokens := by
  induction tokens generalizing depth with
  | nil => rfl
  | cons token rest ih =>
    unfold withDepth
    split <;> simp_all

private theorem withDepth_cons {token : Token} (h : token.isParenthesis = false) (depth : Nat)
    (rest : List Token) : withDepth depth (token :: rest) = (token, depth) :: withDepth depth rest := by
  cases token with
  | symbol mark => cases mark <;> first | rfl | exact nomatch h
  | _ => rfl

private theorem withDepth_open (depth : Nat) (rest : List Token) :
    withDepth depth (.symbol .leftParen :: rest) =
      (.symbol .leftParen, depth + 1) :: withDepth (depth + 1) rest := rfl

private theorem withDepth_close (depth : Nat) (rest : List Token) :
    withDepth (depth + 1) (.symbol .rightParen :: rest) =
      (.symbol .rightParen, depth + 1) :: withDepth depth rest := rfl

namespace Nests

variable {outside : Token → Bool} {tokens : List Token}

private theorem withDepth_append (h : Nests outside tokens) (depth : Nat) (rest : List Token) :
    withDepth depth (tokens ++ rest) = withDepth depth tokens ++ withDepth depth rest := by
  induction h generalizing depth rest with
  | nil => rfl
  | word _ hparen _ ih =>
    rw [List.cons_append, withDepth_cons hparen, withDepth_cons hparen, ih, List.cons_append]
  | group _ _ ih ih' =>
    rw [List.cons_append, List.append_assoc, List.cons_append, withDepth_open, withDepth_open, ih, ih,
      withDepth_close, withDepth_close, ih', List.cons_append, List.append_assoc, List.cons_append]

private theorem of_mem_withDepth (h : Nests outside tokens) (depth : Nat) :
    ∀ placed ∈ withDepth depth tokens,
      depth < placed.2 ∨ placed.2 = depth ∧ outside placed.1 = true := by
  induction h generalizing depth with
  | nil =>
    intro placed hplaced
    exact absurd hplaced List.not_mem_nil
  | word htoken hparen _ ih =>
    rw [withDepth_cons hparen, List.forall_mem_cons]
    exact ⟨Or.inr ⟨rfl, htoken⟩, ih depth⟩
  | group hinner _ ih ih' =>
    intro placed hplaced
    rw [withDepth_open, hinner.withDepth_append, withDepth_close, List.mem_cons, List.mem_append,
      List.mem_cons] at hplaced
    rcases hplaced with rfl | hplaced | rfl | hplaced
    · exact Or.inl (Nat.lt_succ_self depth)
    · rcases ih (depth + 1) placed hplaced with hdeep | ⟨hdepth, _⟩ <;> exact Or.inl (by omega)
    · exact Or.inl (Nat.lt_succ_self depth)
    · exact ih' depth placed hplaced

private theorem passed (h : Nests outside tokens) :
    ∀ placed ∈ withDepth 0 tokens, (placed.2 ≠ 0 || outside placed.1) = true := by
  intro placed hplaced
  rcases h.of_mem_withDepth 0 placed hplaced with hdeep | ⟨_, houtside⟩
  · simp [Nat.ne_of_gt hdeep]
  · simp [houtside]

end Nests

private theorem whereClause?_append {before condition after : List Token}
    (hbefore : Nests Token.isNotWhere before) (hcondition : Nests Token.isInner condition)
    (hafter : after = [] ∨ ∃ w rest, Keyword.opensClause w = true ∧ after = .keyword w :: rest) :
    whereClause? (before ++ .keyword .whereHolds :: (condition ++ after)) = some condition := by
  have hstop : (withDepth 0 after).takeWhile (fun placed => placed.2 ≠ 0 || placed.1.isInner) = [] := by
    rcases hafter with rfl | ⟨w, rest, hw, rfl⟩
    · rfl
    · have hinner : (Token.keyword w).isInner = false := by simp [Token.isInner, hw]
      rw [withDepth_cons rfl, List.takeWhile_cons_of_neg (by simp [hinner])]
  unfold whereClause?
  rw [hbefore.withDepth_append, List.dropWhile_append_of_pos hbefore.passed, withDepth_cons rfl,
    List.dropWhile_cons_of_neg (by simp [Token.isNotWhere])]
  simp only
  rw [hcondition.withDepth_append, List.takeWhile_append_of_pos hcondition.passed, hstop,
    List.append_nil, map_fst_withDepth]

private theorem whereClause?_eq_none {tokens : List Token} (h : Nests Token.isNotWhere tokens) :
    whereClause? tokens = none := by
  unfold whereClause?
  rw [List.dropWhile_eq_nil_iff.mpr h.passed]

/-- Whether tokens are no more than the end of a line, or begin another clause on the next one. -/
def EndsClause (tokens : List Token) : Prop :=
  ∃ lineEnd after, tokens = lineEnd ++ after ∧ (lineEnd = [] ∨ lineEnd = [.newline]) ∧
    (after = [] ∨ ∃ w rest, Keyword.opensClause w = true ∧ after = .keyword w :: rest)

private theorem endsClause_clause {w : Keyword} (hw : w.opensClause = true) (rest : List Token) :
    EndsClause (.newline :: .keyword w :: rest) :=
  ⟨[.newline], _, rfl, Or.inr rfl, Or.inr ⟨w, rest, hw, rfl⟩⟩

private theorem endsClause_windowTokens (window : Option Window) :
    EndsClause (windowTokens window) := by
  rcases window with _ | ⟨_ | limit, _ | offset⟩
  · exact ⟨[], [], rfl, Or.inl rfl, Or.inl rfl⟩
  · exact ⟨[.newline], [], rfl, Or.inr rfl, Or.inl rfl⟩
  all_goals exact endsClause_clause rfl _

private theorem EndsClause.listClause {word : Keyword} (hword : word.opensClause = true)
    (parts : List (List Token)) {more : List Token} (h : EndsClause more) :
    EndsClause (listClause word parts ++ more) := by
  unfold Sql.listClause
  split
  · exact h
  · exact endsClause_clause hword _

/-- The WHERE clause of a query is its condition, up to the end of the line. -/
theorem Query.whereClause?_tokens (query : Query) :
    ∃ lineEnd, (lineEnd = [] ∨ lineEnd = [.newline]) ∧
      whereClause? query.tokens = query.filter.map fun e => .space :: (e.tokens ++ lineEnd) := by
  obtain ⟨select, distinct, source, joins, filter, groupBy, orderBy, window⟩ := query
  have hbefore := nests_beforeWhere distinct (nests_select select) source (nests_joins joins)
  have hends : EndsClause (listClause .groupBy (tokensOfEach groupBy) ++
      (listClause .orderBy (orderTokens orderBy) ++ windowTokens window)) :=
    (EndsClause.listClause rfl _ (endsClause_windowTokens window)).listClause rfl _
  obtain ⟨lineEnd, after, heq, hline, hafter⟩ := hends
  refine ⟨lineEnd, hline, ?_⟩
  unfold tokens queryTokens
  rw [List.append_assoc _ _ (windowTokens window), List.append_assoc _ _ (_ ++ _), heq]
  cases filter with
  | none =>
    have hnests := nests_afterWhere (nests_each groupBy) (nests_order orderBy) window
    rw [List.append_assoc, heq] at hnests
    exact whereClause?_eq_none ((hbefore.append .nil).append hnests)
  | some condition =>
    have hcondition : Nests Token.isInner (.space :: (condition.tokens ++ lineEnd)) := by
      rcases hline with rfl | rfl <;> exact .word rfl rfl (condition.nests.append (.of_all rfl))
    have hwords : Nests Token.isNotWhere [.newline] := .of_all rfl
    have hclause := whereClause?_append (hbefore.append hwords) hcondition hafter
    simpa [whereTokens] using hclause

theorem Update.whereClause?_tokens (update : Update) :
    whereClause? update.tokens = update.filter.map fun e => .space :: e.tokens := by
  have hassigned : Nests Token.isInner (separated (update.assignments.map assignmentTokens)) := by
    apply Nests.separated
    intro part hpart
    obtain ⟨assignment, _, rfl⟩ := List.mem_map.mp hpart
    exact .word rfl rfl (.word rfl rfl (.word rfl rfl (.word rfl rfl assignment.2.nests)))
  have hbefore : Nests Token.isNotWhere (.keyword .update :: .space :: .identifier update.table ::
      .space :: .keyword .set :: .space :: separated (update.assignments.map assignmentTokens)) :=
    .word rfl rfl (.word rfl rfl (.word rfl rfl (.word rfl rfl (.word rfl rfl (.word rfl rfl
      (hassigned.mono fun _ => Token.isNotWhere_of_isInner))))))
  unfold tokens
  cases update.filter with
  | none => exact whereClause?_eq_none (hbefore.append .nil)
  | some condition =>
    have hcondition : Nests Token.isInner (.space :: condition.tokens) :=
      .word rfl rfl condition.nests
    have hwords : Nests Token.isNotWhere [.newline] := .of_all rfl
    have hclause := whereClause?_append (hbefore.append hwords) hcondition (Or.inl rfl)
    simpa [whereTokens] using hclause

private theorem readToken_of_not_parenthesis {token : Token} (h : token.isParenthesis = false) :
    ∃ items, ∀ innermost opened,
      readToken (innermost :: opened) token = some ((innermost ++ items) :: opened) := by
  cases token with
  | space | newline | indent => exact ⟨[], fun innermost opened => by simp⟩
  | symbol mark => cases mark <;> first | exact ⟨[_], fun _ _ => rfl⟩ | exact nomatch h
  | _ => exact ⟨[_], fun _ _ => rfl⟩

namespace Nests

variable {outside other : Token → Bool} {tokens more : List Token}

private theorem exists_items (h : Nests outside tokens) :
    ∃ items : Option (List Item), ∀ innermost opened, tokens.foldlM readToken (innermost :: opened) =
      items.map fun items => (innermost ++ items) :: opened := by
  induction h with
  | nil => exact ⟨some [], fun innermost opened => by simp⟩
  | word _ hparen _ ih =>
    obtain ⟨first, hfirst⟩ := readToken_of_not_parenthesis hparen
    obtain ⟨items, hitems⟩ := ih
    refine ⟨items.map (first ++ ·), fun innermost opened => ?_⟩
    rw [List.foldlM_cons, hfirst, Option.bind_eq_bind, Option.bind_some, hitems, Option.map_map]
    simp [Function.comp_def]
  | group _ _ ih ih' =>
    obtain ⟨inner, hinner⟩ := ih
    obtain ⟨items, hitems⟩ := ih'
    refine ⟨inner.bind fun held => (readGroup held).bind fun item => items.map (item :: ·),
      fun innermost opened => ?_⟩
    rw [List.foldlM_cons]
    simp only [readToken, Option.bind_eq_bind, Option.bind_some]
    rw [List.foldlM_append, hinner]
    cases inner with
    | none => rfl
    | some held =>
      rw [Option.map_some, Option.bind_eq_bind, Option.bind_some, List.nil_append, List.foldlM_cons]
      cases hgroup : readGroup held with
      | none => simp [hgroup]
      | some item =>
        simp only [readToken, hgroup, Option.map_some, Option.bind_eq_bind, Option.bind_some, hitems]
        simp [Function.comp_def]

private theorem foldlM_readToken (h : Nests outside tokens) (innermost : List Item)
    (opened : List (List Item)) : tokens.foldlM readToken (innermost :: opened) =
      (readItems tokens).map fun items => (innermost ++ items) :: opened := by
  obtain ⟨items, hitems⟩ := h.exists_items
  have hread : readItems tokens = items := by
    unfold readItems
    rw [hitems [] []]
    cases items <;> rfl
  rw [hitems, hread]

theorem readItems_append (h : Nests outside tokens) (hmore : Nests other more) :
    readItems (tokens ++ more) =
      (readItems tokens).bind fun items => (readItems more).map (items ++ ·) := by
  have hsingle : Function.Injective fun items : List Item => [items] := fun _ _ => by simp
  have hwhole := (h.anyhow.append hmore.anyhow).foldlM_readToken [] []
  rw [List.foldlM_append, h.foldlM_readToken] at hwhole
  apply Option.map_injective hsingle
  cases hitems : readItems tokens with
  | none => simpa [hitems] using hwhole.symm
  | some items =>
    rw [hitems, Option.map_some, Option.bind_eq_bind, Option.bind_some,
      hmore.foldlM_readToken] at hwhole
    simpa [Function.comp_def] using hwhole.symm

end Nests

end TenantGrid.Sql
