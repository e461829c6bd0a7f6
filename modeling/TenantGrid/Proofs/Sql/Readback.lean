import Mathlib.Data.List.Forall2
import TenantGrid.Proofs.Sql.Clauses
/-!
# Reading statements back

A readable query or update is the only thing that its tokens are read as.
-/
namespace TenantGrid.Sql

@[simp] theorem lacks_clause_aliasItems (aliasName : Option String) :
    Lacks Item.clause? (aliasItems aliasName) := by
  cases aliasName <;> simp [aliasItems, Item.clause?, Keyword.opensClause]

private theorem TableRef.lacks_clause (ref : TableRef) : Lacks Item.clause? ref.items := by
  simp [items, Item.clause?]

private theorem SelectItem.lacks_clause {item : SelectItem Expr} (h : item.expr.IsReadable) :
    Lacks Item.clause? item.items := by
  simp [items, h.lacks_clause]

private theorem OrderKey.lacks_clause {key : OrderKey Expr} (h : key.expr.IsReadable) :
    Lacks Item.clause? key.items := by
  obtain ⟨expr, direction, nulls⟩ := key
  have hexpr : Lacks Item.clause? expr.items := h.lacks_clause
  rcases direction with _ | _ | _ <;> rcases nulls with _ | _ | _ <;>
    simpa [items, directionItems, nullsItems, Item.clause?, Keyword.opensClause] using hexpr

private theorem lacks_clause_commaItems {α : Type} {written : α → List Item} {as : List α}
    (h : ∀ a ∈ as, Lacks Item.clause? (written a)) :
    Lacks Item.clause? (commaItems (as.map written)) := by
  apply lacks_commaItems rfl
  intro segment hsegment
  obtain ⟨a, ha, rfl⟩ := List.mem_map.mp hsegment
  exact h a ha

private theorem Join.clauses_isWhole {join : Join Expr} (h : join.condition.IsReadable) :
    ∀ clause ∈ join.clauses, clause.IsWhole := by
  have hkind : join.kind.keyword.opensClause = true := by
    cases join.kind <;> rfl
  intro clause hclause
  simp only [clauses, List.mem_cons, List.not_mem_nil, or_false] at hclause
  rcases hclause with rfl | rfl | rfl
  · exact ⟨hkind, lacks_nil⟩
  · exact ⟨rfl, join.table.lacks_clause⟩
  · exact ⟨rfl, h.lacks_clause⟩

namespace Query.IsReadable

variable {query : Query}

private theorem laterClauses_areWhole (h : query.IsReadable) :
    ∀ clause ∈ query.laterClauses, clause.IsWhole := by
  have hgroup : ∀ es ∈ nonEmpty? query.groupBy,
      Lacks Item.clause? (commaItems (es.map Expr.items)) := by
    intro es hes
    obtain ⟨rfl, _⟩ := nonEmpty?_eq_some hes
    exact lacks_clause_commaItems fun e he => (h.groupBy e he).lacks_clause
  have horder : ∀ keys ∈ nonEmpty? query.orderBy,
      Lacks Item.clause? (commaItems (keys.map OrderKey.items)) := by
    intro keys hkeys
    obtain ⟨rfl, _⟩ := nonEmpty?_eq_some hkeys
    exact lacks_clause_commaItems fun key hkey => OrderKey.lacks_clause (h.orderBy key hkey)
  have hjoins : ∀ clause ∈ query.joins.flatMap Join.clauses, Clause.IsWhole clause := by
    intro clause hclause
    obtain ⟨join, hjoin, hclause⟩ := List.mem_flatMap.mp hclause
    exact Join.clauses_isWhole (h.joins join hjoin) clause hclause
  have hcount : ∀ n, Lacks Item.clause? (rowCountItems n) := by
    simp [rowCountItems, rowCountLiteral, Item.clause?]
  unfold laterClauses
  simp only [List.forall_mem_append]
  refine ⟨optionClause_isWhole rfl fun ref _ => ref.lacks_clause, hjoins,
    optionClause_isWhole rfl fun e he => (h.filter e he).lacks_clause,
    optionClause_isWhole rfl hgroup, optionClause_isWhole rfl horder,
    optionClause_isWhole rfl fun n _ => hcount n,
    optionClause_isWhole rfl fun n _ => hcount n, ?_⟩
  simp

private theorem clauses_areWhole (h : query.IsReadable) :
    ∀ clause ∈ query.clauses, clause.IsWhole := by
  have hselect : Lacks Item.clause? (commaItems (query.select.map SelectItem.items)) :=
    lacks_clause_commaItems fun item hitem => SelectItem.lacks_clause (h.select item hitem)
  have hdistinct : Lacks Item.clause? (distinctItems query.distinct) := by
    cases query.distinct <;> simp [distinctItems, Item.clause?, Keyword.opensClause]
  unfold clauses
  rw [List.forall_mem_cons]
  exact ⟨⟨rfl, lacks_append.mpr ⟨hdistinct, hselect⟩⟩, h.laterClauses_areWhole⟩

end Query.IsReadable

private theorem readDistinct_distinctItems (distinct : Bool) {items : List Item} (h : Opens items) :
    readDistinct (Query.distinctItems distinct ++ items) = (distinct, items) := by
  cases distinct with
  | false => exact h.readDistinct
  | true => rfl

private theorem SelectItem.opens_items {item : SelectItem Expr} (h : item.expr.IsReadable) :
    Opens item.items :=
  (Expr.opens_items h).append _

private theorem Query.IsReadable.readQuery_items {query : Query} (h : query.IsReadable) :
    readQuery query.items = some query := by
  have hopens : Opens (commaItems (query.select.map SelectItem.items)) := by
    obtain ⟨item, rest, hselect⟩ := List.exists_cons_of_ne_nil h.select_ne_nil
    have hitem : item.expr.IsReadable := h.select item (by simp [hselect])
    rw [hselect, List.map_cons]
    exact (SelectItem.opens_items hitem).commaItems _
  have hcomma : ∀ item ∈ query.select, Lacks (Item.mark? (.symbol .comma)) item.items := by
    intro item hitem
    have hexpr := (h.select item hitem).lacks_mark (.symbol .comma) rfl
    obtain ⟨expr, aliasName⟩ := item
    cases aliasName <;> simpa [SelectItem.items, aliasItems, Item.mark?] using hexpr
  have hselect : readSeparated readSelectItem (commaItems (query.select.map SelectItem.items)) =
      some query.select :=
    readSeparated_commaItems h.select_ne_nil
      (fun item hitem => readSelectItem_items (h.select item hitem)) hcomma
  unfold readQuery items
  rw [cut_clauseItems h.clauses_areWhole]
  simp only [clauses, readDistinct_distinctItems query.distinct hopens, hselect, Option.bind_some]
  exact h.readClauses

private theorem Query.IsReadable.readGroup_items {query : Query} (h : query.IsReadable) :
    readGroup query.items = some (.subquery query) := by
  have hitems : ∃ rest, query.items = .word (.keyword .select) :: rest := ⟨_, rfl⟩
  obtain ⟨rest, hitems⟩ := hitems
  have hread := h.readQuery_items
  rw [hitems] at hread ⊢
  simp [readGroup, hread]

private theorem readMembers_items {es : List Expr} (h : ∀ e ∈ es, e.IsReadable) :
    readMembers (commaItems (es.map Expr.items)) = some es := by
  cases es with
  | nil => rfl
  | cons e rest =>
    obtain ⟨first, others, hitems, _⟩ := (Expr.opens_items (h e List.mem_cons_self)).commaItems
      (rest.map Expr.items)
    have hread : readSeparated readExpr (commaItems ((e :: rest).map Expr.items)) =
        some (e :: rest) :=
      readSeparated_commaItems (by simp) (fun e he => Expr.readExpr_items (h e he))
        fun e he => (h e he).lacks_mark _ rfl
    rw [List.map_cons, hitems] at hread ⊢
    exact hread

private theorem readGroup_members (distinct : Bool) {es : List Expr} (h : ∀ e ∈ es, e.IsReadable) :
    readGroup (Query.distinctItems distinct ++ commaItems (es.map Expr.items)) =
      some (.group distinct es) := by
  have hread := readMembers_items h
  cases distinct with
  | true =>
    change (readMembers (commaItems (es.map Expr.items))).map _ = _
    rw [hread]
    rfl
  | false =>
    cases es with
    | nil => rfl
    | cons e rest =>
      have hopens := (Expr.opens_items (h e List.mem_cons_self)).commaItems (rest.map Expr.items)
      change readGroup (commaItems (e.items :: rest.map Expr.items)) = _
      rw [hopens.readGroup, ← List.map_cons, hread]
      rfl

/-- Whether tokens add the items to the innermost open parenthesis and leave the others as they are. -/
def Yields (tokens : List Token) (items : List Item) : Prop :=
  ∀ innermost opened, tokens.foldlM readToken (innermost :: opened) =
    some ((innermost ++ items) :: opened)

/-- Whether a token stands for itself among items. -/
def Token.IsWord (token : Token) : Prop :=
  ∀ innermost opened, readToken (innermost :: opened) token =
    some ((innermost ++ [.word token]) :: opened)

private theorem Keyword.isWord (w : Keyword) : (Token.keyword w).IsWord :=
  fun _ _ => rfl

private theorem Token.identifier_isWord (name : String) : (Token.identifier name).IsWord :=
  fun _ _ => rfl

private theorem Token.function_isWord (name : String) : (Token.function name).IsWord :=
  fun _ _ => rfl

private theorem BinaryOp.token_isWord (op : BinaryOp) : op.token.IsWord := by
  cases op <;> exact fun _ _ => rfl

private theorem Literal.token_isWord (l : Literal) : l.token.IsWord := by
  cases l <;> exact fun _ _ => rfl

namespace Yields

variable {tokens others : List Token} {items more : List Item}

private theorem nil : Yields [] [] := by
  intro innermost opened
  simp

private theorem append (h : Yields tokens items) (h' : Yields others more) :
    Yields (tokens ++ others) (items ++ more) := by
  intro innermost opened
  rw [List.foldlM_append, h innermost opened, Option.bind_eq_bind, Option.bind_some,
    h' (innermost ++ items) opened, List.append_assoc]

private theorem space (h : Yields tokens items) : Yields (.space :: tokens) items := h

private theorem newline (h : Yields tokens items) : Yields (.newline :: tokens) items := h

private theorem indent {n : Nat} (h : Yields tokens items) : Yields (.indent n :: tokens) items := h

private theorem word {token : Token} (hword : token.IsWord) (h : Yields tokens items) :
    Yields (token :: tokens) (.word token :: items) := by
  intro innermost opened
  rw [List.foldlM_cons, hword innermost opened, Option.bind_eq_bind, Option.bind_some,
    h (innermost ++ [Item.word token]) opened, List.append_assoc]
  rfl

private theorem group {item : Item} (h : Yields tokens items)
    (hread : readGroup items = some item) :
    Yields (.symbol .leftParen :: (tokens ++ [.symbol .rightParen])) [item] := by
  intro innermost opened
  change (tokens ++ [Token.symbol .rightParen]).foldlM readToken ([] :: innermost :: opened) = _
  rw [List.foldlM_append, h [] (innermost :: opened), List.nil_append]
  simp [hread]

private theorem intercalate {comma : List Token} (hcomma : Yields comma [.word (.symbol .comma)])
    {parts : List (List Token)} {segments : List (List Item)}
    (h : List.Forall₂ Yields parts segments) :
    Yields (List.intercalate comma parts) (commaItems segments) := by
  induction h with
  | nil => exact nil
  | cons hfirst hrest ih =>
    cases hrest with
    | nil => simpa [commaItems] using hfirst
    | cons hsecond hrest =>
      have hparts := (hfirst.append hcomma).append ih
      simpa [commaItems_cons, List.intercalate_cons_cons] using hparts

end Yields

private theorem yields_aliasTokens (aliasName : Option String) :
    Yields (aliasTokens aliasName) (aliasItems aliasName) := by
  intro innermost opened
  cases aliasName <;> simp [aliasTokens, aliasItems]

private theorem yields_negationTokens (negated : Bool) :
    Yields (negationTokens negated) (negationItems negated) := by
  intro innermost opened
  cases negated <;> simp [negationTokens, negationItems]

private theorem yields_escapeTokens (escape : Option Char) :
    Yields (escapeTokens escape) (escapeItems escape) := by
  intro innermost opened
  cases escape <;> simp [escapeTokens, escapeItems]

private theorem yields_directionTokens (direction : Option Direction) :
    Yields (directionTokens direction) (directionItems direction) := by
  intro innermost opened
  rcases direction with _ | _ | _ <;> simp [directionTokens, directionItems]

private theorem yields_nullsTokens (nulls : Option NullsPlacement) :
    Yields (nullsTokens nulls) (nullsItems nulls) := by
  intro innermost opened
  rcases nulls with _ | _ | _ <;> simp [nullsTokens, nullsItems]

private theorem yields_comma : Yields [.symbol .comma, .space] [.word (.symbol .comma)] :=
  fun _ _ => rfl

private theorem TableRef.yields (ref : TableRef) : Yields ref.tokens ref.items :=
  .word (Token.identifier_isWord ref.table) (yields_aliasTokens ref.aliasName)

private theorem yields_sourceTokens (source : Option TableRef) :
    Yields (sourceTokens source) (clauseItems (optionClause .fromTable TableRef.items source)) := by
  cases source with
  | none => exact .nil
  | some ref =>
    have hclause := Yields.newline (.word (Keyword.isWord .fromTable) (.space ref.yields))
    simpa [sourceTokens, clauseItems, optionClause] using hclause

private theorem yields_windowTokens (window : Option Window) :
    Yields (windowTokens window)
      (clauseItems (optionClause .limit rowCountItems (window.bind Window.limit) ++
        optionClause .offset rowCountItems (window.bind Window.offset))) := by
  intro innermost opened
  rcases window with _ | ⟨_ | limit, _ | offset⟩ <;>
    simp [windowTokens, Window.tokens, clauseItems, optionClause, rowCountItems, rowCountLiteral]

private theorem yields_listClause {α : Type} (word : Keyword) {written : α → List Item}
    {parts : List (List Token)} {as : List α} (h : List.Forall₂ Yields parts (as.map written)) :
    Yields (listClause word parts)
      (clauseItems (optionClause word (fun as => commaItems (as.map written)) (nonEmpty? as))) := by
  cases as with
  | nil =>
    rw [List.map_nil, List.forall₂_nil_right_iff] at h
    rw [h]
    exact .nil
  | cons a rest =>
    have hparts : parts.isEmpty = false := by
      cases h
      rfl
    have hclause := Yields.newline (.word word.isWord (.space (.intercalate yields_comma h)))
    simpa [listClause, hparts, separated, clauseItems, optionClause, nonEmpty?] using hclause

private theorem yields_selectList {parts : List (List Token)} {segments : List (List Item)}
    (h : List.Forall₂ Yields parts segments) : Yields (selectList parts) (commaItems segments) := by
  apply Yields.intercalate fun _ _ => rfl
  rw [List.forall₂_map_left_iff]
  exact h.imp fun _ _ hpart => hpart.indent.newline

private theorem yields_among {operand members : List Token} {operandItems memberItems : List Item}
    (negated : Bool) {item : Item} (hoperand : Yields operand operandItems)
    (hmembers : Yields members memberItems) (hread : readGroup memberItems = some item) :
    Yields (operand ++ negationTokens negated ++ .space :: .keyword .inSet :: .space ::
        .symbol .leftParen :: members ++ [.symbol .rightParen])
      (operandItems ++ (negationItems negated ++ [.word (.keyword .inSet), item])) := by
  have hgroup := Yields.word (Keyword.isWord .inSet) (hmembers.group hread).space
  have hwhole := (hoperand.append (yields_negationTokens negated)).append hgroup.space
  simpa using hwhole

mutual

private theorem Expr.yields : ∀ e : Expr, e.IsReadable → Yields e.tokens e.items
  | .column none name, _ => fun _ _ => rfl
  | .column (some table) name, _ => by
    intro innermost opened
    simp [Expr.tokens, qualifierTokens]
  | .literal l, _ => .word l.token_isWord .nil
  | .param value, _ => fun _ _ => rfl
  | .binary op left right, h => by
    simp only [Expr.IsReadable] at h
    exact (left.yields h.1).append (.space (.word op.token_isWord (.space (right.yields h.2.1))))
  | .not operand, h => by
    simp only [Expr.IsReadable] at h
    exact .word (Keyword.isWord .not) (.space (operand.yields h.1))
  | .call function distinct args, h => by
    simp only [Expr.IsReadable] at h
    have hdistinct : Yields (if distinct then [.keyword .distinct, .space] else [])
        (Query.distinctItems distinct) := by
      intro innermost opened
      cases distinct <;> simp [Query.distinctItems]
    have hargs := hdistinct.append (.intercalate yields_comma (yields_each args h))
    have hgroup := hargs.group (readGroup_members distinct (eachReadable_iff.mp h))
    have hcall := Yields.word (Token.function_isWord function) hgroup
    simpa [Expr.tokens, separated] using hcall
  | .inList operand values negated, h => by
    simp only [Expr.IsReadable] at h
    have hvalues : Yields (separated (tokensOfEach values)) (commaItems (values.map Expr.items)) :=
      .intercalate yields_comma (yields_each values h.2.2.2)
    have hread := readGroup_members false (eachReadable_iff.mp h.2.2.2)
    have htest := yields_among negated (operand.yields h.1) hvalues hread
    have hvalues : values.isEmpty = false := by simpa using h.2.2.1
    simpa [Expr.tokens, hvalues] using htest
  | .inQuery operand query negated, h => by
    simp only [Expr.IsReadable] at h
    have hread := (queryReadable_iff.mp h.2.2).readGroup_items
    exact yields_among negated (operand.yields h.1) (yields_query query h.2.2) hread
  | .isNull operand negated, h => by
    simp only [Expr.IsReadable] at h
    exact (operand.yields h.1).append (.space (.word (Keyword.isWord _) .nil))
  | .like operand pattern escape negated anyCase, h => by
    simp only [Expr.IsReadable] at h
    have hpattern := (pattern.yields h.2.1).append (yields_escapeTokens escape)
    have hword := Yields.word (Keyword.isWord (if anyCase then .likeAnyCase else .like)) hpattern.space
    have htest := ((operand.yields h.1).append (yields_negationTokens negated)).append hword.space
    simpa [Expr.tokens] using htest
  | .star none, _ => fun _ _ => rfl
  | .star (some table), _ => by
    intro innermost opened
    simp [Expr.tokens, qualifierTokens]
  | .paren inner, h => by
    simp only [Expr.IsReadable] at h
    have hone : ∀ e ∈ [inner], e.IsReadable := by simpa using h
    have hread : readGroup inner.items = some (.group false [inner]) := by
      simpa [Query.distinctItems, commaItems] using readGroup_members false hone
    exact (inner.yields h).group hread

private theorem yields_each : ∀ es : List Expr, eachReadable es →
    List.Forall₂ Yields (tokensOfEach es) (es.map Expr.items)
  | [], _ => .nil
  | e :: rest, h => .cons (e.yields h.1) (yields_each rest h.2)

private theorem yields_query : ∀ query : QueryOf Expr, queryReadable query →
    Yields (queryTokens query) (Query.items query)
  | ⟨select, distinct, source, joins, filter, groupBy, orderBy, window⟩, h => by
    obtain ⟨_, hselect, hjoins, hfilter, hgroup, horder, _⟩ := h
    have hdistinct : Yields (if distinct then [.space, .keyword .distinct] else [])
        (Query.distinctItems distinct) := by
      intro innermost opened
      cases distinct <;> simp [Query.distinctItems]
    have hselect := Yields.word (Keyword.isWord .select)
      (hdistinct.append (yields_selectList (yields_select select hselect)))
    have hquery := (((((hselect.append (yields_sourceTokens source)).append
      (yields_joins joins hjoins)).append (yields_filter filter hfilter)).append
        (yields_listClause .groupBy (yields_each groupBy hgroup))).append
          (yields_listClause .orderBy (yields_order orderBy horder))).append
            (yields_windowTokens window)
    simpa [queryTokens, Query.items, Query.clauses, Query.laterClauses, clauseItems] using hquery

private theorem yields_select : ∀ items : List (SelectItem Expr), itemsReadable items →
    List.Forall₂ Yields (selectTokens items) (items.map SelectItem.items)
  | [], _ => .nil
  | ⟨expr, aliasName⟩ :: rest, h =>
    .cons ((expr.yields h.1).append (yields_aliasTokens aliasName)) (yields_select rest h.2)

private theorem yields_joins : ∀ joins : List (Join Expr), joinsReadable joins →
    Yields (joinTokens joins) (clauseItems (joins.flatMap Join.clauses))
  | [], _ => .nil
  | ⟨kind, table, condition⟩ :: rest, h => by
    have hcondition := Yields.word (Keyword.isWord .onCondition) (condition.yields h.1).space
    have htable := Yields.word (Keyword.isWord .join) table.yields.space
    have hjoin := Yields.word kind.keyword.isWord (htable.append hcondition.space).space
    have hjoins := hjoin.newline.append (yields_joins rest h.2)
    simpa [joinTokens, clauseItems, Join.clauses] using hjoins

private theorem yields_filter : ∀ filter : Option Expr, filterReadable filter →
    Yields (whereTokens filter) (clauseItems (optionClause .whereHolds Expr.items filter))
  | none, _ => .nil
  | some condition, h => by
    have hclause := Yields.newline (.word (Keyword.isWord .whereHolds) (condition.yields h).space)
    simpa [whereTokens, clauseItems, optionClause] using hclause

private theorem yields_order : ∀ keys : List (OrderKey Expr), keysReadable keys →
    List.Forall₂ Yields (orderTokens keys) (keys.map OrderKey.items)
  | [], _ => .nil
  | ⟨expr, direction, nulls⟩ :: rest, h => by
    have hkey := (expr.yields h.1).append
      ((yields_directionTokens direction).append (yields_nullsTokens nulls))
    rw [← List.append_assoc] at hkey
    exact .cons hkey (yields_order rest h.2)

end

private theorem Yields.readItems {tokens : List Token} {items : List Item}
    (h : Yields tokens items) : readItems tokens = some items := by
  unfold Sql.readItems
  rw [h [] [], List.nil_append]

theorem Query.IsReadable.ofTokens?_tokens {query : Query} (h : query.IsReadable) :
    Query.ofTokens? query.tokens = some query := by
  have hitems := (yields_query query (queryReadable_iff.mpr h)).readItems
  unfold ofTokens? tokens
  rw [hitems, Option.bind_some]
  exact h.readQuery_items

namespace Update

/-- Whether an update is read back from its tokens. -/
structure IsReadable (update : Update) : Prop where
  assignments_ne_nil : update.assignments ≠ []
  assignments : ∀ assignment ∈ update.assignments, assignment.2.IsReadable
  filter : ∀ e ∈ update.filter, e.IsReadable

def clauses (update : Update) : List Clause :=
  (.update, [.word (.identifier update.table)]) ::
    (.set, commaItems (update.assignments.map assignmentItems)) ::
      optionClause .whereHolds Expr.items update.filter

variable {update : Update}

private theorem yields (h : update.IsReadable) :
    Yields update.tokens (clauseItems update.clauses) := by
  have hassigned : List.Forall₂ Yields (update.assignments.map assignmentTokens)
      (update.assignments.map assignmentItems) := by
    rw [List.forall₂_map_left_iff, List.forall₂_map_right_iff, List.forall₂_same]
    intro assignment hassignment
    have hvalue := assignment.2.yields (h.assignments assignment hassignment)
    exact .word (Token.identifier_isWord _) (.space (.word (BinaryOp.token_isWord .eq) hvalue.space))
  have hset := Yields.word (Keyword.isWord .set) (Yields.intercalate yields_comma hassigned).space
  have htable := Yields.word (Token.identifier_isWord update.table) hset.space
  have hfilter := yields_filter update.filter (filterReadable_iff.mpr h.filter)
  have hupdate := (Yields.word (Keyword.isWord .update) htable.space).append hfilter
  simpa [tokens, clauses, clauseItems, separated] using hupdate

private theorem clauses_areWhole (h : update.IsReadable) :
    ∀ clause ∈ update.clauses, clause.IsWhole := by
  have hassigned : Lacks Item.clause? (commaItems (update.assignments.map assignmentItems)) := by
    apply lacks_clause_commaItems
    intro assignment hassignment
    simpa [assignmentItems, Item.clause?] using (h.assignments assignment hassignment).lacks_clause
  have hfilter : ∀ clause ∈ optionClause .whereHolds Expr.items update.filter, clause.IsWhole :=
    optionClause_isWhole rfl fun e he => (h.filter e he).lacks_clause
  unfold clauses
  rw [List.forall_mem_cons, List.forall_mem_cons]
  exact ⟨⟨rfl, by simp [Item.clause?]⟩, ⟨rfl, hassigned⟩, hfilter⟩

theorem IsReadable.ofTokens?_tokens (h : update.IsReadable) :
    Update.ofTokens? update.tokens = some update := by
  have hassigned : readSeparated readAssignment
      (commaItems (update.assignments.map assignmentItems)) = some update.assignments := by
    apply readSeparated_commaItems h.assignments_ne_nil
    · exact fun assignment hassignment => readAssignment_items (h.assignments assignment hassignment)
    · intro assignment hassignment
      have hvalue := (h.assignments assignment hassignment).lacks_mark (.symbol .comma) rfl
      simpa [assignmentItems, Item.mark?] using hvalue
  have hend : BeginWith [] [] := by simp [BeginWith]
  have hfilter := readClause_optionClause .whereHolds
    (fun e he => Expr.readExpr_items (h.filter e he)) hend (by simp)
  rw [List.append_nil] at hfilter
  unfold ofTokens?
  rw [(yields h).readItems, Option.bind_some]
  unfold readUpdate
  rw [cut_clauseItems (clauses_areWhole h)]
  simp [clauses, hassigned, hfilter]

end Update

end TenantGrid.Sql
