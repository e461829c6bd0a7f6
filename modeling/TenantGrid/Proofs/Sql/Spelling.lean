import Mathlib.Data.List.Chain
import Mathlib.Data.List.Forall2
import TenantGrid.Sql.Rendering
/-!
# What a statement is spelled from

The expressions that a statement writes, in the order it writes them. Its tokens are the words of these
expressions with a mark or a blank between any two of them, and they bind the values of the parameters
among the expressions, one after the other.
-/
namespace TenantGrid.Sql

mutual

/-- The expressions that are written for one, from left to right, each before those that it is made
of. Of a test against an empty list only its outcome is written. -/
def Expr.written : Expr → List Expr
  | .column table name => [.column table name]
  | .literal l => [.literal l]
  | .param value => [.param value]
  | .binary op left right => .binary op left right :: (left.written ++ right.written)
  | .not operand => .not operand :: operand.written
  | .call function distinct args => .call function distinct args :: writtenOfEach args
  | .inList operand values negated =>
    .inList operand values negated ::
      if values.isEmpty then [] else operand.written ++ writtenOfEach values
  | .inQuery operand query negated =>
    .inQuery operand query negated :: (operand.written ++ writtenOfQuery query)
  | .isNull operand negated => .isNull operand negated :: operand.written
  | .like operand pattern escape negated anyCase =>
    .like operand pattern escape negated anyCase :: (operand.written ++ pattern.written)
  | .star table => [.star table]
  | .paren inner => .paren inner :: inner.written

def writtenOfEach : List Expr → List Expr
  | [] => []
  | e :: rest => e.written ++ writtenOfEach rest

/-- Clause after clause: the selected items, the conditions of joins, the condition of the rows, the
group keys and the order keys. -/
def writtenOfQuery : QueryOf Expr → List Expr
  | ⟨select, _, _, joins, filter, groupBy, orderBy, _⟩ =>
    writtenOfItems select ++ writtenOfJoins joins ++ writtenOfFilter filter ++
      writtenOfEach groupBy ++ writtenOfKeys orderBy

def writtenOfItems : List (SelectItem Expr) → List Expr
  | [] => []
  | ⟨expr, _⟩ :: rest => expr.written ++ writtenOfItems rest

def writtenOfJoins : List (Join Expr) → List Expr
  | [] => []
  | ⟨_, _, condition⟩ :: rest => condition.written ++ writtenOfJoins rest

def writtenOfFilter : Option Expr → List Expr
  | none => []
  | some condition => condition.written

def writtenOfKeys : List (OrderKey Expr) → List Expr
  | [] => []
  | ⟨expr, _, _⟩ :: rest => expr.written ++ writtenOfKeys rest

end

def Query.written (query : Query) : List Expr :=
  writtenOfQuery query

/-- The assigned values and then the condition of an update. -/
def Update.written (update : Update) : List Expr :=
  update.assignments.flatMap (fun assignment => assignment.2.written) ++ writtenOfFilter update.filter

/-- The value that an expression binds to its statement. -/
def Expr.param? : Expr → Option Value
  | .param value => some value
  | _ => none

/-- Whether the token stands between words: a symbol or a blank. -/
def Token.isMark : Token → Bool
  | symbol _ | space | newline => true
  | indent depth => 0 < depth
  | _ => false

/-- Whether a token can stand in a statement that writes the expressions. -/
def Token.SpelledBy (written : List Expr) : Token → Prop
  | realLiteral x => .literal (.real x) ∈ written
  | function name => ∃ distinct args, .call name distinct args ∈ written
  | dataType _ | verbatim _ => False
  | _ => True

/-- Whether no two words of a text touch. -/
def Token.Apart (tokens : List Token) : Prop :=
  tokens.IsChain fun t u => t.isMark = true ∨ u.isMark = true

/-- Whether the tokens are those of the expressions. -/
structure Spells (tokens : List Token) (written : List Expr) : Prop where
  apart : Token.Apart tokens
  bound : tokens.filterMap Token.bound? = written.filterMap Expr.param?
  words : ∀ t ∈ tokens, t.SpelledBy written

/-- Whether the tokens are those of the expressions and can follow a word. -/
structure Trails (tokens : List Token) (written : List Expr) : Prop extends
    Spells tokens written where
  start : ∀ t ∈ tokens.head?, t.isMark = true

theorem Token.bound?_of_isMark {t : Token} (h : t.isMark = true) : t.bound? = none := by
  cases t with
  | bind value => simp [isMark] at h
  | _ => rfl

private theorem Token.SpelledBy.mono {t : Token} {written more : List Expr}
    (h : t.SpelledBy written) (hsub : written ⊆ more) : t.SpelledBy more := by
  cases t with
  | realLiteral x => exact hsub h
  | function name =>
    obtain ⟨distinct, args, hcall⟩ := h
    exact ⟨distinct, args, hsub hcall⟩
  | dataType type => exact h
  | verbatim text => exact h
  | _ => trivial

namespace Spells

variable {tokens others : List Token} {written more : List Expr}

private theorem nil : Spells [] [] :=
  ⟨List.isChain_nil, rfl, by simp⟩

private theorem append (h : Spells tokens written) (h' : Trails others more) :
    Spells (tokens ++ others) (written ++ more) where
  apart := h.apart.append h'.apart fun _ _ t ht => Or.inr (h'.start t ht)
  bound := by rw [List.filterMap_append, List.filterMap_append, h.bound, h'.bound]
  words := by
    intro t ht
    rcases List.mem_append.mp ht with ht | ht
    · exact (h.words t ht).mono (List.subset_append_left written more)
    · exact (h'.words t ht).mono (List.subset_append_right written more)

private theorem single {t : Token} (hbound : t.bound? = none) (hword : t.SpelledBy written)
    (hparam : written.filterMap Expr.param? = []) : Spells [t] written where
  apart := List.isChain_singleton t
  bound := by simp [hbound, hparam]
  words := by
    intro u hu
    rw [List.mem_singleton.mp hu]
    exact hword

private theorem keyword (word : Keyword) : Spells [.keyword word] [] :=
  single rfl trivial rfl

private theorem identifier (name : String) : Spells [.identifier name] [] :=
  single rfl trivial rfl

private theorem bind (value : Value) : Spells [.bind value] [.param value] :=
  ⟨List.isChain_singleton _, rfl, by simp [Token.SpelledBy]⟩

private theorem expr {e : Expr} (h : Spells tokens written) (he : e.param? = none) :
    Spells tokens (e :: written) where
  apart := h.apart
  bound := by rw [h.bound, List.filterMap_cons_none he]
  words := fun t ht => (h.words t ht).mono (List.subset_cons_self e written)

private theorem marked {mark : Token} (h : Spells tokens written) (hmark : mark.isMark = true) :
    Trails (mark :: tokens) written where
  apart := List.isChain_cons.mpr ⟨fun _ _ => Or.inl hmark, h.apart⟩
  bound := by rw [List.filterMap_cons_none (Token.bound?_of_isMark hmark), h.bound]
  words := by
    rw [List.forall_mem_cons]
    refine ⟨?_, h.words⟩
    cases mark with
    | symbol _ | space | newline | indent => trivial
    | _ => simp [Token.isMark] at hmark
  start := by simpa using hmark

private theorem spaced (h : Spells tokens written) : Trails (.space :: tokens) written :=
  h.marked rfl

private theorem onNewLine (h : Spells tokens written) : Trails (.newline :: tokens) written :=
  h.marked rfl

private theorem parenthesized (h : Spells tokens written) :
    Trails (.symbol .leftParen :: (tokens ++ [.symbol .rightParen])) written := by
  have hparen : Trails [.symbol .rightParen] [] := nil.marked rfl
  have hclosed := h.append hparen
  rw [List.append_nil] at hclosed
  exact hclosed.marked rfl

private theorem intercalate {separator : List Token}
    (hseparator : ∀ {tokens written}, Spells tokens written → Trails (separator ++ tokens) written)
    {parts : List (List Token)} {lists : List (List Expr)} (h : List.Forall₂ Spells parts lists) :
    Spells (List.intercalate separator parts) lists.flatten := by
  induction h with
  | nil => exact nil
  | cons hfirst hrest ih =>
    cases hrest with
    | nil => simpa using hfirst
    | cons hsecond hrest =>
      have hparts := hfirst.append (hseparator ih)
      simpa [List.intercalate_cons_cons] using hparts

end Spells

namespace Trails

variable {tokens others : List Token} {written more : List Expr}

private theorem nil : Trails [] [] :=
  ⟨Spells.nil, by simp⟩

private theorem append (h : Trails tokens written) (h' : Trails others more) :
    Trails (tokens ++ others) (written ++ more) where
  toSpells := h.toSpells.append h'
  start := by
    cases tokens with
    | nil => exact h'.start
    | cons t rest => exact h.start

end Trails

private theorem spells_separated {parts : List (List Token)} {lists : List (List Expr)}
    (h : List.Forall₂ Spells parts lists) : Spells (separated parts) lists.flatten :=
  .intercalate (fun hrest => hrest.spaced.toSpells.marked rfl) h

private theorem spells_qualifier (table : Option String) {tokens : List Token}
    (h : Spells tokens []) : Spells (qualifierTokens table ++ tokens) [] := by
  cases table with
  | none => exact h
  | some table => exact (Spells.identifier table).append (h.marked rfl)

private theorem trails_aliasTokens (aliasName : Option String) :
    Trails (aliasTokens aliasName) [] := by
  cases aliasName with
  | none => exact .nil
  | some name => exact ((Spells.keyword .asAlias).append (Spells.identifier name).spaced).spaced

private theorem trails_negationTokens (negated : Bool) : Trails (negationTokens negated) [] := by
  cases negated with
  | false => exact .nil
  | true => exact (Spells.keyword .not).spaced

private theorem trails_escapeTokens (escape : Option Char) : Trails (escapeTokens escape) [] := by
  cases escape with
  | none => exact .nil
  | some c =>
    have hliteral : Spells [.stringLiteral c.toString] [] := .single rfl trivial rfl
    exact ((Spells.keyword .escape).append hliteral.spaced).spaced

private theorem trails_directionTokens (direction : Option Direction) :
    Trails (directionTokens direction) [] := by
  rcases direction with _ | _ | _
  · exact .nil
  · exact (Spells.keyword .asc).spaced
  · exact (Spells.keyword .desc).spaced

private theorem trails_nullsTokens (nulls : Option NullsPlacement) :
    Trails (nullsTokens nulls) [] := by
  rcases nulls with _ | _ | _
  · exact .nil
  · exact (Spells.keyword .nullsFirst).spaced
  · exact (Spells.keyword .nullsLast).spaced

private theorem TableRef.spells (ref : TableRef) : Spells ref.tokens [] :=
  (Spells.identifier ref.table).append (trails_aliasTokens ref.aliasName)

private theorem trails_sourceTokens (source : Option TableRef) :
    Trails (sourceTokens source) [] := by
  cases source with
  | none => exact .nil
  | some ref => exact ((Spells.keyword .fromTable).append ref.spells.spaced).onNewLine

private theorem trails_windowTokens (window : Option Window) : Trails (windowTokens window) [] := by
  have hcount : ∀ (word : Keyword) (n : UInt64),
      Spells [.keyword word, .space, rowCountLiteral n] [] := by
    intro word n
    have hliteral : Spells [rowCountLiteral n] [] := .single rfl trivial rfl
    exact (Spells.keyword word).append hliteral.spaced
  rcases window with _ | ⟨_ | limit, _ | offset⟩
  · exact .nil
  · exact Spells.nil.onNewLine
  · exact (hcount .offset offset).onNewLine
  · exact (hcount .limit limit).onNewLine
  · exact ((hcount .limit limit).append (hcount .offset offset).spaced).onNewLine

private theorem trails_listClause (word : Keyword) {parts : List (List Token)}
    {lists : List (List Expr)} (h : List.Forall₂ Spells parts lists) :
    Trails (listClause word parts) lists.flatten := by
  cases h with
  | nil => exact .nil
  | cons hfirst hrest =>
    have hlist := spells_separated (.cons hfirst hrest)
    exact ((Spells.keyword word).append hlist.spaced).onNewLine

private theorem trails_selectList {parts : List (List Token)} {lists : List (List Expr)}
    (h : List.Forall₂ Spells parts lists) : Trails (selectList parts) lists.flatten where
  toSpells := by
    refine .intercalate (fun hrest => hrest.marked rfl) ?_
    rw [List.forall₂_map_left_iff]
    refine h.imp fun part list hpart => ?_
    have hindented : Trails (.indent 1 :: part) list := hpart.marked rfl
    exact hindented.toSpells.onNewLine.toSpells
  start := by
    cases h with
    | nil => simp [selectList, List.intercalate]
    | cons hfirst hrest =>
      cases hrest <;> simp [selectList, List.intercalate, Token.isMark]

private theorem spells_among {operand members : List Token} {written more : List Expr}
    (negated : Bool) (hoperand : Spells operand written) (hmembers : Spells members more) :
    Spells (operand ++ negationTokens negated ++ .space :: .keyword .inSet :: .space ::
      .symbol .leftParen :: members ++ [.symbol .rightParen]) (written ++ more) := by
  have hgroup := (Spells.keyword .inSet).append hmembers.parenthesized.toSpells.spaced
  have htest := (hoperand.append (trails_negationTokens negated)).append hgroup.spaced
  simpa using htest

private theorem writtenOfEach_eq_flatten (es : List Expr) :
    writtenOfEach es = (es.map Expr.written).flatten := by
  induction es with
  | nil => rfl
  | cons e rest ih => rw [writtenOfEach, ih, List.map_cons, List.flatten_cons]

private theorem writtenOfItems_eq_flatten (items : List (SelectItem Expr)) :
    writtenOfItems items = (items.map fun item => item.expr.written).flatten := by
  induction items with
  | nil => rfl
  | cons item rest ih => rw [writtenOfItems, ih, List.map_cons, List.flatten_cons]

private theorem writtenOfKeys_eq_flatten (keys : List (OrderKey Expr)) :
    writtenOfKeys keys = (keys.map fun key => key.expr.written).flatten := by
  induction keys with
  | nil => rfl
  | cons key rest ih => rw [writtenOfKeys, ih, List.map_cons, List.flatten_cons]

mutual

theorem Expr.spells : ∀ e : Expr, Spells e.tokens e.written
  | .column table name => (spells_qualifier table (.identifier name)).expr rfl
  | .literal l => by
    cases l with
    | real x => exact .single rfl List.mem_cons_self rfl
    | int _ | string _ | bool _ | null => exact .single rfl trivial rfl
  | .param value => .bind value
  | .binary op left right => by
    have hop : Spells [op.token] [] := by
      cases op <;> exact .single rfl trivial rfl
    exact (left.spells.append (hop.append right.spells.spaced).spaced).expr rfl
  | .not operand => ((Spells.keyword .not).append operand.spells.spaced).expr rfl
  | .call function distinct args => by
    have hargs : Spells (separated (tokensOfEach args)) (writtenOfEach args) := by
      rw [writtenOfEach_eq_flatten]
      exact spells_separated (spells_each args)
    have hmembers : Spells ((if distinct then [.keyword .distinct, .space] else []) ++
        separated (tokensOfEach args)) (writtenOfEach args) := by
      cases distinct with
      | false => exact hargs
      | true => exact (Spells.keyword .distinct).append hargs.spaced
    have hname : Spells [.function function] [.call function distinct args] :=
      .single rfl ⟨distinct, args, List.mem_cons_self⟩ rfl
    have hcall := hname.append hmembers.parenthesized
    simpa [Expr.tokens, Expr.written] using hcall
  | .inList operand values negated => by
    cases values with
    | nil => exact (Spells.keyword (if negated then .always else .never)).expr rfl
    | cons v rest =>
      have hvalues : Spells (separated (tokensOfEach (v :: rest))) (writtenOfEach (v :: rest)) := by
        rw [writtenOfEach_eq_flatten]
        exact spells_separated (spells_each (v :: rest))
      exact (spells_among negated operand.spells hvalues).expr rfl
  | .inQuery operand query negated =>
    (spells_among negated operand.spells (spells_query query)).expr rfl
  | .isNull operand negated => by
    have htest := operand.spells.append (Spells.keyword (if negated then .isNotNull else .isNull)).spaced
    rw [List.append_nil] at htest
    exact htest.expr rfl
  | .like operand pattern escape negated anyCase => by
    have hpattern := pattern.spells.append (trails_escapeTokens escape)
    have hword := (Spells.keyword (if anyCase then .likeAnyCase else .like)).append hpattern.spaced
    have htest := (operand.spells.append (trails_negationTokens negated)).append hword.spaced
    have hwhole := htest.expr (e := .like operand pattern escape negated anyCase) rfl
    simpa [Expr.tokens, Expr.written] using hwhole
  | .star table => by
    have hstar : Spells [.symbol .star] [] := .single rfl trivial rfl
    exact (spells_qualifier table hstar).expr rfl
  | .paren inner => inner.spells.parenthesized.toSpells.expr rfl

private theorem spells_each : ∀ es : List Expr,
    List.Forall₂ Spells (tokensOfEach es) (es.map Expr.written)
  | [] => .nil
  | e :: rest => .cons e.spells (spells_each rest)

private theorem spells_query :
    ∀ query : QueryOf Expr, Spells (queryTokens query) (writtenOfQuery query)
  | ⟨select, distinct, source, joins, filter, groupBy, orderBy, window⟩ => by
    have hdistinct : Trails (if distinct then [.space, .keyword .distinct] else []) [] := by
      cases distinct with
      | false => exact .nil
      | true => exact (Spells.keyword .distinct).spaced
    have hselect := (Spells.keyword .select).append
      (hdistinct.append (trails_selectList (spells_items select)))
    have hrows := ((hselect.append (trails_sourceTokens source)).append (trails_joins joins)).append
      (trails_filter filter)
    have hquery := ((hrows.append (trails_listClause .groupBy (spells_each groupBy))).append
      (trails_listClause .orderBy (spells_keys orderBy))).append (trails_windowTokens window)
    simpa [queryTokens, writtenOfQuery, writtenOfEach_eq_flatten, writtenOfItems_eq_flatten,
      writtenOfKeys_eq_flatten] using hquery

private theorem spells_items : ∀ items : List (SelectItem Expr),
    List.Forall₂ Spells (selectTokens items) (items.map fun item => item.expr.written)
  | [] => .nil
  | ⟨expr, aliasName⟩ :: rest => by
    have hitem := expr.spells.append (trails_aliasTokens aliasName)
    rw [List.append_nil] at hitem
    exact .cons hitem (spells_items rest)

private theorem trails_joins : ∀ joins : List (Join Expr),
    Trails (joinTokens joins) (writtenOfJoins joins)
  | [] => .nil
  | ⟨kind, table, condition⟩ :: rest => by
    have hcondition := (Spells.keyword .onCondition).append condition.spells.spaced
    have htable := (Spells.keyword .join).append (table.spells.append hcondition.spaced).spaced
    have hjoin := ((Spells.keyword kind.keyword).append htable.spaced).onNewLine
    have hjoins := hjoin.append (trails_joins rest)
    simpa [joinTokens, writtenOfJoins] using hjoins

private theorem trails_filter :
    ∀ filter : Option Expr, Trails (whereTokens filter) (writtenOfFilter filter)
  | none => .nil
  | some condition => ((Spells.keyword .whereHolds).append condition.spells.spaced).onNewLine

private theorem spells_keys : ∀ keys : List (OrderKey Expr),
    List.Forall₂ Spells (orderTokens keys) (keys.map fun key => key.expr.written)
  | [] => .nil
  | ⟨expr, direction, nulls⟩ :: rest => by
    have hkey := (expr.spells.append (trails_directionTokens direction)).append
      (trails_nullsTokens nulls)
    rw [List.append_nil, List.append_nil] at hkey
    exact .cons hkey (spells_keys rest)

end

theorem Query.spells (query : Query) : Spells query.tokens query.written :=
  spells_query query

theorem Update.spells (update : Update) : Spells update.tokens update.written := by
  have hassigned : List.Forall₂ Spells (update.assignments.map assignmentTokens)
      (update.assignments.map fun assignment => assignment.2.written) := by
    rw [List.forall₂_map_left_iff, List.forall₂_map_right_iff, List.forall₂_same]
    intro assignment _
    have heq : Spells [.symbol .eq] [] := .single rfl trivial rfl
    exact (Spells.identifier assignment.1).append (heq.append assignment.2.spells.spaced).spaced
  have hset := (Spells.keyword .set).append (spells_separated hassigned).spaced
  have htable := (Spells.identifier update.table).append hset.spaced
  have hupdate := ((Spells.keyword .update).append htable.spaced).append (trails_filter update.filter)
  simpa [tokens, written, List.flatMap] using hupdate

end TenantGrid.Sql
