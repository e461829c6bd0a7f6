import TenantGrid.Proofs.Sql.Precedence
/-!
# Clauses

The clauses that a statement is written in, and how they are read back: each clause ends where the
next one begins, and a clause that is left out is not mistaken for a later one.
-/
namespace TenantGrid.Sql

def commaItems (segments : List (List Item)) : List Item :=
  List.intercalate [.word (.symbol .comma)] segments

theorem commaItems_cons (first second : List Item) (rest : List (List Item)) :
    commaItems (first :: second :: rest) =
      first ++ .word (.symbol .comma) :: commaItems (second :: rest) := by
  simp [commaItems]

theorem lacks_commaItems {σ : Type} {separator? : Item → Option σ}
    (hcomma : separator? (.word (.symbol .comma)) = none) {segments : List (List Item)}
    (h : ∀ segment ∈ segments, Lacks separator? segment) : Lacks separator? (commaItems segments) := by
  induction segments with
  | nil => simp [commaItems]
  | cons first rest ih =>
    have hrest := ih fun segment hsegment => h segment (List.mem_cons_of_mem first hsegment)
    have hfirst := h first List.mem_cons_self
    cases rest with
    | nil => simpa [commaItems] using hfirst
    | cons second rest =>
      rw [commaItems_cons]
      simp [hcomma, hfirst, hrest]

private theorem cut_commaItems {first : List Item} {rest : List (List Item)}
    (h : ∀ segment ∈ first :: rest, Lacks (Item.mark? (.symbol .comma)) segment) :
    cut (Item.mark? (.symbol .comma)) (commaItems (first :: rest)) =
      (first, rest.map fun segment => ((), segment)) := by
  induction rest generalizing first with
  | nil =>
    have hone : commaItems [first] = first := by simp [commaItems]
    rw [hone]
    exact cut_of_lacks (h first List.mem_cons_self)
  | cons second rest ih =>
    have hrest := ih fun segment hsegment => h segment (List.mem_cons_of_mem first hsegment)
    have hmark : (Item.word (.symbol .comma)).mark? (.symbol .comma) = some () := rfl
    rw [commaItems_cons, cut_append hmark, cut_of_lacks (h first List.mem_cons_self), hrest]
    rfl

private theorem mapM_map_eq_some {α : Type} {read : List Item → Option α} {written : α → List Item}
    {as : List α} (h : ∀ a ∈ as, read (written a) = some a) : (as.map written).mapM read = some as := by
  induction as with
  | nil => rfl
  | cons a rest ih =>
    have hrest := ih fun b hb => h b (List.mem_cons_of_mem a hb)
    simp [h a List.mem_cons_self, hrest]

/-- What stands between commas is read back, if none of it has a comma. -/
theorem readSeparated_commaItems {α : Type} {read : List Item → Option α} {written : α → List Item}
    {as : List α} (hne : as ≠ []) (h : ∀ a ∈ as, read (written a) = some a)
    (hlacks : ∀ a ∈ as, Lacks (Item.mark? (.symbol .comma)) (written a)) :
    readSeparated read (commaItems (as.map written)) = some as := by
  cases as with
  | nil => exact absurd rfl hne
  | cons first rest =>
    have hsegments : ∀ segment ∈ written first :: rest.map written,
        Lacks (Item.mark? (.symbol .comma)) segment := by
      intro segment hsegment
      rw [← List.map_cons] at hsegment
      obtain ⟨a, ha, rfl⟩ := List.mem_map.mp hsegment
      exact hlacks a ha
    unfold readSeparated
    rw [List.map_cons, cut_commaItems hsegments]
    have hmap : (rest.map written).map (fun segment => ((), segment)) =
        rest.map fun a => ((), written a) := by simp [Function.comp_def]
    have hsnd : (rest.map fun a => ((), written a)).map Prod.snd = rest.map written := by
      simp [Function.comp_def]
    rw [hmap]
    simp only [hsnd]
    exact mapM_map_eq_some h

/-- Whether the first item is part of an expression. -/
def Opens (items : List Item) : Prop :=
  ∃ first rest, items = first :: rest ∧ 1 ≤ first.rank

theorem Opens.append {items : List Item} (h : Opens items) (others : List Item) :
    Opens (items ++ others) := by
  obtain ⟨first, rest, rfl, hrank⟩ := h
  exact ⟨first, rest ++ others, rfl, hrank⟩

theorem Opens.commaItems {first : List Item} (h : Opens first) (rest : List (List Item)) :
    Opens (commaItems (first :: rest)) := by
  cases rest with
  | nil => simpa [Sql.commaItems] using h
  | cons second rest =>
    rw [commaItems_cons]
    exact h.append _

theorem Expr.opens_items {e : Expr} (h : e.IsReadable) : Opens e.items := by
  have hranks := (e.ranksFrom_items h).mono e.one_le_level
  cases hitems : e.items with
  | nil => exact absurd hitems e.items_ne_nil
  | cons first rest =>
    rw [hitems, ranksFrom_cons] at hranks
    exact ⟨first, rest, rfl, hranks.1⟩

theorem Opens.readGroup {items : List Item} (h : Opens items) :
    readGroup items = (readMembers items).map (.group false) := by
  obtain ⟨first, rest, rfl, hrank⟩ := h
  unfold Sql.readGroup
  split
  · rename_i heq
    rw [(List.cons.inj heq).1] at hrank
    exact absurd hrank (by decide)
  · rename_i heq
    rw [(List.cons.inj heq).1] at hrank
    exact absurd hrank (by decide)
  · rfl

theorem Opens.readDistinct {items : List Item} (h : Opens items) :
    readDistinct items = (false, items) := by
  obtain ⟨first, rest, rfl, hrank⟩ := h
  unfold Sql.readDistinct
  split
  · rename_i heq
    rw [(List.cons.inj heq).1] at hrank
    exact absurd hrank (by decide)
  · rfl

def aliasItems : Option String → List Item
  | some name => [.word (.keyword .asAlias), .word (.identifier name)]
  | none => []

def SelectItem.items (item : SelectItem Expr) : List Item :=
  item.expr.items ++ aliasItems item.aliasName

def TableRef.items (ref : TableRef) : List Item :=
  .word (.identifier ref.table) :: aliasItems ref.aliasName

def directionItems : Option Direction → List Item
  | some .asc => [.word (.keyword .asc)]
  | some .desc => [.word (.keyword .desc)]
  | none => []

def nullsItems : Option NullsPlacement → List Item
  | some .first => [.word (.keyword .nullsFirst)]
  | some .last => [.word (.keyword .nullsLast)]
  | none => []

def OrderKey.items (key : OrderKey Expr) : List Item :=
  key.expr.items ++ (directionItems key.direction ++ nullsItems key.nulls)

def assignmentItems (assignment : String × Expr) : List Item :=
  .word (.identifier assignment.1) :: .word (.symbol .eq) :: assignment.2.items

theorem Expr.IsReadable.lacks_mark {e : Expr} (h : e.IsReadable) (token : Token)
    (htoken : (Item.word token).rank = 0) : Lacks (Item.mark? token) e.items := by
  apply (e.ranksFrom_items h).lacks_mark
  rw [htoken]
  exact e.one_le_level

theorem Expr.IsReadable.lacks_clause {e : Expr} (h : e.IsReadable) : Lacks Item.clause? e.items := by
  intro item hitem
  apply Item.clause?_of_rank
  exact Nat.lt_of_lt_of_le e.one_le_level (e.ranksFrom_items h item hitem)

private theorem Expr.IsReadable.lacks_orderWord {e : Expr} (h : e.IsReadable) :
    Lacks Item.orderWord? e.items := by
  intro item hitem
  apply Item.orderWord?_of_rank
  exact Nat.lt_of_lt_of_le e.one_le_level (e.ranksFrom_items h item hitem)

theorem readSelectItem_items {item : SelectItem Expr} (h : item.expr.IsReadable) :
    readSelectItem item.items = some item := by
  obtain ⟨expr, aliasName⟩ := item
  have hlacks := h.lacks_mark (.keyword .asAlias) rfl
  have hread := Expr.readExpr_items h
  unfold readSelectItem SelectItem.items
  rw [cut_lacks_append hlacks]
  cases aliasName with
  | none => simp [aliasItems, cut, hread]
  | some name => simp [aliasItems, cut, Item.mark?, hread]

private theorem readTable_items (ref : TableRef) : readTable ref.items = some ref := by
  obtain ⟨table, aliasName⟩ := ref
  cases aliasName <;> rfl

private theorem readOrderKey_items {key : OrderKey Expr} (h : key.expr.IsReadable) :
    readOrderKey key.items = some key := by
  obtain ⟨expr, direction, nulls⟩ := key
  have hread := Expr.readExpr_items h
  have horder : (cut Item.orderWord? (directionItems direction ++ nullsItems nulls)).1 = [] ∧
      readOrder (cut Item.orderWord? (directionItems direction ++ nullsItems nulls)).2 =
        some (direction, nulls) := by
    rcases direction with _ | _ | _ <;> rcases nulls with _ | _ | _ <;> exact ⟨rfl, rfl⟩
  unfold readOrderKey OrderKey.items
  rw [cut_lacks_append h.lacks_orderWord]
  simp [horder.1, horder.2, hread]

theorem readAssignment_items {assignment : String × Expr} (h : assignment.2.IsReadable) :
    readAssignment (assignmentItems assignment) = some assignment := by
  simp [assignmentItems, readAssignment, Expr.readExpr_items h]

/-- A row count as it is written: the count itself below 2 ^ 63, and a negative number from there. -/
theorem rowCount_written (n : UInt64) :
    n.toInt64.toInt = if n.toNat < 2 ^ 63 then (n.toNat : Int) else n.toNat - 2 ^ 64 := by
  have hbits : n.toInt64.toInt = n.toBitVec.toInt := rfl
  have hnat : n.toBitVec.toNat = n.toNat := rfl
  rw [hbits, BitVec.toInt_eq_toNat_cond, hnat]
  split <;> split <;> omega

private theorem readRowCount_literal {n : UInt64} (h : n.toNat < 2 ^ 63) :
    readRowCount [.word (rowCountLiteral n)] = some n := by
  have hcount : n.toInt64.toInt = (n.toNat : Int) := by
    rw [rowCount_written, if_pos h]
  have hbounds : (0 : Int) ≤ n.toNat ∧ (n.toNat : Int) < 2 ^ 63 := by omega
  unfold rowCountLiteral
  rw [hcount, readRowCount, if_pos hbounds]
  simp

def clauseItems (clauses : List Clause) : List Item :=
  clauses.flatMap fun clause => .word (.keyword clause.1) :: clause.2

/-- Whether a clause begins with a word for clauses and has no other. -/
def Clause.IsWhole (clause : Clause) : Prop :=
  clause.1.opensClause = true ∧ Lacks Item.clause? clause.2

theorem cut_clauseItems {clauses : List Clause} (h : ∀ clause ∈ clauses, Clause.IsWhole clause) :
    cut Item.clause? (clauseItems clauses) = ([], clauses) := by
  induction clauses with
  | nil => rfl
  | cons clause rest ih =>
    have hrest := ih fun other hother => h other (List.mem_cons_of_mem clause hother)
    have hwhole := h clause List.mem_cons_self
    have hword : (Item.word (.keyword clause.1)).clause? = some clause.1 := by
      simp [Item.clause?, hwhole.1]
    have hitems : clauseItems (clause :: rest) =
        [] ++ .word (.keyword clause.1) :: (clause.2 ++ clauseItems rest) := by
      simp [clauseItems]
    rw [hitems, cut_append hword, cut_lacks_append hwhole.2, hrest]
    simp [cut]

/-- A clause for what may be left out. -/
def optionClause {α : Type} (word : Keyword) (written : α → List Item) : Option α → List Clause
  | some a => [(word, written a)]
  | none => []

def nonEmpty? {α : Type} (as : List α) : Option (List α) :=
  if as.isEmpty then none else some as

private theorem nonEmpty?_getD {α : Type} (as : List α) : (nonEmpty? as).getD [] = as := by
  cases as <;> rfl

def Join.clauses (join : Join Expr) : List Clause :=
  [(join.kind.keyword, []), (.join, join.table.items), (.onCondition, join.condition.items)]

def rowCountItems (n : UInt64) : List Item :=
  [.word (rowCountLiteral n)]

/-- Whether every clause begins with one of the words. -/
def BeginWith (words : List Keyword) (clauses : List Clause) : Prop :=
  ∀ clause ∈ clauses, clause.1 ∈ words

private theorem BeginWith.append {words more : List Keyword} {clauses others : List Clause}
    (h : BeginWith words clauses) (h' : BeginWith more others) :
    BeginWith (words ++ more) (clauses ++ others) := by
  intro clause hclause
  rcases List.mem_append.mp hclause with hclause | hclause
  · exact List.mem_append_left more (h clause hclause)
  · exact List.mem_append_right words (h' clause hclause)

private theorem beginWith_optionClause {α : Type} (word : Keyword) (written : α → List Item)
    (o : Option α) : BeginWith [word] (optionClause word written o) := by
  cases o <;> simp [BeginWith, optionClause]

private theorem beginWith_joins (joins : List (Join Expr)) :
    BeginWith [.inner, .left, .join, .onCondition] (joins.flatMap Join.clauses) := by
  intro clause hclause
  obtain ⟨join, _, hclause⟩ := List.mem_flatMap.mp hclause
  simp only [Join.clauses, List.mem_cons, List.not_mem_nil, or_false] at hclause
  rcases hclause with rfl | rfl | rfl
  · cases join.kind <;> simp [JoinKind.keyword]
  · simp
  · simp

theorem readClause_optionClause {α : Type} (word : Keyword) {read : List Item → Option α}
    {written : α → List Item} {o : Option α} (h : ∀ a ∈ o, read (written a) = some a)
    {words : List Keyword} {rest : List Clause} (hrest : BeginWith words rest) (hword : word ∉ words) :
    readClause word read (optionClause word written o ++ rest) = some (o, rest) := by
  cases o with
  | some a => simp [optionClause, readClause, h a rfl]
  | none =>
    cases rest with
    | nil => rfl
    | cons clause rest =>
      have hne : clause.1 ≠ word := by
        intro heq
        exact hword (heq ▸ hrest clause List.mem_cons_self)
      simp [optionClause, readClause, hne]

private theorem readJoins_clauses {joins : List (Join Expr)}
    (h : ∀ join ∈ joins, join.condition.IsReadable)
    {words : List Keyword} {rest : List Clause} (hrest : BeginWith words rest)
    (hinner : Keyword.inner ∉ words) (hleft : Keyword.left ∉ words) :
    readJoins (joins.flatMap Join.clauses ++ rest) = some (joins, rest) := by
  induction joins with
  | nil =>
    rw [List.flatMap_nil, List.nil_append]
    unfold readJoins
    split
    · exact absurd (hrest _ List.mem_cons_self) hinner
    · exact absurd (hrest _ List.mem_cons_self) hleft
    · rfl
  | cons join joins ih =>
    have hjoins := ih fun other hother => h other (List.mem_cons_of_mem join hother)
    have hread := Expr.readExpr_items (h join List.mem_cons_self)
    obtain ⟨kind, table, condition⟩ := join
    rw [List.flatMap_cons, List.append_assoc]
    cases kind with
    | inner => simp [Join.clauses, JoinKind.keyword, readJoins, readTable_items, hread, hjoins]
    | left => simp [Join.clauses, JoinKind.keyword, readJoins, readTable_items, hread, hjoins]

namespace Query

/-- The clauses after the selected items. -/
def laterClauses (query : Query) : List Clause :=
  optionClause .fromTable TableRef.items query.source ++
    (query.joins.flatMap Join.clauses ++
      (optionClause .whereHolds Expr.items query.filter ++
        (optionClause .groupBy (fun es => commaItems (es.map Expr.items)) (nonEmpty? query.groupBy) ++
          (optionClause .orderBy (fun keys => commaItems (keys.map OrderKey.items))
              (nonEmpty? query.orderBy) ++
            (optionClause .limit rowCountItems (query.window.bind Window.limit) ++
              (optionClause .offset rowCountItems (query.window.bind Window.offset) ++ []))))))

def distinctItems (distinct : Bool) : List Item :=
  if distinct then [.word (.keyword .distinct)] else []

def clauses (query : Query) : List Clause :=
  (.select, distinctItems query.distinct ++ commaItems (query.select.map SelectItem.items)) ::
    query.laterClauses

def items (query : Query) : List Item :=
  clauseItems query.clauses

end Query

theorem eachReadable_iff {es : List Expr} : eachReadable es ↔ ∀ e ∈ es, e.IsReadable := by
  induction es with
  | nil => simp [eachReadable]
  | cons e rest ih => simp [eachReadable, ih]

private theorem itemsReadable_iff {items : List (SelectItem Expr)} :
    itemsReadable items ↔ ∀ item ∈ items, item.expr.IsReadable := by
  induction items with
  | nil => simp [itemsReadable]
  | cons item rest ih =>
    cases item
    simp [itemsReadable, ih]

private theorem joinsReadable_iff {joins : List (Join Expr)} :
    joinsReadable joins ↔ ∀ join ∈ joins, join.condition.IsReadable := by
  induction joins with
  | nil => simp [joinsReadable]
  | cons join rest ih =>
    cases join
    simp [joinsReadable, ih]

theorem filterReadable_iff {filter : Option Expr} :
    filterReadable filter ↔ ∀ e ∈ filter, e.IsReadable := by
  cases filter <;> simp [filterReadable]

private theorem keysReadable_iff {keys : List (OrderKey Expr)} :
    keysReadable keys ↔ ∀ key ∈ keys, key.expr.IsReadable := by
  induction keys with
  | nil => simp [keysReadable]
  | cons key rest ih =>
    cases key
    simp [keysReadable, ih]

/-- Whether a query is read back from its tokens, part by part. -/
structure Query.IsReadable (query : Query) : Prop where
  select_ne_nil : query.select ≠ []
  select : ∀ item ∈ query.select, item.expr.IsReadable
  joins : ∀ join ∈ query.joins, join.condition.IsReadable
  filter : ∀ e ∈ query.filter, e.IsReadable
  groupBy : ∀ e ∈ query.groupBy, e.IsReadable
  orderBy : ∀ key ∈ query.orderBy, key.expr.IsReadable
  window : ∀ w ∈ query.window, w.IsReadable

theorem queryReadable_iff {query : Query} : queryReadable query ↔ query.IsReadable := by
  obtain ⟨select, distinct, source, joins, filter, groupBy, orderBy, window⟩ := query
  simp only [queryReadable, itemsReadable_iff, joinsReadable_iff, filterReadable_iff,
    eachReadable_iff, keysReadable_iff]
  constructor
  · rintro ⟨hne, hselect, hjoins, hfilter, hgroup, horder, hwindow⟩
    exact ⟨hne, hselect, hjoins, hfilter, hgroup, horder, hwindow⟩
  · rintro ⟨hne, hselect, hjoins, hfilter, hgroup, horder, hwindow⟩
    exact ⟨hne, hselect, hjoins, hfilter, hgroup, horder, hwindow⟩

theorem Expr.IsReadableAt.inQuery {e : Expr} (he : e.IsReadableAt 4) {query : Query}
    (h : query.IsReadable) (negated : Bool) : (Expr.inQuery e query negated).IsReadableAt 4 := by
  refine ⟨?_, Nat.le_refl _⟩
  simp only [IsReadable]
  exact ⟨he.1, he.2, queryReadable_iff.mpr h⟩

/-- Membership in a list that is not empty. -/
theorem Expr.IsReadableAt.inList {e : Expr} (he : e.IsReadableAt 4) {values : List Expr}
    (hne : values ≠ []) (h : ∀ value ∈ values, value.IsReadable) (negated : Bool) :
    (Expr.inList e values negated).IsReadableAt 4 := by
  refine ⟨?_, Nat.le_refl _⟩
  simp only [IsReadable]
  exact ⟨he.1, he.2, hne, eachReadable_iff.mpr h⟩

private theorem readWindow_eq {window : Option Window} (h : ∀ w ∈ window, w.IsReadable) :
    readWindow (window.bind Window.limit) (window.bind Window.offset) = window := by
  cases window with
  | none => rfl
  | some w =>
    have hsome := (h w rfl).1
    simp [readWindow, hsome]

theorem nonEmpty?_eq_some {α : Type} {as bs : List α} (h : bs ∈ nonEmpty? as) :
    bs = as ∧ as ≠ [] := by
  cases as with
  | nil => exact nomatch h
  | cons a rest => exact ⟨(Option.some.inj h).symm, by simp⟩

theorem Query.IsReadable.readClauses {query : Query} (h : query.IsReadable) :
    readClauses query.distinct query.select query.laterClauses = some query := by
  have hcomma : (Item.word (.symbol .comma)).rank = 0 := rfl
  have hgroup : ∀ es ∈ nonEmpty? query.groupBy,
      readSeparated readExpr (commaItems (es.map Expr.items)) = some es := by
    intro es hes
    obtain ⟨rfl, hne⟩ := nonEmpty?_eq_some hes
    exact readSeparated_commaItems hne (fun e he => Expr.readExpr_items (h.groupBy e he))
      fun e he => (h.groupBy e he).lacks_mark _ hcomma
  have horder : ∀ keys ∈ nonEmpty? query.orderBy,
      readSeparated readOrderKey (commaItems (keys.map OrderKey.items)) = some keys := by
    intro keys hkeys
    obtain ⟨rfl, hne⟩ := nonEmpty?_eq_some hkeys
    refine readSeparated_commaItems hne (fun key hkey => readOrderKey_items (h.orderBy key hkey)) ?_
    intro key hkey
    have hexpr := (h.orderBy key hkey).lacks_mark _ hcomma
    obtain ⟨expr, direction, nulls⟩ := key
    rcases direction with _ | _ | _ <;> rcases nulls with _ | _ | _ <;>
      simpa [OrderKey.items, directionItems, nullsItems, Item.mark?] using hexpr
  have hlimit : ∀ n ∈ query.window.bind Window.limit, readRowCount (rowCountItems n) = some n := by
    intro n hn
    obtain ⟨w, hw, hn⟩ := Option.bind_eq_some_iff.mp hn
    exact readRowCount_literal ((h.window w hw).2.1 n hn)
  have hoffset : ∀ n ∈ query.window.bind Window.offset, readRowCount (rowCountItems n) = some n := by
    intro n hn
    obtain ⟨w, hw, hn⟩ := Option.bind_eq_some_iff.mp hn
    exact readRowCount_literal ((h.window w hw).2.2 n hn)
  -- Every clause is followed by clauses with later words only.
  have afterOffset : BeginWith [] [] := by simp [BeginWith]
  have afterLimit := (beginWith_optionClause .offset rowCountItems
    (query.window.bind Window.offset)).append afterOffset
  have afterOrder := (beginWith_optionClause .limit rowCountItems
    (query.window.bind Window.limit)).append afterLimit
  have afterGroup := (beginWith_optionClause .orderBy
    (fun keys => commaItems (keys.map OrderKey.items)) (nonEmpty? query.orderBy)).append afterOrder
  have afterFilter := (beginWith_optionClause .groupBy
    (fun es => commaItems (es.map Expr.items)) (nonEmpty? query.groupBy)).append afterGroup
  have afterJoins := (beginWith_optionClause .whereHolds Expr.items query.filter).append afterFilter
  have afterSource := (beginWith_joins query.joins).append afterJoins
  unfold Sql.readClauses laterClauses
  simp only [Option.bind_eq_bind,
    readClause_optionClause .fromTable (fun ref _ => readTable_items ref) afterSource (by decide),
    readJoins_clauses h.joins afterJoins (by decide) (by decide),
    readClause_optionClause .whereHolds (fun e he => Expr.readExpr_items (h.filter e he)) afterFilter
      (by decide),
    readClause_optionClause .groupBy hgroup afterGroup (by decide),
    readClause_optionClause .orderBy horder afterOrder (by decide),
    readClause_optionClause .limit hlimit afterLimit (by decide),
    readClause_optionClause .offset hoffset afterOffset (by decide), Option.bind_some, nonEmpty?_getD,
    readWindow_eq h.window]
  rfl

theorem optionClause_isWhole {α : Type} {word : Keyword} (hword : word.opensClause = true)
    {written : α → List Item} {o : Option α} (h : ∀ a ∈ o, Lacks Item.clause? (written a)) :
    ∀ clause ∈ optionClause word written o, clause.IsWhole := by
  cases o with
  | none => simp [optionClause]
  | some a =>
    intro clause hclause
    rw [List.mem_singleton.mp hclause]
    exact ⟨hword, h a rfl⟩

end TenantGrid.Sql
