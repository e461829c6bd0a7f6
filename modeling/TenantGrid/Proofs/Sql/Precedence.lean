import TenantGrid.Proofs.Sql.Reader
/-!
# Precedence

The operators of an expression bind the looser the lower their level is. An expression that has no
looser operator in an operand than the one around it is read back from its items.
-/
namespace TenantGrid.Sql

def BinaryOp.level : BinaryOp → Nat
  | or => 1
  | and => 2
  | eq | ne | lt | gt | lte | gte => 4
  | concat => 5

def Expr.level : Expr → Nat
  | .binary op _ _ => op.level
  | .not _ => 3
  | .inList _ _ _ | .inQuery _ _ _ | .isNull _ _ | .like _ _ _ _ _ => 4
  | .column _ _ | .literal _ | .param _ | .call _ _ _ | .star _ | .paren _ => 6

/-- A window that says something, in counts of 63 bits. -/
def Window.IsReadable (window : Window) : Prop :=
  (window.limit.isSome || window.offset.isSome) = true ∧
    (∀ n ∈ window.limit, n.toNat < 2 ^ 63) ∧ ∀ n ∈ window.offset, n.toNat < 2 ^ 63

mutual

/-- Whether no operand has a looser operator than the one around it, and no list is empty. -/
@[simp] def Expr.IsReadable : Expr → Prop
  | .column _ _ | .literal _ | .param _ | .star _ => True
  | .binary op left right =>
    left.IsReadable ∧ right.IsReadable ∧ op.level ≤ left.level ∧ op.level < right.level
  | .not operand => operand.IsReadable ∧ 3 ≤ operand.level
  | .call _ _ args => eachReadable args
  | .inList operand values _ =>
    operand.IsReadable ∧ 4 ≤ operand.level ∧ values ≠ [] ∧ eachReadable values
  | .inQuery operand query _ => operand.IsReadable ∧ 4 ≤ operand.level ∧ queryReadable query
  | .isNull operand _ => operand.IsReadable ∧ 4 ≤ operand.level
  | .like operand pattern _ _ _ =>
    operand.IsReadable ∧ pattern.IsReadable ∧ 4 ≤ operand.level ∧ 5 ≤ pattern.level
  | .paren inner => inner.IsReadable

def eachReadable : List Expr → Prop
  | [] => True
  | e :: rest => e.IsReadable ∧ eachReadable rest

def queryReadable : QueryOf Expr → Prop
  | ⟨select, _, _, joins, filter, groupBy, orderBy, window⟩ =>
    select ≠ [] ∧ itemsReadable select ∧ joinsReadable joins ∧ filterReadable filter ∧
      eachReadable groupBy ∧ keysReadable orderBy ∧ ∀ w ∈ window, w.IsReadable

def itemsReadable : List (SelectItem Expr) → Prop
  | [] => True
  | ⟨expr, _⟩ :: rest => expr.IsReadable ∧ itemsReadable rest

def joinsReadable : List (Join Expr) → Prop
  | [] => True
  | ⟨_, _, condition⟩ :: rest => condition.IsReadable ∧ joinsReadable rest

def filterReadable : Option Expr → Prop
  | none => True
  | some condition => condition.IsReadable

def keysReadable : List (OrderKey Expr) → Prop
  | [] => True
  | ⟨expr, _, _⟩ :: rest => expr.IsReadable ∧ keysReadable rest

end

def negationItems (negated : Bool) : List Item :=
  if negated then [.word (.keyword .not)] else []

def escapeItems : Option Char → List Item
  | some c => [.word (.keyword .escape), .word (.stringLiteral c.toString)]
  | none => []

/-- What the tokens of an expression are outside of its parentheses. -/
@[simp] def Expr.items : Expr → List Item
  | .column none name => [.word (.identifier name)]
  | .column (some table) name =>
    [.word (.identifier table), .word (.symbol .dot), .word (.identifier name)]
  | .literal l => [.word l.token]
  | .param value => [.word (.bind value)]
  | .binary op left right => left.items ++ .word op.token :: right.items
  | .not operand => .word (.keyword .not) :: operand.items
  | .call function distinct args => [.word (.function function), .group distinct args]
  | .inList operand values negated =>
    operand.items ++ (negationItems negated ++ [.word (.keyword .inSet), .group false values])
  | .inQuery operand query negated =>
    operand.items ++ (negationItems negated ++ [.word (.keyword .inSet), .subquery query])
  | .isNull operand negated =>
    operand.items ++ [.word (.keyword (if negated then .isNotNull else .isNull))]
  | .like operand pattern escape negated anyCase =>
    operand.items ++ (negationItems negated ++
      .word (.keyword (if anyCase then .likeAnyCase else .like)) :: (pattern.items ++ escapeItems escape))
  | .star none => [.word (.symbol .star)]
  | .star (some table) => [.word (.identifier table), .word (.symbol .dot), .word (.symbol .star)]
  | .paren inner => [.group false [inner]]

/-- The level of the operator that an item belongs to, zero for what is no part of an expression. -/
def Item.rank : Item → Nat
  | .word (.keyword .or) => 1
  | .word (.keyword .and) => 2
  | .word (.keyword .not) | .word (.keyword .inSet) | .word (.keyword .like)
  | .word (.keyword .likeAnyCase) | .word (.keyword .escape) | .word (.keyword .isNull)
  | .word (.keyword .isNotNull) => 4
  | .word (.keyword _) | .word (.symbol .comma) => 0
  | .word (.symbol .eq) | .word (.symbol .ne) | .word (.symbol .lt) | .word (.symbol .gt)
  | .word (.symbol .lte) | .word (.symbol .gte) => 4
  | .word (.symbol .concat) => 5
  | _ => 6

private theorem BinaryOp.rank_token (op : BinaryOp) : (Item.word op.token).rank = op.level := by
  cases op <;> rfl

private theorem Literal.rank_token (l : Literal) : (Item.word l.token).rank = 6 := by
  cases l <;> rfl

private theorem BinaryOp.one_le_level (op : BinaryOp) : 1 ≤ op.level := by
  cases op <;> decide

theorem Expr.one_le_level (e : Expr) : 1 ≤ e.level := by
  cases e with
  | binary op left right => exact op.one_le_level
  | _ => simp [level]

private theorem Item.mark?_of_rank {token : Token} {item : Item}
    (h : (Item.word token).rank < item.rank) : item.mark? token = none := by
  cases item with
  | word other =>
    have hne : other ≠ token := by
      intro heq
      rw [heq] at h
      omega
    simp [mark?, hne]
  | group distinct members => rfl
  | subquery query => rfl

private theorem Item.testWord?_of_rank {item : Item} (h : 4 < item.rank) :
    item.testWord? = none := by
  unfold testWord?
  split <;> first | rfl | exact absurd h (by decide)

theorem Item.orderWord?_of_rank {item : Item} (h : 0 < item.rank) : item.orderWord? = none := by
  unfold orderWord?
  split
  · rename_i w
    cases w <;> first | rfl | exact absurd h (by decide)
  · rfl

theorem Item.clause?_of_rank {item : Item} (h : 0 < item.rank) : item.clause? = none := by
  unfold clause?
  split
  · rename_i w
    cases w <;> first | rfl | exact absurd h (by decide)
  · rfl

/-- Whether every item belongs to an operator of the level or a higher one. -/
def RanksFrom (level : Nat) (items : List Item) : Prop :=
  ∀ item ∈ items, level ≤ item.rank

@[simp] theorem ranksFrom_nil (level : Nat) : RanksFrom level [] := by
  simp [RanksFrom]

@[simp] theorem ranksFrom_cons (level : Nat) (item : Item) (items : List Item) :
    RanksFrom level (item :: items) ↔ level ≤ item.rank ∧ RanksFrom level items := by
  simp [RanksFrom]

@[simp] theorem ranksFrom_append (level : Nat) (items others : List Item) :
    RanksFrom level (items ++ others) ↔ RanksFrom level items ∧ RanksFrom level others := by
  simp only [RanksFrom, List.mem_append]
  constructor
  · intro h
    exact ⟨fun item hitem => h item (Or.inl hitem), fun item hitem => h item (Or.inr hitem)⟩
  · intro h item hitem
    rcases hitem with hitem | hitem
    · exact h.1 item hitem
    · exact h.2 item hitem

theorem RanksFrom.mono {level other : Nat} {items : List Item} (h : RanksFrom level items)
    (hle : other ≤ level) : RanksFrom other items :=
  fun item hitem => Nat.le_trans hle (h item hitem)

@[simp] theorem ranksFrom_negationItems (negated : Bool) : RanksFrom 4 (negationItems negated) := by
  cases negated <;> simp [negationItems, Item.rank]

@[simp] theorem ranksFrom_escapeItems (escape : Option Char) : RanksFrom 4 (escapeItems escape) := by
  cases escape <;> simp [escapeItems, Item.rank]

/-- The items of an expression belong to operators that bind as tight as its own at least. -/
theorem Expr.ranksFrom_items : ∀ e : Expr, e.IsReadable → RanksFrom e.level e.items
  | .column none name, _ => by simp [level, Item.rank]
  | .column (some table) name, _ => by simp [level, Item.rank]
  | .literal l, _ => by simp [level, l.rank_token]
  | .param value, _ => by simp [level, Item.rank]
  | .binary op left right, h => by
    simp only [IsReadable] at h
    have hleft := (left.ranksFrom_items h.1).mono h.2.2.1
    have hright := (right.ranksFrom_items h.2.1).mono (Nat.le_of_lt h.2.2.2)
    simpa [level, op.rank_token] using ⟨hleft, hright⟩
  | .not operand, h => by
    simp only [IsReadable] at h
    have hoperand := (operand.ranksFrom_items h.1).mono h.2
    simpa [level, Item.rank] using hoperand
  | .call function distinct args, _ => by simp [level, Item.rank]
  | .inList operand values negated, h => by
    simp only [IsReadable] at h
    have hoperand := (operand.ranksFrom_items h.1).mono h.2.1
    simpa [level, Item.rank] using hoperand
  | .inQuery operand query negated, h => by
    simp only [IsReadable] at h
    have hoperand := (operand.ranksFrom_items h.1).mono h.2.1
    simpa [level, Item.rank] using hoperand
  | .isNull operand negated, h => by
    simp only [IsReadable] at h
    have hoperand := (operand.ranksFrom_items h.1).mono h.2
    cases negated <;> simpa [level, Item.rank] using hoperand
  | .like operand pattern escape negated anyCase, h => by
    simp only [IsReadable] at h
    have hoperand := (operand.ranksFrom_items h.1).mono h.2.2.1
    have hpattern : RanksFrom 4 pattern.items :=
      (pattern.ranksFrom_items h.2.1).mono (Nat.le_of_lt h.2.2.2)
    cases anyCase <;> simpa [level, Item.rank] using ⟨hoperand, hpattern⟩
  | .star none, _ => by simp [level, Item.rank]
  | .star (some table), _ => by simp [level, Item.rank]
  | .paren inner, _ => by simp [level, Item.rank]

theorem Expr.items_ne_nil (e : Expr) : e.items ≠ [] := by
  cases e with
  | column table name => cases table <;> simp
  | star table => cases table <;> simp
  | _ => simp

private theorem Expr.not_notItem_head : ∀ e : Expr, e.IsReadable → 4 ≤ e.level → ∀ rest,
    e.items ≠ .word (.keyword .not) :: rest
  | .column none name, _, _, rest => by simp
  | .column (some table) name, _, _, rest => by simp
  | .literal l, _, _, rest => by cases l <;> simp [Literal.token]
  | .param value, _, _, rest => by simp
  | .binary op left right, h, hlevel, rest => by
    simp only [IsReadable] at h
    have hleft := left.not_notItem_head h.1 (Nat.le_trans hlevel h.2.2.1)
    exact append_ne left.items_ne_nil hleft _
  | .not operand, _, hlevel, rest => by simp [level] at hlevel
  | .call function distinct args, _, _, rest => by simp
  | .inList operand values negated, h, _, rest => by
    simp only [IsReadable] at h
    exact append_ne operand.items_ne_nil (operand.not_notItem_head h.1 h.2.1) _
  | .inQuery operand query negated, h, _, rest => by
    simp only [IsReadable] at h
    exact append_ne operand.items_ne_nil (operand.not_notItem_head h.1 h.2.1) _
  | .isNull operand negated, h, _, rest => by
    simp only [IsReadable] at h
    exact append_ne operand.items_ne_nil (operand.not_notItem_head h.1 h.2) _
  | .like operand pattern escape negated anyCase, h, _, rest => by
    simp only [IsReadable] at h
    exact append_ne operand.items_ne_nil (operand.not_notItem_head h.1 h.2.2.1) _
  | .star none, _, _, rest => by simp
  | .star (some table), _, _, rest => by simp
  | .paren inner, _, _, rest => by simp
where
  append_ne {items : List Item} {first : Item} (hne : items ≠ []) (h : ∀ rest, items ≠ first :: rest)
      (more : List Item) {rest : List Item} : items ++ more ≠ first :: rest := by
    cases items with
    | nil => exact absurd rfl hne
    | cons item others =>
      intro heq
      have hhead : item = first := (List.cons.inj heq).1
      exact h others (by rw [hhead])

section Cut

variable {σ : Type} {separator? : Item → Option σ}

/-- Whether no item is a separator. -/
def Lacks (separator? : Item → Option σ) (items : List Item) : Prop :=
  ∀ item ∈ items, separator? item = none

@[simp] theorem lacks_nil : Lacks separator? [] := by
  simp [Lacks]

@[simp] theorem lacks_cons {item : Item} {items : List Item} :
    Lacks separator? (item :: items) ↔ separator? item = none ∧ Lacks separator? items := by
  simp [Lacks]

@[simp] theorem lacks_append {items others : List Item} :
    Lacks separator? (items ++ others) ↔ Lacks separator? items ∧ Lacks separator? others := by
  simp only [Lacks, List.mem_append]
  constructor
  · intro h
    exact ⟨fun item hitem => h item (Or.inl hitem), fun item hitem => h item (Or.inr hitem)⟩
  · intro h item hitem
    rcases hitem with hitem | hitem
    · exact h.1 item hitem
    · exact h.2 item hitem

theorem cut_lacks_append {items : List Item} (h : Lacks separator? items) (others : List Item) :
    cut separator? (items ++ others) =
      (items ++ (cut separator? others).1, (cut separator? others).2) := by
  induction items with
  | nil => rfl
  | cons item rest ih =>
    rw [lacks_cons] at h
    simp [cut, h.1, ih h.2]

theorem cut_of_lacks {items : List Item} (h : Lacks separator? items) :
    cut separator? items = (items, []) := by
  have happend := cut_lacks_append h []
  simpa [cut] using happend

theorem cut_append {item : Item} {mark : σ} (h : separator? item = some mark)
    (items others : List Item) :
    cut separator? (items ++ item :: others) = ((cut separator? items).1,
      (cut separator? items).2 ++ (mark, (cut separator? others).1) :: (cut separator? others).2) := by
  induction items with
  | nil => simp [cut, h]
  | cons first rest ih =>
    cases hfirst : separator? first with
    | none => simp [cut, hfirst, ih]
    | some other => simp [cut, hfirst, ih]

end Cut

theorem RanksFrom.lacks_mark {token : Token} {level : Nat} {items : List Item}
    (h : RanksFrom level items) (hlevel : (Item.word token).rank < level) :
    Lacks (Item.mark? token) items :=
  fun item hitem => Item.mark?_of_rank (Nat.lt_of_lt_of_le hlevel (h item hitem))

private theorem RanksFrom.lacks_testWord {items : List Item} (h : RanksFrom 5 items) :
    Lacks Item.testWord? items :=
  fun item hitem => Item.testWord?_of_rank (h item hitem)

section Chain

variable {op : BinaryOp} {read : List Item → Option Expr}

theorem readChain_of_lacks {items : List Item} (h : Lacks (Item.mark? op.token) items) :
    readChain op read items = read items := by
  unfold readChain
  rw [cut_of_lacks h]
  cases read items <;> rfl

/-- The last operand of a chain is the right one of its outermost operator. -/
theorem readChain_append (items : List Item) {others : List Item}
    (h : Lacks (Item.mark? op.token) others) :
    readChain op read (items ++ .word op.token :: others) =
      (readChain op read items).bind fun left => (read others).map (.binary op left) := by
  have hmark : (Item.word op.token).mark? op.token = some () := by simp [Item.mark?]
  unfold readChain
  rw [cut_append hmark, cut_of_lacks h]
  simp only [List.foldlM_append, List.foldlM_cons, List.foldlM_nil, Option.bind_eq_bind,
    Option.pure_def, Option.bind_fun_some, Option.bind_assoc]

end Chain

private theorem testsOf_of_lacks {items : List Item} (h : Lacks Item.testWord? items) :
    testsOf items = (readConcat items).map fun e => (e, false) := by
  unfold testsOf
  rw [cut_of_lacks h]
  cases readConcat items <;> rfl

private theorem testsOf_append {item : Item} {word : TestWord} (hword : item.testWord? = some word)
    (items : List Item) {others : List Item} (h : Lacks Item.testWord? others) :
    testsOf (items ++ item :: others) =
      (testsOf items).bind fun read => addTest read (word, others) := by
  unfold testsOf
  rw [cut_append hword, cut_of_lacks h]
  simp only [List.foldlM_append, List.foldlM_cons, List.foldlM_nil, Option.bind_eq_bind,
    Option.pure_def, Option.bind_fun_some, Option.bind_assoc]

theorem testsOf_of_readTests {items : List Item} {e : Expr} (h : readTests items = some e) :
    testsOf items = some (e, false) := by
  unfold readTests at h
  split at h
  · rename_i heq
    rw [heq, Option.some.inj h]
  · exact nomatch h

private theorem testsOf_negation {items : List Item} {e : Expr}
    (h : testsOf items = some (e, false))
    (negated : Bool) : testsOf (items ++ negationItems negated) = some (e, negated) := by
  cases negated with
  | false => simpa [negationItems] using h
  | true =>
    have hword : (Item.word (.keyword .not)).testWord? = some .not := rfl
    rw [negationItems, if_pos rfl, testsOf_append hword items (by simp), h]
    rfl

private theorem readTests_of_testsOf {items : List Item} {e : Expr}
    (h : testsOf items = some (e, false)) : readTests items = some e := by
  unfold readTests
  rw [h]

private theorem readTests_among {items : List Item} {operand e : Expr} {negated : Bool}
    {members : Item} (hoperand : readTests items = some operand)
    (hmembers : members.testWord? = none)
    (hadd : addTest (operand, negated) (.among, [members]) = some (e, false)) :
    readTests (items ++ (negationItems negated ++ [.word (.keyword .inSet), members])) = some e := by
  have hword : (Item.word (.keyword .inSet)).testWord? = some .among := rfl
  apply readTests_of_testsOf
  rw [← List.append_assoc, testsOf_append hword _ (by simpa using hmembers),
    testsOf_negation (testsOf_of_readTests hoperand)]
  exact hadd

/-- Reading at a level: operators that bind looser are not expected. -/
def readAt : Nat → List Item → Option Expr
  | 0 | 1 => readExpr
  | 2 => readAnd
  | 3 => readNot
  | 4 => readTests
  | 5 => readConcat
  | _ => readPrimary

private theorem readAt_succ {level : Nat} {items : List Item} (hlevel : 1 ≤ level)
    (h : RanksFrom (level + 1) items)
    (hnot : level = 3 → ∀ rest, items ≠ .word (.keyword .not) :: rest) :
    readAt level items = readAt (level + 1) items := by
  match level, hlevel with
  | 1, _ => exact readChain_of_lacks (h.lacks_mark (by decide))
  | 2, _ => exact readChain_of_lacks (h.lacks_mark (by decide))
  | 3, _ =>
    change readNot items = readTests items
    unfold readNot
    split
    · exact absurd rfl (hnot rfl _)
    · rfl
  | 4, _ =>
    change readTests items = readConcat items
    unfold readTests
    rw [testsOf_of_lacks h.lacks_testWord]
    cases readConcat items <;> rfl
  | 5, _ => exact readChain_of_lacks (h.lacks_mark (by decide))
  | level + 6, _ => rfl

private theorem Expr.readAt_of_le {e : Expr} (h : e.IsReadable)
    (hread : readAt e.level e.items = some e)
    (level : Nat) (hlevel : 1 ≤ level) (hle : level ≤ e.level) : readAt level e.items = some e := by
  obtain ⟨more, hmore⟩ : ∃ more, level + more = e.level := ⟨e.level - level, by omega⟩
  induction more generalizing level with
  | zero => rwa [show level = e.level by omega]
  | succ more ih =>
    have hranks : RanksFrom (level + 1) e.items := (e.ranksFrom_items h).mono (by omega)
    rw [readAt_succ hlevel hranks fun hthree => e.not_notItem_head h (by omega)]
    exact ih (level + 1) (by omega) (by omega) (by omega)

private theorem BinaryOp.testWord?_token {op : BinaryOp} (h : op.level = 4) :
    (Item.word op.token).testWord? = some (.compare op) := by
  cases op <;> first | rfl | exact absurd h (by decide)

private theorem readAt_binary {op : BinaryOp} {items others : List Item} {left right : Expr}
    (hothers : RanksFrom (op.level + 1) others) (hleft : readAt op.level items = some left)
    (hright : readAt (op.level + 1) others = some right) :
    readAt op.level (items ++ .word op.token :: others) = some (.binary op left right) := by
  have hmark : Lacks (Item.mark? op.token) others := by
    apply hothers.lacks_mark
    rw [op.rank_token]
    exact Nat.lt_succ_self _
  have htests : op.level = 4 → readTests items = some left → readConcat others = some right →
      RanksFrom 5 others → readTests (items ++ .word op.token :: others) =
        some (.binary op left right) := by
    intro hlevel hleft hright hranks
    unfold readTests
    rw [testsOf_append (BinaryOp.testWord?_token hlevel) items hranks.lacks_testWord,
      testsOf_of_readTests hleft]
    simp [addTest, hright]
  cases op with
  | or =>
    have h : readExpr items = some left := hleft
    have h' : readAnd others = some right := hright
    change readChain .or readAnd _ = _
    rw [readChain_append items hmark]
    change (readExpr items).bind _ = _
    simp [h, h']
  | and =>
    have h : readAnd items = some left := hleft
    have h' : readNot others = some right := hright
    change readChain .and readNot _ = _
    rw [readChain_append items hmark]
    change (readAnd items).bind _ = _
    simp [h, h']
  | concat =>
    have h : readConcat items = some left := hleft
    have h' : readPrimary others = some right := hright
    change readChain .concat readPrimary _ = _
    rw [readChain_append items hmark]
    change (readConcat items).bind _ = _
    simp [h, h']
  | eq | ne | lt | gt | lte | gte => exact htests rfl hleft hright hothers

private theorem Expr.readAt_items : ∀ e : Expr, e.IsReadable → readAt e.level e.items = some e
  | .column none name, _ => rfl
  | .column (some table) name, _ => rfl
  | .literal l, _ => by cases l <;> rfl
  | .param value, _ => rfl
  | .binary op left right, h => by
    simp only [IsReadable] at h
    apply readAt_binary ((right.ranksFrom_items h.2.1).mono h.2.2.2)
    · exact readAt_of_le h.1 (left.readAt_items h.1) op.level op.one_le_level h.2.2.1
    · exact readAt_of_le h.2.1 (right.readAt_items h.2.1) (op.level + 1) (Nat.le_add_left 1 _) h.2.2.2
  | .not operand, h => by
    simp only [IsReadable] at h
    have hoperand : readNot operand.items = some operand :=
      readAt_of_le h.1 (operand.readAt_items h.1) 3 (by decide) h.2
    change readNot (.word (.keyword .not) :: operand.items) = _
    simp [readNot, hoperand]
  | .call function distinct args, _ => rfl
  | .inList operand values negated, h => by
    simp only [IsReadable] at h
    have hoperand : readTests operand.items = some operand :=
      readAt_of_le h.1 (operand.readAt_items h.1) 4 (by decide) h.2.1
    exact readTests_among hoperand rfl (by cases negated <;> rfl)
  | .inQuery operand query negated, h => by
    simp only [IsReadable] at h
    have hoperand : readTests operand.items = some operand :=
      readAt_of_le h.1 (operand.readAt_items h.1) 4 (by decide) h.2.1
    exact readTests_among hoperand rfl (by cases negated <;> rfl)
  | .isNull operand negated, h => by
    simp only [IsReadable] at h
    have hoperand : readTests operand.items = some operand :=
      readAt_of_le h.1 (operand.readAt_items h.1) 4 (by decide) h.2
    have hword : (Item.word (.keyword (if negated then .isNotNull else .isNull))).testWord? =
        some (.isNull negated) := by
      cases negated <;> rfl
    apply readTests_of_testsOf
    change testsOf (operand.items ++
      [.word (.keyword (if negated then .isNotNull else .isNull))]) = _
    rw [testsOf_append hword _ (by simp), testsOf_of_readTests hoperand]
    rfl
  | .like operand pattern escape negated anyCase, h => by
    simp only [IsReadable] at h
    have hoperand : readTests operand.items = some operand :=
      readAt_of_le h.1 (operand.readAt_items h.1) 4 (by decide) h.2.2.1
    have hpattern : readConcat pattern.items = some pattern :=
      readAt_of_le h.2.1 (pattern.readAt_items h.2.1) 5 (by decide) h.2.2.2
    have hranks : RanksFrom 5 pattern.items := (pattern.ranksFrom_items h.2.1).mono h.2.2.2
    have hword : (Item.word (.keyword (if anyCase then .likeAnyCase else .like))).testWord? =
        some (.like anyCase) := by
      cases anyCase <;> rfl
    have hlike : testsOf ((operand.items ++ negationItems negated) ++
        .word (.keyword (if anyCase then .likeAnyCase else .like)) :: pattern.items) =
          some (.like operand pattern none negated anyCase, false) := by
      rw [testsOf_append hword _ hranks.lacks_testWord,
        testsOf_negation (testsOf_of_readTests hoperand)]
      simp [addTest, hpattern]
    have hitems : (Expr.like operand pattern escape negated anyCase).items =
        ((operand.items ++ negationItems negated) ++
          .word (.keyword (if anyCase then .likeAnyCase else .like)) :: pattern.items) ++
            escapeItems escape := by
      simp
    apply readTests_of_testsOf
    rw [hitems]
    cases escape with
    | none => rw [escapeItems, List.append_nil, hlike]
    | some c =>
      have hescape : (Item.word (.keyword .escape)).testWord? = some .escape := rfl
      rw [escapeItems, testsOf_append hescape _ (by simp [Item.testWord?]), hlike]
      simp [addTest]
  | .star none, _ => rfl
  | .star (some table), _ => rfl
  | .paren inner, _ => rfl

theorem Expr.readExpr_items {e : Expr} (h : e.IsReadable) : readExpr e.items = some e :=
  readAt_of_le h (e.readAt_items h) 1 (by decide) e.one_le_level

-- Without parentheses around it, OR takes the conjunction that it stood in.
example : readExpr (Expr.and (.bare "a") (.or (.bare "b") (.bare "c"))).items =
    some (.or (.and (.bare "a") (.bare "b")) (.bare "c")) := rfl

/-- Whether an expression is readable and its operator is of the level or a higher one. -/
def Expr.IsReadableAt (level : Nat) (e : Expr) : Prop :=
  e.IsReadable ∧ level ≤ e.level

namespace Expr.IsReadableAt

variable {level : Nat} {e left right : Expr}

theorem mono (h : e.IsReadableAt level) {other : Nat} (hle : other ≤ level) : e.IsReadableAt other :=
  ⟨h.1, Nat.le_trans hle h.2⟩

theorem column (table : Option String) (name : String) : (Expr.column table name).IsReadableAt 6 := by
  simp [IsReadableAt, Expr.level]

theorem param (value : Value) : (Expr.param value).IsReadableAt 6 := by
  simp [IsReadableAt, Expr.level]

theorem literal (l : Literal) : (Expr.literal l).IsReadableAt 6 := by
  simp [IsReadableAt, Expr.level]

theorem paren (h : e.IsReadable) : (Expr.paren e).IsReadableAt 6 := by
  simpa [IsReadableAt, Expr.level] using h

private theorem binary {op : BinaryOp} (hleft : left.IsReadableAt op.level)
    (hright : right.IsReadableAt (op.level + 1)) :
    (Expr.binary op left right).IsReadableAt op.level := by
  refine ⟨?_, Nat.le_refl _⟩
  simp only [IsReadable]
  exact ⟨hleft.1, hright.1, hleft.2, hright.2⟩

/-- A comparison of operands that have no operators. -/
theorem compare {op : BinaryOp} (hop : op.level = 4) (hleft : left.IsReadableAt 6)
    (hright : right.IsReadableAt 6) : (Expr.binary op left right).IsReadableAt 4 := by
  rw [← hop]
  apply binary
  · exact hleft.mono (by omega)
  · exact hright.mono (by omega)

theorem eq (hleft : left.IsReadableAt 6) (hright : right.IsReadableAt 6) :
    (left.eq right).IsReadableAt 4 :=
  compare rfl hleft hright

theorem isNull (h : e.IsReadableAt 4) (negated : Bool) : (Expr.isNull e negated).IsReadableAt 4 := by
  refine ⟨?_, Nat.le_refl _⟩
  simp only [IsReadable]
  exact h

theorem like (h : e.IsReadableAt 4) {pattern : Expr} (hpattern : pattern.IsReadableAt 5)
    (escape : Option Char) (negated anyCase : Bool) :
    (Expr.like e pattern escape negated anyCase).IsReadableAt 4 := by
  refine ⟨?_, Nat.le_refl _⟩
  simp only [IsReadable]
  exact ⟨h.1, hpattern.1, h.2, hpattern.2⟩

theorem and (hleft : left.IsReadableAt 2) (hright : right.IsReadableAt 3) :
    (left.and right).IsReadableAt 2 :=
  binary hleft hright

theorem or (hleft : left.IsReadableAt 1) (hright : right.IsReadableAt 2) :
    (left.or right).IsReadableAt 1 :=
  binary hleft hright

theorem foldl_and (he : e.IsReadableAt 2) {es : List Expr} (h : ∀ other ∈ es, other.IsReadableAt 3) :
    (es.foldl .and e).IsReadableAt 2 := by
  induction es generalizing e with
  | nil => exact he
  | cons first rest ih =>
    apply ih (he.and (h first List.mem_cons_self))
    exact fun other hother => h other (List.mem_cons_of_mem first hother)

end Expr.IsReadableAt

end TenantGrid.Sql
