import Mathlib.Algebra.Group.Int.Defs
import Mathlib.Algebra.Group.Nat.Defs
import TenantGrid.Sql.Rendering
/-!
# Reading statements

Tokens are read back by the clauses of a statement and the precedence of its operators: `||` binds
tighter than comparisons, IS, IN and LIKE, then come NOT, AND and OR, and operators of one precedence
associate to the left. What two parentheses hold is read where they close, so that around it there are
only flat lists of items.
-/
namespace TenantGrid.Sql

/-- A token outside of all parentheses, or what two of them hold. -/
inductive Item where
  | word (token : Token)
  | group (distinct : Bool) (members : List Expr)
  | subquery (query : Query)

/-- The items before the first separator, and those after each separator. -/
def cut {σ : Type} (separator? : Item → Option σ) : List Item → List Item × List (σ × List Item)
  | [] => ([], [])
  | item :: rest =>
    match separator? item with
    | some mark => ([], (mark, (cut separator? rest).1) :: (cut separator? rest).2)
    | none => (item :: (cut separator? rest).1, (cut separator? rest).2)

def Item.mark? (token : Token) : Item → Option Unit
  | .word other => if other = token then some () else none
  | _ => none

def readPrimary : List Item → Option Expr
  | [.word (.identifier name)] => some (.column none name)
  | [.word (.identifier table), .word (.symbol .dot), .word (.identifier name)] =>
    some (.column (some table) name)
  | [.word (.symbol .star)] => some (.star none)
  | [.word (.identifier table), .word (.symbol .dot), .word (.symbol .star)] =>
    some (.star (some table))
  | [.word (.intLiteral n)] => some (.literal (.int n))
  | [.word (.realLiteral x)] => some (.literal (.real x))
  | [.word (.stringLiteral s)] => some (.literal (.string s))
  | [.word (.boolLiteral b)] => some (.literal (.bool b))
  | [.word (.keyword .always)] => some (.literal (.bool true))
  | [.word (.keyword .never)] => some (.literal (.bool false))
  | [.word .nullLiteral] => some (.literal .null)
  | [.word (.bind value)] => some (.param value)
  | [.word (.function name), .group distinct args] => some (.call name distinct args)
  | [.group false [inner]] => some (.paren inner)
  | _ => none

/-- Operands with one operator between each two, the first ones innermost. -/
def readChain (op : BinaryOp) (read : List Item → Option Expr) (items : List Item) : Option Expr :=
  (read (cut (Item.mark? op.token) items).1).bind fun first =>
    (cut (Item.mark? op.token) items).2.foldlM
      (fun left segment => (read segment.2).map (.binary op left)) first

def readConcat : List Item → Option Expr :=
  readChain .concat readPrimary

/-- The words of tests: comparisons, IS, IN and LIKE, with NOT before the last two and ESCAPE. -/
inductive TestWord where
  | compare (op : BinaryOp)
  | isNull (negated : Bool)
  | not
  | among
  | like (anyCase : Bool)
  | escape

def Item.testWord? : Item → Option TestWord
  | .word (.symbol .eq) => some (.compare .eq)
  | .word (.symbol .ne) => some (.compare .ne)
  | .word (.symbol .lt) => some (.compare .lt)
  | .word (.symbol .gt) => some (.compare .gt)
  | .word (.symbol .lte) => some (.compare .lte)
  | .word (.symbol .gte) => some (.compare .gte)
  | .word (.keyword .isNull) => some (.isNull false)
  | .word (.keyword .isNotNull) => some (.isNull true)
  | .word (.keyword .not) => some .not
  | .word (.keyword .inSet) => some .among
  | .word (.keyword .like) => some (.like false)
  | .word (.keyword .likeAnyCase) => some (.like true)
  | .word (.keyword .escape) => some .escape
  | _ => none

/-- A further test of what was read so far. The flag says that NOT came before it. -/
def addTest : Expr × Bool → TestWord × List Item → Option (Expr × Bool)
  | (left, false), (.compare op, right) =>
    (readConcat right).map fun e => (.binary op left e, false)
  | (operand, false), (.isNull negated, []) => some (.isNull operand negated, false)
  | (operand, false), (.not, []) => some (operand, true)
  | (operand, negated), (.among, [.group false values]) =>
    some (.inList operand values negated, false)
  | (operand, negated), (.among, [.subquery query]) => some (.inQuery operand query negated, false)
  | (operand, negated), (.like anyCase, pattern) =>
    (readConcat pattern).map fun e => (.like operand e none negated anyCase, false)
  | (.like operand pattern none negated anyCase, false), (.escape, [.word (.stringLiteral s)]) =>
    match s.toList with
    | [c] => some (.like operand pattern (some c) negated anyCase, false)
    | _ => none
  | _, _ => none

def testsOf (items : List Item) : Option (Expr × Bool) :=
  (readConcat (cut Item.testWord? items).1).bind fun first =>
    (cut Item.testWord? items).2.foldlM addTest (first, false)

def readTests (items : List Item) : Option Expr :=
  match testsOf items with
  | some (e, false) => some e
  | _ => none

def readNot : List Item → Option Expr
  | .word (.keyword .not) :: rest => (readNot rest).map .not
  | items => readTests items

def readAnd : List Item → Option Expr :=
  readChain .and readNot

def readExpr : List Item → Option Expr :=
  readChain .or readAnd

/-- What stands between commas, at least one. -/
def readSeparated {α : Type} (read : List Item → Option α) (items : List Item) : Option (List α) :=
  let segments := cut (Item.mark? (.symbol .comma)) items
  (segments.1 :: segments.2.map Prod.snd).mapM read

def readMembers (items : List Item) : Option (List Expr) :=
  if items.isEmpty then some [] else readSeparated readExpr items

def readSelectItem (items : List Item) : Option (SelectItem Expr) :=
  match cut (Item.mark? (.keyword .asAlias)) items with
  | (expr, []) => (readExpr expr).map fun e => ⟨e, none⟩
  | (expr, [(_, [.word (.identifier name)])]) => (readExpr expr).map fun e => ⟨e, some name⟩
  | _ => none

def readTable : List Item → Option TableRef
  | [.word (.identifier table)] => some ⟨table, none⟩
  | [.word (.identifier table), .word (.keyword .asAlias), .word (.identifier name)] =>
    some ⟨table, some name⟩
  | _ => none

def Keyword.direction? : Keyword → Option Direction
  | .asc => some .asc
  | .desc => some .desc
  | _ => none

def Keyword.nulls? : Keyword → Option NullsPlacement
  | .nullsFirst => some .first
  | .nullsLast => some .last
  | _ => none

def Item.orderWord? : Item → Option Keyword
  | .word (.keyword w) => if w.direction?.isSome || w.nulls?.isSome then some w else none
  | _ => none

/-- A direction and a placement of NULLs, each of which may be left out. -/
def readOrder : List (Keyword × List Item) → Option (Option Direction × Option NullsPlacement)
  | [] => some (none, none)
  | [(word, [])] =>
    match word.direction? with
    | some direction => some (some direction, none)
    | none => word.nulls?.map fun nulls => (none, some nulls)
  | [(first, []), (second, [])] =>
    first.direction?.bind fun direction => second.nulls?.map fun nulls => (some direction, some nulls)
  | _ => none

def readOrderKey (items : List Item) : Option (OrderKey Expr) :=
  (readExpr (cut Item.orderWord? items).1).bind fun e =>
    (readOrder (cut Item.orderWord? items).2).map fun order => ⟨e, order.1, order.2⟩

def readRowCount : List Item → Option UInt64
  | [.word (.intLiteral n)] => if 0 ≤ n ∧ n < 2 ^ 63 then some (.ofNat n.toNat) else none
  | _ => none

/-- The word that opens a clause, and the items up to the next clause. -/
abbrev Clause := Keyword × List Item

def Keyword.opensClause : Keyword → Bool
  | .select | .fromTable | .inner | .left | .join | .onCondition | .whereHolds | .groupBy
  | .orderBy | .limit | .offset | .update | .set => true
  | _ => false

def Item.clause? : Item → Option Keyword
  | .word (.keyword w) => if w.opensClause then some w else none
  | _ => none

/-- A clause that may be left out, and the clauses after it. -/
def readClause {α : Type} (word : Keyword) (read : List Item → Option α) :
    List Clause → Option (Option α × List Clause)
  | [] => some (none, [])
  | clause :: rest =>
    if clause.1 = word then (read clause.2).map fun a => (some a, rest)
    else some (none, clause :: rest)

def readJoins : List Clause → Option (List (Join Expr) × List Clause)
  | (.inner, []) :: (.join, table) :: (.onCondition, condition) :: rest =>
    (readTable table).bind fun t => (readExpr condition).bind fun e =>
      (readJoins rest).map fun joins => (⟨.inner, t, e⟩ :: joins.1, joins.2)
  | (.left, []) :: (.join, table) :: (.onCondition, condition) :: rest =>
    (readTable table).bind fun t => (readExpr condition).bind fun e =>
      (readJoins rest).map fun joins => (⟨.left, t, e⟩ :: joins.1, joins.2)
  | clauses => some ([], clauses)

/-- Whether the selected items are asked for without repetitions, and these items. -/
def readDistinct : List Item → Bool × List Item
  | .word (.keyword .distinct) :: selected => (true, selected)
  | selected => (false, selected)

def readWindow (limit offset : Option UInt64) : Option Window :=
  if limit.isSome || offset.isSome then some ⟨limit, offset⟩ else none

/-- The clauses of a query after the selected items, each of which comes at most once. -/
def readClauses (distinct : Bool) (select : List (SelectItem Expr)) (clauses : List Clause) :
    Option Query := do
  let (source, clauses) ← readClause .fromTable readTable clauses
  let (joins, clauses) ← readJoins clauses
  let (filter, clauses) ← readClause .whereHolds readExpr clauses
  let (groupBy, clauses) ← readClause .groupBy (readSeparated readExpr) clauses
  let (orderBy, clauses) ← readClause .orderBy (readSeparated readOrderKey) clauses
  let (limit, clauses) ← readClause .limit readRowCount clauses
  let (offset, clauses) ← readClause .offset readRowCount clauses
  if clauses.isEmpty then
    some ⟨select, distinct, source, joins, filter, groupBy.getD [], orderBy.getD [],
      readWindow limit offset⟩
  else none

def readQuery (items : List Item) : Option Query :=
  match cut Item.clause? items with
  | ([], (.select, selected) :: clauses) =>
    (readSeparated readSelectItem (readDistinct selected).2).bind fun select =>
      readClauses (readDistinct selected).1 select clauses
  | _ => none

def readAssignment : List Item → Option (String × Expr)
  | .word (.identifier column) :: .word (.symbol .eq) :: value =>
    (readExpr value).map fun e => (column, e)
  | _ => none

def readUpdate (items : List Item) : Option Update :=
  match cut Item.clause? items with
  | ([], (.update, [.word (.identifier table)]) :: (.set, assigned) :: clauses) =>
    (readSeparated readAssignment assigned).bind fun assignments =>
      (readClause .whereHolds readExpr clauses).bind fun filter =>
        if filter.2.isEmpty then some ⟨table, assignments, filter.1⟩ else none
  | _ => none

def readGroup : List Item → Option Item
  | .word (.keyword .select) :: rest =>
    (readQuery (.word (.keyword .select) :: rest)).map .subquery
  | .word (.keyword .distinct) :: members => (readMembers members).map (.group true)
  | members => (readMembers members).map (.group false)

/-- The items of every open parenthesis after one more token, the innermost first. -/
@[simp] def readToken (opened : List (List Item)) : Token → Option (List (List Item))
  | .space | .newline | .indent _ => some opened
  | .symbol .leftParen => some ([] :: opened)
  | .symbol .rightParen =>
    match opened with
    | inner :: outer :: rest => (readGroup inner).map fun item => (outer ++ [item]) :: rest
    | _ => none
  | token =>
    match opened with
    | innermost :: rest => some ((innermost ++ [.word token]) :: rest)
    | [] => none

/-- The items of a statement whose parentheses are all closed. -/
def readItems (tokens : List Token) : Option (List Item) :=
  match tokens.foldlM readToken [[]] with
  | some [items] => some items
  | _ => none

def Query.ofTokens? (tokens : List Token) : Option Query :=
  (readItems tokens).bind readQuery

def Update.ofTokens? (tokens : List Token) : Option Update :=
  (readItems tokens).bind readUpdate

end TenantGrid.Sql
