import TenantGrid.Sql.Expr
import TenantGrid.Sql.Token
/-!
# Rendering

The tokens of expressions, queries and updates. Every clause starts on a line of its own and every
selected item on an indented one. Parentheses are written only where the tree has them. Membership
in an empty list is the constant it amounts to.
-/
namespace TenantGrid.Sql

namespace BinaryOp

def token : BinaryOp → Token
  | eq => .symbol .eq
  | ne => .symbol .ne
  | lt => .symbol .lt
  | gt => .symbol .gt
  | lte => .symbol .lte
  | gte => .symbol .gte
  | and => .keyword .and
  | or => .keyword .or
  | concat => .symbol .concat

end BinaryOp

def Literal.token : Literal → Token
  | int n => .intLiteral n
  | real x => .realLiteral x
  | string s => .stringLiteral s
  | bool b => .boolLiteral b
  | null => .nullLiteral

/-- Lists of tokens with a comma and a blank between two of them. -/
def separated (parts : List (List Token)) : List Token :=
  List.intercalate [.symbol .comma, .space] parts

/-- A name of its own for what stands before. -/
def aliasTokens : Option String → List Token
  | some name => [.space, .keyword .asAlias, .space, .identifier name]
  | none => []

def qualifierTokens : Option String → List Token
  | some table => [.identifier table, .symbol .dot]
  | none => []

def negationTokens (negated : Bool) : List Token :=
  if negated then [.space, .keyword .not] else []

def TableRef.tokens (t : TableRef) : List Token :=
  .identifier t.table :: aliasTokens t.aliasName

def JoinKind.keyword : JoinKind → Keyword
  | inner => .inner
  | left => .left

def directionTokens : Option Direction → List Token
  | some .asc => [.space, .keyword .asc]
  | some .desc => [.space, .keyword .desc]
  | none => []

def nullsTokens : Option NullsPlacement → List Token
  | some .first => [.space, .keyword .nullsFirst]
  | some .last => [.space, .keyword .nullsLast]
  | none => []

/-- A row count as a literal of 64 signed bits; counts from 2 ^ 63 on wrap around. -/
def rowCountLiteral (n : UInt64) : Token :=
  .intLiteral n.toInt64.toInt

def Window.tokens (w : Window) : List Token :=
  let limit := match w.limit with
    | some n => [.keyword .limit, .space, rowCountLiteral n]
    | none => []
  let offset := match w.offset with
    | some n => [.keyword .offset, .space, rowCountLiteral n]
    | none => []
  limit ++ (if w.limit.isSome && w.offset.isSome then [.space] else []) ++ offset

def escapeTokens : Option Char → List Token
  | some c => [.space, .keyword .escape, .space, .stringLiteral c.toString]
  | none => []

/-- A clause on a line of its own, left out if it is empty. -/
def listClause (word : Keyword) (parts : List (List Token)) : List Token :=
  if parts.isEmpty then [] else .newline :: .keyword word :: .space :: separated parts

/-- Selected items, each on an indented line, with a comma after all but the last. -/
def selectList (items : List (List Token)) : List Token :=
  List.intercalate [.symbol .comma] (items.map fun item => .newline :: .indent 1 :: item)

def sourceTokens : Option TableRef → List Token
  | some table => .newline :: .keyword .fromTable :: .space :: table.tokens
  | none => []

def windowTokens : Option Window → List Token
  | some window => .newline :: window.tokens
  | none => []

mutual

def Expr.tokens : Expr → List Token
  | .column table name => qualifierTokens table ++ [.identifier name]
  | .literal value => [value.token]
  | .param value => [.bind value]
  | .binary op left right => left.tokens ++ .space :: op.token :: .space :: right.tokens
  | .not operand => .keyword .not :: .space :: operand.tokens
  | .call function distinct args =>
    .function function :: .symbol .leftParen
      :: (if distinct then [.keyword .distinct, .space] else [])
      ++ separated (tokensOfEach args) ++ [.symbol .rightParen]
  | .inList operand values negated =>
    if values.isEmpty then [.keyword (if negated then .always else .never)]
    else operand.tokens ++ negationTokens negated
      ++ .space :: .keyword .inSet :: .space :: .symbol .leftParen
      :: separated (tokensOfEach values) ++ [.symbol .rightParen]
  | .inQuery operand query negated =>
    operand.tokens ++ negationTokens negated
      ++ .space :: .keyword .inSet :: .space :: .symbol .leftParen
      :: queryTokens query ++ [.symbol .rightParen]
  | .isNull operand negated =>
    operand.tokens ++ [.space, .keyword (if negated then .isNotNull else .isNull)]
  | .like operand pattern escape negated anyCase =>
    operand.tokens ++ negationTokens negated
      ++ .space :: .keyword (if anyCase then .likeAnyCase else .like) :: .space
      :: pattern.tokens ++ escapeTokens escape
  | .star table => qualifierTokens table ++ [.symbol .star]
  | .paren inner => .symbol .leftParen :: inner.tokens ++ [.symbol .rightParen]

def tokensOfEach : List Expr → List (List Token)
  | [] => []
  | e :: rest => e.tokens :: tokensOfEach rest

def queryTokens : QueryOf Expr → List Token
  | ⟨select, distinct, source, joins, filter, groupBy, orderBy, window⟩ =>
    .keyword .select :: (if distinct then [.space, .keyword .distinct] else [])
      ++ selectList (selectTokens select)
      ++ sourceTokens source
      ++ joinTokens joins
      ++ whereTokens filter
      ++ listClause .groupBy (tokensOfEach groupBy)
      ++ listClause .orderBy (orderTokens orderBy)
      ++ windowTokens window

def selectTokens : List (SelectItem Expr) → List (List Token)
  | [] => []
  | ⟨expr, aliasName⟩ :: rest => (expr.tokens ++ aliasTokens aliasName) :: selectTokens rest

def joinTokens : List (Join Expr) → List Token
  | [] => []
  | ⟨kind, table, condition⟩ :: rest =>
    .newline :: .keyword kind.keyword :: .space :: .keyword .join :: .space :: table.tokens
      ++ .space :: .keyword .onCondition :: .space :: condition.tokens ++ joinTokens rest

def whereTokens : Option Expr → List Token
  | none => []
  | some condition => .newline :: .keyword .whereHolds :: .space :: condition.tokens

def orderTokens : List (OrderKey Expr) → List (List Token)
  | [] => []
  | ⟨expr, direction, nulls⟩ :: rest =>
    (expr.tokens ++ directionTokens direction ++ nullsTokens nulls) :: orderTokens rest

end

def Query.tokens (query : Query) : List Token :=
  queryTokens query

def Query.statement (dialect : Dialect) (query : Query) : Statement :=
  .ofTokens dialect query.tokens

/-- The query with bound values inlined. -/
def Query.text (dialect : Dialect) (query : Query) : String :=
  Token.inlined dialect query.tokens

namespace Update

def assignmentTokens (assignment : String × Expr) : List Token :=
  .identifier assignment.1 :: .space :: .symbol .eq :: .space :: assignment.2.tokens

def tokens (update : Update) : List Token :=
  .keyword .update :: .space :: .identifier update.table :: .space :: .keyword .set :: .space
    :: separated (update.assignments.map assignmentTokens) ++ whereTokens update.filter

def statement (dialect : Dialect) (update : Update) : Statement :=
  .ofTokens dialect update.tokens

end Update

end TenantGrid.Sql
