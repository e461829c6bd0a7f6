import TenantGrid.Sql.Value
import TenantGrid.Text.Upper
/-!
# Tokens

The smallest parts of a statement, each written on its own. A statement is its tokens one after
another, with a numbered placeholder for every bound value; inlined, it has their literals instead.
-/
namespace TenantGrid.Sql

inductive Keyword where
  | select | fromTable | whereHolds | and | or | not | asAlias | onCondition | join | inner | left
  | groupBy | orderBy | asc | desc | nullsFirst | nullsLast | limit | offset | inSet | like
  /-- Pattern matching without regard to case. -/
  | likeAnyCase
  | escape | isNull | isNotNull | distinct | null | always | never
  | create | table | index | primary | key | references | unique | defaultTo | ifSo | existing
  | update | set
  deriving DecidableEq, Repr

def Keyword.text (dialect : Dialect) : Keyword → String
  | select => "SELECT"
  | fromTable => "FROM"
  | whereHolds => "WHERE"
  | and => "AND"
  | or => "OR"
  | not => "NOT"
  | asAlias => "AS"
  | onCondition => "ON"
  | join => "JOIN"
  | inner => "INNER"
  | left => "LEFT"
  | groupBy => "GROUP BY"
  | orderBy => "ORDER BY"
  | asc => "ASC"
  | desc => "DESC"
  | nullsFirst => "NULLS FIRST"
  | nullsLast => "NULLS LAST"
  | limit => "LIMIT"
  | offset => "OFFSET"
  | inSet => "IN"
  | like => "LIKE"
  | likeAnyCase => dialect.likeAnyCase
  | escape => "ESCAPE"
  | isNull => "IS NULL"
  | isNotNull => "IS NOT NULL"
  | distinct => "DISTINCT"
  | null => "NULL"
  | always => "TRUE"
  | never => "FALSE"
  | create => "CREATE"
  | table => "TABLE"
  | index => "INDEX"
  | primary => "PRIMARY"
  | key => "KEY"
  | references => "REFERENCES"
  | unique => "UNIQUE"
  | defaultTo => "DEFAULT"
  | ifSo => "IF"
  | existing => "EXISTS"
  | update => "UPDATE"
  | set => "SET"

inductive Symbol where
  | comma | dot | star | leftParen | rightParen
  | eq | ne | lt | gt | lte | gte | concat
  deriving DecidableEq, Repr

def Symbol.text : Symbol → String
  | comma => ","
  | dot => "."
  | star => "*"
  | leftParen => "("
  | rightParen => ")"
  | eq => "="
  | ne => "<>"
  | lt => "<"
  | gt => ">"
  | lte => "<="
  | gte => ">="
  | concat => "||"

inductive Token where
  | keyword (word : Keyword)
  | symbol (mark : Symbol)
  | space
  | newline
  | indent (depth : Nat)
  | identifier (name : String)
  | intLiteral (n : Int)
  | realLiteral (x : Double)
  | stringLiteral (s : String)
  | boolLiteral (b : Bool)
  | nullLiteral
  /-- A bound value. -/
  | bind (value : Value)
  | function (name : String)
  | dataType (type : DataType)
  /-- Text that is written as it is. -/
  | verbatim (text : String)
  deriving DecidableEq

namespace Token

/-- The token with a bound value inlined as its literal. -/
def text (dialect : Dialect) : Token → String
  | keyword word => word.text dialect
  | symbol mark => mark.text
  | space => " "
  | newline => "\n"
  | indent depth => String.ofList (List.replicate (2 * depth) ' ')
  | identifier name => dialect.quoteIdentifier name
  | intLiteral n => n.repr
  | realLiteral x => numberStyle.text x
  | stringLiteral s => dialect.quoteString s
  | boolLiteral b => dialect.boolText b
  | nullLiteral => "NULL"
  | bind value => value.literal dialect
  | function name => Text.upper name
  | dataType type => type.nameIn dialect
  | verbatim text => text

/-- The bound value of a token, if it is one. -/
def bound? : Token → Option Value
  | bind value => some value
  | _ => none

/-- All tokens with bound values inlined. -/
def inlined (dialect : Dialect) (tokens : List Token) : String :=
  String.join (tokens.map (text dialect))

end Token

/-- The text of a statement and the values of its placeholders in order. -/
structure Statement where
  sql : String
  params : List Value
  deriving DecidableEq

namespace Statement

/-- The parts of a statement whose first placeholder has the given number. -/
def partsFrom (dialect : Dialect) : Nat → List Token → List String
  | _, [] => []
  | index, .bind _ :: rest => dialect.placeholder index :: partsFrom dialect (index + 1) rest
  | index, token :: rest => token.text dialect :: partsFrom dialect index rest

def ofTokens (dialect : Dialect) (tokens : List Token) : Statement where
  sql := String.join (partsFrom dialect 1 tokens)
  params := tokens.filterMap Token.bound?

end Statement

/-- Why a token cannot be written. -/
inductive LiteralFault where
  | notANumber
  | infinite
  deriving DecidableEq, Repr

def LiteralFault.message : LiteralFault → String
  | notANumber => "Cannot serialize NaN to SQL"
  | infinite => "Cannot serialize Infinity to SQL"

/-- SQL has no literal for NaN and the infinities. -/
def Token.fault? : Token → Option LiteralFault
  | realLiteral .nan => some .notANumber
  | realLiteral (.infinite _) => some .infinite
  | _ => none

/-- The first fault among the tokens. -/
def Token.firstFault? (tokens : List Token) : Option LiteralFault :=
  tokens.findSome? fault?

end TenantGrid.Sql
