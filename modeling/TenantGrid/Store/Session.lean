import TenantGrid.Sql.Token
import TenantGrid.Store.Row
/-!
# Sessions with a store

A store answers statements one after another, and its answer to one may depend on those before it.
A session keeps the statements it has sent, those that failed included.
-/
namespace TenantGrid

/-- What a store answers to a statement. -/
inductive Reply where
  | rows (rows : List Row)
  /-- How many rows an update changed. -/
  | changed (count : Nat)
  | failed (error : StoreError)
  deriving DecidableEq

structure Store where
  /-- The dialect that its statements must be written in. -/
  dialect : Sql.Dialect
  /-- The reply to a statement, given those sent before it, the latest first. -/
  reply : List Sql.Statement → Sql.Statement → Reply

/-- A store that gives the replies in order, and after them has no rows and changes none. -/
def Store.ofReplies (dialect : Sql.Dialect) (replies : List Reply) : Store where
  dialect := dialect
  reply sent _ := replies.getD sent.length (.rows [])

structure Session where
  store : Store
  /-- The statements sent so far, the latest first. -/
  sent : List Sql.Statement := []

namespace Session

def sending (session : Session) (statement : Sql.Statement) : Session :=
  { session with sent := statement :: session.sent }

private def reply (session : Session) (statement : Sql.Statement) : Reply :=
  session.store.reply session.sent statement

/-- The rows of a query. -/
def fetchRows (session : Session) (statement : Sql.Statement) :
    Except StoreError (List Row) × Session :=
  let result := match session.reply statement with
    | .rows rows => .ok rows
    | .changed _ => .ok []
    | .failed error => .error error
  (result, session.sending statement)

/-- The number of rows that an update changes. -/
def execute (session : Session) (statement : Sql.Statement) : Except StoreError Nat × Session :=
  let result := match session.reply statement with
    | .changed count => .ok count
    | .rows _ => .ok 0
    | .failed error => .error error
  (result, session.sending statement)

/-- The ids that a query selects in its first column. -/
def fetchIds (session : Session) (statement : Sql.Statement) :
    Except StoreError (List Uuid) × Session :=
  let (rows, session) := session.fetchRows statement
  (rows >>= Row.ids, session)

/-- The one number that a query selects. -/
def fetchCount (session : Session) (statement : Sql.Statement) :
    Except StoreError Nat × Session :=
  let (rows, session) := session.fetchRows statement
  (rows >>= Row.total, session)

/-- The statements sent, in order. -/
def statements (session : Session) : List Sql.Statement :=
  session.sent.reverse

end Session

end TenantGrid
