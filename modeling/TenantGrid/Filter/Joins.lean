import TenantGrid.Filter.Route
/-!
# Joins

The rows that a query joins to the artist, each under an alias. Aliases are a word for the kind of
row and a number that counts the joins of that kind. A filter takes an alias of its own; a sort
takes the first alias there is for its target.
-/
namespace TenantGrid

namespace JoinTarget

def table : JoinTarget → Table
  | statistic _ => Schema.statistics
  | evaluation => Schema.evaluations
  | membership => Schema.memberships

/-- The word that the target's aliases begin with. -/
def aliasWord : JoinTarget → String
  | statistic _ => "statistic"
  | evaluation => "evaluation"
  | membership => "organization"

end JoinTarget

structure JoinedTable where
  target : JoinTarget
  aliasName : String
  deriving DecidableEq, Repr

/-- Joins in the order they were allocated. -/
abbrev JoinSet := List JoinedTable

namespace JoinSet

/-- The alias that a new join of the target gets. -/
def nextAlias (joins : JoinSet) (target : JoinTarget) : String :=
  let count := joins.countP fun j => j.target.aliasWord == target.aliasWord
  target.aliasWord ++ "_" ++ (count + 1).repr

/-- The joins with one more for the target. -/
def allocate (joins : JoinSet) (target : JoinTarget) : JoinSet :=
  joins ++ [⟨target, joins.nextAlias target⟩]

/-- The alias of the first join of the target, which is allocated if there is none. -/
def reuseOrAllocate (joins : JoinSet) (target : JoinTarget) : String × JoinSet :=
  match joins.find? fun j => j.target == target with
  | some j => (j.aliasName, joins)
  | none => (joins.nextAlias target, joins.allocate target)

end JoinSet

end TenantGrid
