import TenantGrid.Plan.Queries
/-!
# Membership changes

A change applied at once to the tenant's membership rows of every artist that a plan matches.
Archived rows are left alone, except by the change that restores them.
-/
namespace TenantGrid

open Sql (Expr Update)

inductive MembershipChange where
  | mute (muted : Bool)
  | archive (user : String) (moment : Timestamp)
  | unarchive
  deriving DecidableEq

namespace MembershipChange

def assignments : MembershipChange → List (String × Expr)
  | mute muted => [("muted", .param (.bool muted))]
  | archive user moment =>
    [("archived", .boolLiteral true), ("archived_at", .param (.timestamp moment)),
      ("archived_by", .param (.text user))]
  | unarchive =>
    [("archived", .boolLiteral false), ("archived_at", .literal .null),
      ("archived_by", .literal .null)]

/-- The archive state of the rows that the change applies to. -/
def appliesToArchived : MembershipChange → Bool
  | unarchive => true
  | _ => false

end MembershipChange

namespace FilterPlan

def membershipUpdate (plan : FilterPlan) (change : MembershipChange) : Update :=
  let update : Update := { table := Schema.memberships.name, assignments := change.assignments }
  ((update.filtered ((Expr.bare "organization_id").eq (.param (.text plan.tenant)))).filtered
    ((Expr.bare "archived").eq (.boolLiteral change.appliesToArchived))).filtered
    (.inQuery (.bare "artist_id") plan.idQuery false)

end FilterPlan

end TenantGrid
