import TenantGrid.Catalog.Schema
import TenantGrid.Filter.Request
/-!
# Scope

Every query of an organization starts from a test of membership: the artist's id must be among
those of the organization's membership rows in the state that the scope asks for.
-/
namespace TenantGrid

open Sql (Expr Query)

/-- Which membership rows of an organization make an artist visible. -/
inductive Scope where
  /-- Rows that are not archived, by their mute flag. -/
  | visible (muted : MuteMode)
  | archived
  deriving DecidableEq, Repr

namespace Scope

def standard : Scope := visible .hide

/-- The flags that a membership row must have. -/
def flags : Scope → List (String × Bool)
  | visible .hide => [("archived", false), ("muted", false)]
  | visible .only => [("archived", false), ("muted", true)]
  | visible .showAll => [("archived", false)]
  | archived => [("archived", true)]

/-- Whether the scope asks for archived rows. -/
def isArchived : Scope → Bool
  | archived => true
  | visible _ => false

end Scope

/-- The column that holds the ids of artists. -/
def artistId : Expr :=
  .ofTable Schema.artists.name "id"

def scopeAlias : String := "tenant_scope"

def scopeColumn (name : String) : Expr :=
  .ofTable scopeAlias name

def withFlag (query : Query) (flag : String × Bool) : Query :=
  query.filtered ((scopeColumn flag.1).eq (.boolLiteral flag.2))

/-- The ids of the artists that a scope makes visible to a tenant. -/
def scopeQuery (tenant : String) (scope : Scope) : Query :=
  let all : Query := {
    select := [{ expr := scopeColumn "artist_id" }]
    distinct := true
    source := some { table := Schema.memberships.name, aliasName := some scopeAlias } }
  scope.flags.foldl withFlag
    (all.filtered ((scopeColumn "organization_id").eq (.param (.text tenant))))

/-- The test that an artist is visible to a tenant. -/
def tenantScope (tenant : String) (scope : Scope) : Expr :=
  .inQuery artistId (scopeQuery tenant scope) false

end TenantGrid
