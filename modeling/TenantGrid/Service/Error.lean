import TenantGrid.Filter.Error
import TenantGrid.Store.Row
/-!
# Service errors

Why a request of a caller fails. What the store reports is not shown to callers.
-/
namespace TenantGrid

/-- Why a page cannot be asked for. -/
inductive PageFault where
  | empty
  | tooLarge (maxPageSize : UInt64)
  deriving DecidableEq

def PageFault.message : PageFault → String
  | empty => "pageSize must be greater than 0"
  | tooLarge maxPageSize => "pageSize must be at most " ++ maxPageSize.toNat.repr

inductive ServiceError where
  | noTenant (user : String)
  | invalidPage (fault : PageFault)
  | notFound (id : Uuid)
  | request (error : RequestError)
  | store (error : StoreError)

namespace ServiceError

def message : ServiceError → String
  | noTenant user => "No organization for user '" ++ user ++ "'"
  | invalidPage fault => "Invalid page: " ++ fault.message
  | notFound id => "Artist " ++ id.text ++ " not found"
  | request error => error.message
  | store error => error.message

/-- What the caller is told. -/
def publicMessage : ServiceError → String
  | store _ => "Failed to load artists"
  | error => error.message

end ServiceError

end TenantGrid
