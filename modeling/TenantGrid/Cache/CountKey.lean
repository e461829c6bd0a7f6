import TenantGrid.Filter.Request
import TenantGrid.Hash.Sha256
/-!
# Keys of cached counts

A count depends on the tenant, the mute mode and the filter items of a request. Its key is the
digest of their JSON text. Sort and page have no part in it.
-/
namespace TenantGrid

structure CountKey where
  tenant : String
  muted : MuteMode
  items : List FilterItem

namespace CountKey

def ofFilter (tenant : String) (filter : FilterModel) : CountKey where
  tenant := tenant
  muted := filter.muteMode
  items := filter.items

def json (key : CountKey) : Json :=
  .object [("tenant", .string key.tenant), ("muted", key.muted.json),
    ("items", .array (key.items.map FilterItem.json))]

def digest (key : CountKey) : String :=
  Sha256.digestText key.json.text

end CountKey

end TenantGrid
