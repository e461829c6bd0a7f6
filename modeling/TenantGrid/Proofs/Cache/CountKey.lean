import TenantGrid.Cache.CountKey
import TenantGrid.Proofs.Json.Printed
/-!
# Keys tell counts apart

The JSON text of a key has all that the key is made of. Two keys with one digest are the same as far
as the digest has no collision and doubles that are printed alike are equal.
-/
namespace TenantGrid

private theorem MuteMode.json_injective {mode mode' : MuteMode} (h : mode.json = mode'.json) :
    mode = mode' := by
  have hname : mode.name = mode'.name := Json.string.inj h
  revert hname
  cases mode <;> cases mode' <;> decide

private theorem FilterItem.json_injective {item item' : FilterItem} (h : item.json = item'.json) :
    item = item' := by
  cases item
  cases item'
  simpa [json] using h

namespace CountKey

variable {key key' : CountKey}

private theorem json_injective (h : key.json = key'.json) : key = key' := by
  have hinjective : Function.Injective FilterItem.json := fun _ _ => FilterItem.json_injective
  obtain ⟨tenant, muted, items⟩ := key
  obtain ⟨tenant', muted', items'⟩ := key'
  simp only [json, Json.object.injEq, List.cons.injEq, Prod.mk.injEq, Json.string.injEq,
    Json.array.injEq, true_and, and_true] at h
  obtain ⟨rfl, hmuted, hitems⟩ := h
  rw [MuteMode.json_injective hmuted, hinjective.list_map hitems]

/-- What telling two keys apart relies on: doubles in them are finite and printed differently if they
differ, and their texts do not collide. -/
structure ToldApart (key key' : CountKey) : Prop where
  reals : Json.RealsApart key.json key'.json
  digest : key.digest = key'.digest → key.json.text = key'.json.text

/-- A key without doubles is told apart from itself. -/
theorem ToldApart.refl (h : ∀ x, ¬ Json.HasReal x key.json) : key.ToldApart key where
  reals := { finite := fun x hx => absurd (hx.elim id id) (h x), printed := fun x _ hx => absurd hx (h x) }
  digest _ := rfl

/-- Keys with one digest have the same tenant, the same mute mode and the same items. -/
theorem digest_unique (h : key.ToldApart key') (hdigest : key.digest = key'.digest) : key = key' :=
  json_injective (Json.text_unique h.reals (h.digest hdigest))

end CountKey

end TenantGrid
