import TenantGrid.Proofs.Text.Utf8
import TenantGrid.Proofs.Time.DateText
import TenantGrid.Proofs.Uuid
/-!
# Values in cells

What is kept in a cell is read back from it by the reader of its own kind, whether the cell hands its text
back as it is or as bytes. Truth values come back from numbers, and ids and moments from their texts, of
which each reader accepts more than is ever written.
-/
namespace TenantGrid

namespace Uuid

private theorem toLower_hexChar :
    ∀ digit : Fin 16, (Text.hexChar digit).toLower = Text.hexChar digit := by
  decide

private theorem asciiLower_text (id : Uuid) : Text.asciiLower id.text = id.text := by
  have hdigits : (id.digits.map Text.hexChar).map Char.toLower = id.digits.map Text.hexChar := by
    rw [List.map_map]
    exact List.map_congr_left fun digit _ => toLower_hexChar digit
  rw [← String.toList_inj, Text.asciiLower, String.toList_map, text, String.toList_ofList,
    map_hyphenated, hdigits]
  rfl

private theorem ofText?_text (id : Uuid) : ofText? id.text = some id := by
  rw [ofText?_eq_some, asciiLower_text]
  simp [forms]

end Uuid

namespace Timestamp

private theorem toList_storedText (t : Timestamp) : t.storedText.toList =
    t.date.text.toList ++ ' ' :: ((Precision.second 0).text t).toList := by
  simp [storedText, Precision.text, Precision.fractionText]

private theorem mem_dateTextLayouts_of_stored {layout : Time.Layout}
    (h : layout ∈ Sql.timestampLayouts) : layout ∈ dateTextLayouts := by
  simp only [Sql.timestampLayouts, Sql.storedLayout, List.mem_cons, List.not_mem_nil, or_false] at h
  rcases h with rfl | rfl | rfl <;> simp [dateTextLayouts]

private theorem toTimestamp?_storedText (t : Timestamp) :
    (Sql.Value.text t.storedText).toTimestamp? = some t.truncated := by
  have hprecision : (Precision.second 0).IsAccepted := Nat.zero_le 9
  have hblank : ' ' ∈ ['T', ' '] := by simp
  -- Every layout that reads the text reads the same moment, so the first one that does is right.
  refine findSome?_eq_some_of_agree ?_ ⟨.dateThen .gap Time.clockToFraction, ?_, ?_⟩
  · intro layout hlayout u hu
    have hmark : ' ' ∈ ['T', 't', ' '] := by simp
    rw [toList_storedText, ← List.append_nil ((Precision.second 0).text t).toList] at hu
    exact (Time.read?_clock (mem_dateTextLayouts_of_stored hlayout) hmark hprecision
      Time.endsClock_nil hu).1
  · simp [Sql.timestampLayouts]
  · rw [toList_storedText]
    exact Time.read?_dateThen hblank hprecision t

end Timestamp

/-- The cell as it hands its text back in bytes. -/
def Cell.asBytes : Cell → Cell
  | text s => blob (Text.bytes s)
  | cell => cell

private theorem Cell.value_asBytes (cell : Cell) : cell.asBytes.value = cell.value := by
  cases cell with
  | text s => exact congrArg Sql.Value.text (Text.repaired_bytes s)
  | _ => rfl

/-- Whether the reader of a value's own kind makes the value of what came back, a moment but for its fraction
of a second. NaN comes back as NULL. -/
def Sql.Value.ReadsBackAs (back : Sql.Value) : Sql.Value → Prop
  | .null => back.isNull = true
  | .int n => back.toInt? = some n
  | .real x => if x.isNaN then back.isNull = true else back.toReal? = some x
  | .text s => back.toText? = some s
  | .bool b => back.toBool? = some b
  | .uuid id => back.toUuid? = some id
  | .timestamp t => back.toTimestamp? = some t.truncated

private theorem readsBackAs_ofValue (v : Sql.Value) : (Cell.ofValue v).value.ReadsBackAs v := by
  cases v with
  | null => rfl
  | int n => rfl
  | real x =>
    by_cases hnan : x.isNaN = true
    · simp [Sql.Value.ReadsBackAs, Cell.ofValue, hnan, Cell.value, Sql.Value.isNull]
    · simp [Sql.Value.ReadsBackAs, Cell.ofValue, hnan, Cell.value, Sql.Value.toReal?]
  | text s => rfl
  | bool b => cases b <;> rfl
  | uuid id => exact id.ofText?_text
  | timestamp t => exact t.toTimestamp?_storedText

/-- Every value is read back from the cell that it is kept in by the reader of its own kind, also if the
cell hands its text back as bytes. -/
theorem stored_value_reads_back (v : Sql.Value) :
    (Cell.ofValue v).value.ReadsBackAs v ∧ (Cell.ofValue v).asBytes.value.ReadsBackAs v := by
  refine ⟨readsBackAs_ofValue v, ?_⟩
  rw [Cell.value_asBytes]
  exact readsBackAs_ofValue v

-- The last leap second that there is, in a year with a sign and six digits.
example : (Cell.ofValue (.timestamp ⟨⟨262142, 12, 31, by decide⟩, 86399, 1999999999, by decide⟩)).value =
    .text "+262142-12-31 23:59:60" := by decide +kernel

end TenantGrid
