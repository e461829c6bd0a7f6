import TenantGrid.Proofs.Sql.Collation
/-!
# Aggregates of flags

Of booleans, of which false is the lesser, the least is true if all are, and the greatest if one is.
Stores that have no least boolean can therefore be asked with other functions for the same value.
-/
namespace TenantGrid.Sql

/-- Whether a value is a boolean or missing. -/
def Value.IsFlag (v : Value) : Prop :=
  v = .null ∨ ∃ b, v = .bool b

namespace Collation

variable {c : Collation} {values : Multiset Value}

private theorem least_eq {v : Value} (hv : v ∈ values)
    (hleast : ∀ w ∈ values, c.order.le (c.normal v) (c.normal w)) : c.least values = c.normal v := by
  let := c.order
  have hinf : (values.map fun w => ((c.normal w : Value) : WithTop Value)).inf = c.normal v := by
    apply le_antisymm
    · exact Multiset.inf_le (Multiset.mem_map_of_mem _ hv)
    · refine Multiset.le_inf.mpr fun w hw => ?_
      obtain ⟨u, hu, rfl⟩ := Multiset.mem_map.mp hw
      exact WithTop.coe_le_coe.mpr (hleast u hu)
  simp only [least, hinf, WithTop.untopD_coe]

private theorem greatest_eq {v : Value} (hv : v ∈ values)
    (hgreatest : ∀ w ∈ values, c.order.le (c.normal w) (c.normal v)) :
    c.greatest values = c.normal v := by
  let := c.order
  have hsup : (values.map fun w => ((c.normal w : Value) : WithBot Value)).sup = c.normal v := by
    apply le_antisymm
    · refine Multiset.sup_le.mpr fun w hw => ?_
      obtain ⟨u, hu, rfl⟩ := Multiset.mem_map.mp hw
      exact WithBot.coe_le_coe.mpr (hgreatest u hu)
    · exact Multiset.le_sup (Multiset.mem_map_of_mem _ hv)
  simp only [greatest, hsup, WithBot.unbotD_coe]

private theorem bool_le (c : Collation) {b b' : Bool} (h : b ≤ b') :
    c.order.le (c.normal (.bool b)) (c.normal (.bool b')) := by
  let := c.order
  have hle : (Value.bool b) ≤ .bool b' := by
    cases b <;> cases b'
    · exact le_refl _
    · exact c.false_le_true
    · exact absurd h (by decide)
    · exact le_refl _
  exact hle

variable (c) in
private theorem least_bools (hvalues : values ≠ 0) (h : ∀ v ∈ values, ∃ b, v = .bool b) :
    c.least values = .bool (decide (∀ v ∈ values, v = .bool true)) := by
  by_cases hfalse : .bool false ∈ values
  · have hleast : ∀ w ∈ values, c.order.le (c.normal (.bool false)) (c.normal w) := by
      intro w hw
      obtain ⟨b, rfl⟩ := h w hw
      exact c.bool_le (Bool.false_le b)
    have hnot : ¬ ∀ v ∈ values, v = .bool true := fun hall => nomatch hall _ hfalse
    rw [least_eq hfalse hleast, decide_eq_false hnot]
    rfl
  · have hall : ∀ v ∈ values, v = .bool true := by
      intro v hv
      obtain ⟨_ | _, rfl⟩ := h v hv
      · exact absurd hv hfalse
      · rfl
    obtain ⟨v, hv⟩ := Multiset.exists_mem_of_ne_zero hvalues
    have hleast : ∀ w ∈ values, c.order.le (c.normal v) (c.normal w) := by
      intro w hw
      rw [hall v hv, hall w hw]
      exact c.bool_le (le_refl true)
    rw [least_eq hv hleast, decide_eq_true hall, hall v hv]
    rfl

variable (c) in
private theorem greatest_bools (hvalues : values ≠ 0) (h : ∀ v ∈ values, ∃ b, v = .bool b) :
    c.greatest values = .bool (decide (.bool true ∈ values)) := by
  by_cases htrue : .bool true ∈ values
  · have hgreatest : ∀ w ∈ values, c.order.le (c.normal w) (c.normal (.bool true)) := by
      intro w hw
      obtain ⟨b, rfl⟩ := h w hw
      exact c.bool_le (Bool.le_true b)
    rw [greatest_eq htrue hgreatest, decide_eq_true htrue]
    rfl
  · have hall : ∀ v ∈ values, v = .bool false := by
      intro v hv
      obtain ⟨_ | _, rfl⟩ := h v hv
      · rfl
      · exact absurd hv htrue
    obtain ⟨v, hv⟩ := Multiset.exists_mem_of_ne_zero hvalues
    have hgreatest : ∀ w ∈ values, c.order.le (c.normal w) (c.normal v) := by
      intro w hw
      rw [hall v hv, hall w hw]
      exact c.bool_le (le_refl false)
    rw [greatest_eq hv hgreatest, decide_eq_false htrue, hall v hv]
    rfl

private theorem filter_singles (values : Multiset Value) :
    (values.map fun v => [v]).filter (fun args => Value.null ∉ args) =
      (values.filter fun v => v ≠ .null).map fun v => [v] := by
  rw [Multiset.filter_map]
  refine congrArg _ (Multiset.filter_congr fun v _ => ?_)
  simp [eq_comm]

private theorem exists_bool_of_isFlag (h : ∀ v ∈ values, v.IsFlag) :
    ∀ v ∈ values.filter fun v => v ≠ .null, ∃ b, v = .bool b := by
  intro v hv
  obtain ⟨hmem, hne⟩ := Multiset.mem_filter.mp hv
  exact (h v hmem).resolve_left hne

variable (c) in
/-- Whether all flags of a group are true is the least of them. -/
theorem aggregate_every (h : ∀ v ∈ values, v.IsFlag) :
    c.aggregate .every false (values.map fun v => [v]) =
      c.aggregate .min false (values.map fun v => [v]) := by
  have hbools := exists_bool_of_isFlag h
  simp only [aggregate, filter_singles, Bool.false_eq_true, if_false, Multiset.card_map,
    Multiset.map_map, Function.comp_def, List.headD_cons, Multiset.map_id']
  generalize (values.filter fun v => v ≠ .null) = given at hbools
  by_cases hgiven : given = 0
  · simp [hgiven, least]
  · rw [least_bools c hgiven hbools, if_neg (by simpa using hgiven)]

variable (c) in
/-- Whether a flag of a group is true is the greatest of them. -/
theorem aggregate_any (h : ∀ v ∈ values, v.IsFlag) :
    c.aggregate .any false (values.map fun v => [v]) =
      c.aggregate .max false (values.map fun v => [v]) := by
  have hbools := exists_bool_of_isFlag h
  simp only [aggregate, filter_singles, Bool.false_eq_true, if_false, Multiset.card_map,
    Multiset.map_map, Function.comp_def, List.headD_cons, Multiset.map_id']
  generalize (values.filter fun v => v ≠ .null) = given at hbools
  by_cases hgiven : given = 0
  · simp [hgiven, greatest]
  · rw [greatest_bools c hgiven hbools, if_neg (by simpa using hgiven)]

end Collation

end TenantGrid.Sql
