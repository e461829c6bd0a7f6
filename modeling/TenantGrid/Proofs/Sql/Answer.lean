import Mathlib.Data.List.Perm.Basic
import TenantGrid.Proofs.Sql.Condition
/-!
# Answers

Order keys compare results by a total preorder, so that every query has an answer. A query without
order keys is answered by its results in any order, and one whose keys tell all results apart by a
single list.
-/
namespace TenantGrid.Sql

namespace Collation

variable (c : Collation) {ε : Type}

private theorem compareValues_eq_eq {v w : Value} :
    c.compareValues v w = .eq ↔ c.normal v = c.normal w :=
  letI := c.order
  cmp_eq_eq_iff _ _

instance compareValues_trans : Std.TransCmp c.compareValues where
  eq_swap := by
    let := c.order
    intro v w
    exact (cmp_swap (c.normal w) (c.normal v)).symm
  isLE_trans := by
    let := c.order
    have hle : ∀ v w : Value, (c.compareValues v w).isLE = true ↔ c.normal v ≤ c.normal w := by
      intro v w
      rw [Ordering.isLE_iff_ne_gt, compareValues, cmp_eq_gt_iff, not_lt]
    intro u v w huv hvw
    exact (hle u w).mpr (((hle u v).mp huv).trans ((hle v w).mp hvw))

instance compareKey_trans (key : OrderKey ε) : Std.TransCmp (c.compareKey key) where
  eq_swap := by
    intro v w
    unfold compareKey
    cases v.isNull <;> cases w.isNull
    · cases key.direction.getD .asc <;> dsimp only <;> exact Std.OrientedCmp.eq_swap
    · cases c.putsNullsFirst key <;> rfl
    · cases c.putsNullsFirst key <;> rfl
    · rfl
  isLE_trans := by
    intro u v w
    unfold compareKey
    cases u.isNull <;> cases v.isNull <;> cases w.isNull
    case false.false.false =>
      cases key.direction.getD .asc <;> dsimp only
      · exact Std.TransCmp.isLE_trans
      · exact fun h h' => Std.TransCmp.isLE_trans h' h
    all_goals cases c.putsNullsFirst key <;> simp

instance compareKeys_trans (keys : List (OrderKey ε)) : Std.TransCmp (c.compareKeys keys) := by
  have hcomap : ∀ {α β : Type} (f : β → β → Ordering) (g : α → β), Std.TransCmp f →
      Std.TransCmp fun a b => f (g a) (g b) := fun f g hf =>
    { eq_swap := hf.eq_swap, isLE_trans := hf.isLE_trans }
  induction keys with
  | nil => exact { eq_swap := rfl, isLE_trans := fun _ _ => rfl }
  | cons key rest ih =>
    have hhead := hcomap (c.compareKey key) (fun vs : List Value => vs.headD .null) inferInstance
    have htail := hcomap (c.compareKeys rest) List.tail ih
    exact inferInstanceAs (Std.TransCmp (compareLex
      (fun vs ws : List Value => c.compareKey key (vs.headD .null) (ws.headD .null))
      (fun vs ws : List Value => c.compareKeys rest vs.tail ws.tail)))

theorem compareKey_eq_eq {key : OrderKey ε} {v w : Value} (h : c.compareKey key v w = .eq) :
    c.normal v = c.normal w := by
  unfold compareKey at h
  by_cases hv : v = .null <;> by_cases hw : w = .null
  · rw [hv, hw]
  · cases hfirst : c.putsNullsFirst key <;> simp [hv, hw, hfirst] at h
  · cases hfirst : c.putsNullsFirst key <;> simp [hv, hw, hfirst] at h
  · cases hdirection : key.direction.getD .asc <;>
      simp only [hdirection, Value.isNull_eq, hv, hw, decide_false, compareValues_eq_eq] at h
    · exact h
    · exact h.symm

/-- What the last of some keys tells apart, all of them do. -/
theorem compareKeys_concat_eq (keys : List (OrderKey ε)) (key : OrderKey ε) {vs ws : List Value}
    {v w : Value} (hvs : vs.length = keys.length) (hws : ws.length = keys.length)
    (h : c.compareKeys (keys ++ [key]) (vs ++ [v]) (ws ++ [w]) = .eq) :
    c.compareKey key v w = .eq := by
  induction keys generalizing vs ws with
  | nil =>
    obtain rfl := List.length_eq_zero_iff.mp hvs
    obtain rfl := List.length_eq_zero_iff.mp hws
    simpa [compareKeys, Ordering.then_eq_eq] using h
  | cons first rest ih =>
    cases vs with
    | nil => simp at hvs
    | cons v' vs =>
      cases ws with
      | nil => simp at hws
      | cons w' ws =>
        simp only [List.cons_append, compareKeys, List.tail_cons, Ordering.then_eq_eq] at h
        exact ih (by simpa using hvs) (by simpa using hws) h.2

end Collation

/-- Where the key of a group settles all that is selected of it, there is one result for each key. -/
theorem groupResults_eq {rows : Multiset Env} {key : Env → List Value}
    {select : Multiset Env → Env → Selected} (result : List Value → Selected)
    (h : ∀ env ∈ rows, select (rows.filter fun other => key other = key env) env = result (key env)) :
    groupResults rows key select = (rows.map key).dedup.map result := by
  have hpairs : (rows.map fun env =>
      (key env, select (rows.filter fun other => key other = key env) env)) =
      (rows.map key).map fun k => (k, result k) := by
    rw [Multiset.map_map]
    exact Multiset.map_congr rfl fun env henv => by simp [h env henv]
  have hinjective : Function.Injective fun k => (k, result k) := fun k k' heq =>
    congrArg Prod.fst heq
  rw [groupResults, hpairs, Multiset.dedup_map_of_injective hinjective, Multiset.map_map]
  rfl

/-- A distinct count is the number of the values of a group, if none of them is NULL. -/
theorem countDistinct_value {c : Collation} {db : Database} {e : Expr} {group : Multiset Env}
    (h : ∀ row ∈ group, e.value c db {row} row ≠ .null) (env : Env) :
    e.countDistinct.value c db group env =
      .int (group.map fun row => e.value c db {row} row).dedup.card := by
  have hvalues : (group.map fun row => valuesOfEach c db [e] {row} row) =
      (group.map fun row => e.value c db {row} row).map fun v => [v] := by
    rw [Multiset.map_map]
    rfl
  have hgiven : ((group.map fun row => e.value c db {row} row).map fun v => [v]).filter
      (fun args => Value.null ∉ args) = (group.map fun row => e.value c db {row} row).map fun v => [v] := by
    refine Multiset.filter_eq_self.mpr fun args hargs => ?_
    obtain ⟨v, hv, rfl⟩ := Multiset.mem_map.mp hargs
    obtain ⟨row, hrow, rfl⟩ := Multiset.mem_map.mp hv
    rw [List.mem_singleton]
    exact (h row hrow).symm
  simp only [Expr.countDistinct, Expr.value, Aggregate.ofName?, Collation.aggregate, hvalues, hgiven,
    if_true, Multiset.card_map, Multiset.dedup_map_of_injective (List.singleton_injective (α := Value))]

/-- An order of what a function makes of a bag is one of the bag itself. -/
theorem exists_order_of_map {α β : Type} {f : α → β} {s : Multiset α} {ordered : List β}
    (h : (ordered : Multiset β) = s.map f) : ∃ l : List α, (l : Multiset α) = s ∧ ordered = l.map f := by
  have hperm : ordered.Perm (s.toList.map f) := by
    rw [← Multiset.coe_eq_coe, h, ← Multiset.map_coe, Multiset.coe_toList]
  obtain ⟨l, hl, hs⟩ := (congrFun₂ (List.eq_map_comp_perm f) ordered s.toList).mpr hperm
  refine ⟨l, ?_, hl⟩
  rw [← Multiset.coe_toList s]
  exact Multiset.coe_eq_coe.mpr hs

theorem windowed_map {α β : Type} (window : Option Window) (f : α → β) (rows : List α) :
    windowed window (rows.map f) = (windowed window rows).map f := by
  rcases window with _ | ⟨_ | limit, offset⟩ <;> simp [windowed, List.map_drop, List.map_take]

namespace Query

variable (c : Collation) (db : Database)

/-- The results of a query in an order that its keys allow. -/
def IsOrdered (query : Query) (ordered : List Selected) : Prop :=
  (ordered : Multiset Selected) = query.results c db ∧
    ordered.Pairwise fun a b => c.compareKeys query.orderBy a.keys b.keys ≠ .gt

theorem isAnswer_iff (query : Query) (answer : List (List Value)) :
    query.IsAnswer c db answer ↔ ∃ ordered, query.IsOrdered c db ordered ∧
      answer = (windowed query.window ordered).map Selected.values := by
  simp only [IsAnswer, IsOrdered, and_assoc]

theorem exists_isOrdered (query : Query) : ∃ ordered, query.IsOrdered c db ordered := by
  let le (a b : Selected) : Bool := (c.compareKeys query.orderBy a.keys b.keys).isLE
  refine ⟨(query.results c db).toList.mergeSort le, ?_, ?_⟩
  · rw [← Multiset.coe_toList (query.results c db), Multiset.coe_eq_coe, Multiset.coe_toList]
    exact List.mergeSort_perm _ _
  · have htotal : ∀ a b, (le a b || le b a) = true := by
      intro a b
      have hswap : c.compareKeys query.orderBy a.keys b.keys =
          (c.compareKeys query.orderBy b.keys a.keys).swap := Std.OrientedCmp.eq_swap
      simp only [le, hswap]
      cases c.compareKeys query.orderBy b.keys a.keys <;> rfl
    have hsorted : ((query.results c db).toList.mergeSort le).Pairwise fun a b => le a b = true :=
      List.pairwise_mergeSort (fun _ _ _ => Std.TransCmp.isLE_trans) htotal _
    exact hsorted.imp fun h => Ordering.isLE_iff_ne_gt.mp h

theorem exists_isAnswer (query : Query) : ∃ answer, query.IsAnswer c db answer := by
  obtain ⟨ordered, hordered⟩ := query.exists_isOrdered c db
  exact ⟨_, (query.isAnswer_iff c db _).mpr ⟨ordered, hordered, rfl⟩⟩

private theorem isOrdered_unique {query : Query} {ordered ordered' : List Selected}
    (htotal : ∀ a ∈ query.results c db, ∀ b ∈ query.results c db,
      c.compareKeys query.orderBy a.keys b.keys = .eq → a = b)
    (h : query.IsOrdered c db ordered) (h' : query.IsOrdered c db ordered') : ordered = ordered' := by
  have hmem : ∀ a ∈ ordered, a ∈ query.results c db := fun a ha => by
    rw [← h.1]; exact ha
  have hmem' : ∀ a ∈ ordered', a ∈ query.results c db := fun a ha => by
    rw [← h'.1]; exact ha
  refine List.Perm.eq_of_pairwise (fun a b ha hb hab hba => ?_) h.2 h'.2
    (Multiset.coe_eq_coe.mp (h.1.trans h'.1.symm))
  refine htotal a (hmem a ha) b (hmem' b hb) ?_
  exact Std.OrientedCmp.isLE_antisymm (Ordering.isLE_iff_ne_gt.mpr hab)
    (Ordering.isLE_iff_ne_gt.mpr hba)

private theorem isOrdered_window (query : Query) (window : Option Window)
    (ordered : List Selected) :
    Query.IsOrdered c db { query with window } ordered ↔ query.IsOrdered c db ordered := by
  cases query
  exact Iff.rfl

/-- Keys that tell all results apart leave a single answer in every window. -/
theorem isAnswer_of_total {query : Query} {ordered : List Selected}
    (htotal : ∀ a ∈ query.results c db, ∀ b ∈ query.results c db,
      c.compareKeys query.orderBy a.keys b.keys = .eq → a = b)
    (h : query.IsOrdered c db ordered) (window : Option Window) (answer : List (List Value)) :
    Query.IsAnswer c db { query with window } answer ↔
      answer = (windowed window ordered).map Selected.values := by
  simp only [isAnswer_iff, isOrdered_window]
  constructor
  · rintro ⟨ordered', h', rfl⟩
    rw [isOrdered_unique c db htotal h' h]
  · intro hanswer
    exact ⟨ordered, h, hanswer⟩

/-- A query without order and window is answered by its results in any order. -/
theorem isAnswer_unordered {query : Query} (horder : query.orderBy = []) (hwindow : query.window = none)
    (answer : List (List Value)) :
    query.IsAnswer c db answer ↔
      (answer : Multiset (List Value)) = (query.results c db).map Selected.values := by
  unfold IsAnswer
  simp only [horder, hwindow, Collation.compareKeys, windowed]
  constructor
  · rintro ⟨ordered, hresults, _, rfl⟩
    rw [← hresults, Multiset.map_coe]
  · intro h
    obtain ⟨ordered, hordered, rfl⟩ := exists_order_of_map h
    exact ⟨ordered, hordered, List.pairwise_of_forall fun _ _ => by simp, rfl⟩

end Query

end TenantGrid.Sql
