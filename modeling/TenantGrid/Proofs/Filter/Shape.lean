import TenantGrid.Filter.Predicate
import TenantGrid.Filter.Request
import TenantGrid.Filter.Route
import TenantGrid.Proofs.Filter.Steps
import TenantGrid.Proofs.Sql.Words
/-!
# Shapes of values

What a condition depends on besides its bound values: whether the value of an item is null or blank,
how many items it lists, and what it chooses if it is a choice of attribution.
-/
namespace TenantGrid

open Sql (Expr)

namespace Json

/-- Whether two values are alike but for what they hold. -/
structure SameShape (v w : Json) : Prop where
  isNull : v.isNull = w.isNull
  isBlank : v.isBlank = w.isBlank
  listed : v.listed.length = w.listed.length

/-- What a value chooses: nothing, yes or no. -/
def choice? : Json → Option (Option Bool)
  | null => some none
  | bool b => some (some b)
  | string "true" => some (some true)
  | string "false" => some (some false)
  | _ => none

end Json

/-- Whether two items ask the same but for the values they hold. -/
structure FilterItem.SameShape (item item' : FilterItem) : Prop where
  field : item.field = item'.field
  operator : item.operator = item'.operator
  value : item.value.SameShape item'.value
  choice : item.field = "organization.attribution_type" → item.value.choice? = item'.value.choice?

theorem attributionOperator_ok {field : String} {v : Json} {chosen : Option Operator}
    (h : attributionOperator field v = .ok chosen) :
    ∃ choice, v.choice? = some choice ∧
      chosen = choice.map fun b => if b then .isNotEmpty else .isEmpty := by
  unfold attributionOperator at h
  split at h
  · exact ⟨none, rfl, (Except.ok.inj h).symm⟩
  · exact ⟨some _, rfl, (Except.ok.inj h).symm⟩
  · split at h
    · exact ⟨some true, rfl, (Except.ok.inj h).symm⟩
    · exact ⟨some false, rfl, (Except.ok.inj h).symm⟩
    · simp at h

namespace Subject

variable {s : Subject} {v w : Json} {e f : Option Expr}

private theorem compared_words {op : Sql.BinaryOp} (he : s.compared op v = .ok e)
    (hf : s.compared op w = .ok f) : e.map Expr.words = f.map Expr.words := by
  obtain ⟨x, _, rfl⟩ := map_eq_ok he
  obtain ⟨y, _, rfl⟩ := map_eq_ok hf
  exact congrArg some (Expr.words_binary op rfl (Expr.words_param x y))

variable (h : v.SameShape w)

include h

private theorem comparedUnlessBlank_words {op : Sql.BinaryOp}
    (he : s.comparedUnlessBlank op v = .ok e) (hf : s.comparedUnlessBlank op w = .ok f) :
    e.map Expr.words = f.map Expr.words := by
  unfold comparedUnlessBlank at he hf
  rw [← h.isBlank] at hf
  exact ite_eq_ok he hf compared_words

private theorem comparedUnlessNull_words {op : Sql.BinaryOp} {negated : Bool}
    (he : s.comparedUnlessNull op negated v = .ok e) (hf : s.comparedUnlessNull op negated w = .ok f) :
    e.map Expr.words = f.map Expr.words := by
  unfold comparedUnlessNull at he hf
  rw [← h.isNull] at hf
  exact ite_eq_ok he hf compared_words

private theorem amongListed_words {negated : Bool} (he : s.amongListed negated v = .ok e)
    (hf : s.amongListed negated w = .ok f) : e.map Expr.words = f.map Expr.words := by
  have hempty : w.listed.isEmpty = v.listed.isEmpty := by
    rw [Bool.eq_iff_iff, List.isEmpty_iff_length_eq_zero, List.isEmpty_iff_length_eq_zero, h.listed]
  unfold amongListed at he hf
  rw [hempty] at hf
  refine ite_eq_ok he hf fun he hf => ?_
  obtain ⟨xs, hxs, rfl⟩ := map_eq_ok he
  obtain ⟨ys, hys, rfl⟩ := map_eq_ok hf
  refine congrArg some (Expr.words_inList s.column negated ?_)
  rw [length_of_mapM hxs, length_of_mapM hys, h.listed]

private theorem matching_words {before after negated escaped : Bool}
    (he : s.matching before after negated escaped v = .ok e)
    (hf : s.matching before after negated escaped w = .ok f) :
    e.map Expr.words = f.map Expr.words := by
  unfold matching at he hf
  rw [← h.isBlank] at hf
  refine ite_eq_ok he hf fun he hf => ?_
  obtain ⟨text, _, rfl⟩ := map_eq_ok he
  obtain ⟨text', _, rfl⟩ := map_eq_ok hf
  exact congrArg some (Expr.words_like s.column _ _ _ negated true)

/-- The condition of an item has the same words for all values of one shape. -/
theorem predicate_words {escapeNegated : Bool} {op : Operator}
    (he : s.predicate escapeNegated op v = .ok e) (hf : s.predicate escapeNegated op w = .ok f) :
    e.map Expr.words = f.map Expr.words := by
  unfold predicate at he hf
  refine ite_eq_ok he hf fun he hf => ?_
  cases op with
  | equals | notEquals => exact comparedUnlessNull_words h he hf
  | isEmpty | isNotEmpty => rw [← Except.ok.inj he, ← Except.ok.inj hf]
  | isAnyOf | isNotOf => exact amongListed_words h he hf
  | gt | lt | gte | lte | after | before | onOrAfter | onOrBefore =>
    exact comparedUnlessBlank_words h he hf
  | startsWith | endsWith | contains | doesNotContain => exact matching_words h he hf

end Subject

namespace Membership

variable {escapeNegated : Bool} {field : String} {column : Expr} {op : Operator} {v w : Json}
  (h : v.SameShape w)

include h

private theorem positiveInner_words {positive : Operator} {e f : Option Expr}
    (he : positiveInner escapeNegated field column op positive v = .ok e)
    (hf : positiveInner escapeNegated field column op positive w = .ok f) :
    e.map Expr.words = f.map Expr.words := by
  unfold positiveInner at he hf
  split at he
  · rw [if_pos ‹_›] at hf
    obtain ⟨text, _, rfl⟩ := map_eq_ok he
    obtain ⟨text', _, rfl⟩ := map_eq_ok hf
    exact congrArg some (Expr.words_like column _ _ none false true)
  · rw [if_neg ‹_›] at hf
    exact Subject.predicate_words h he hf

/-- The test of a relation has the same words for all values of one shape. -/
theorem ofItem_words {m n : Option Membership}
    (hm : ofItem escapeNegated field column op v = .ok m)
    (hn : ofItem escapeNegated field column op w = .ok n) :
    m.map (fun m => (m.inner.map Expr.words, m.negated)) =
      n.map (fun n => (n.inner.map Expr.words, n.negated)) := by
  unfold ofItem at hm hn
  rw [← h.isBlank] at hn
  refine ite_eq_ok hm hn fun hm hn => ite_eq_ok hm hn fun hm hn => ite_eq_ok hm hn fun hm hn =>
    ite_eq_ok hm hn fun hm hn => ?_
  obtain ⟨e, he, rfl⟩ := map_eq_ok hm
  obtain ⟨f, hf, rfl⟩ := map_eq_ok hn
  have hwords := positiveInner_words h he hf
  cases e <;> cases f <;> simp_all [ofInner]

end Membership

namespace Route

theorem after?_some {mark text rest : List Char} (h : after? mark text = some rest) :
    text = mark ++ rest := by
  induction mark generalizing text with
  | nil => exact Option.some.inj h
  | cons m mark ih =>
    cases text with
    | nil => simp [after?] at h
    | cons c text =>
      simp only [after?] at h
      split at h
      · rw [‹m = c›, ih h, List.cons_append]
      · simp at h

theorem statistic?_some {catalog : Catalog} {text : List Char} {route : Route}
    (h : statistic? catalog text = some route) :
    ∃ typeId metric, route = .statistic typeId metric ∧
      Number.readInt? (Number.splitDigits text).1 = some typeId ∧
      ((after? ['-'] (Number.splitDigits text).2).bind fun name =>
        Metric.ofName? (String.ofList name)) = some metric := by
  unfold statistic? at h
  simp only [Option.bind_eq_bind, Option.bind_eq_some_iff] at h
  obtain ⟨name, hname, h⟩ := h
  split at h
  · simp at h
  · simp only [Option.bind_eq_some_iff] at h
    obtain ⟨typeId, hid, metric, hmetric, _, _, h⟩ := h
    exact ⟨typeId, metric, (Option.some.inj h).symm, hid, by simp [hname, hmetric]⟩

/-- A choice of attribution is asked for by a single name. -/
theorem ofField?_attribution {catalog : Catalog} {field : String} {column : Column}
    (h : ofField? catalog field = some (.attribution column)) :
    field = "organization.attribution_type" := by
  unfold ofField? at h
  simp only at h
  split at h
  · obtain ⟨_, _, hroute, _⟩ := statistic?_some h
    simp at hroute
  split at h
  · simp at h
  split at h
  · rename_i rest hrest
    unfold membership? at h
    split at h
    · rename_i hname
      rw [← String.toList_inj, after?_some hrest, hname]
      decide
    · simp at h
  · unfold plain? at h
    repeat' split at h
    all_goals simp at h

/-- What is known of statistics decides whether a field is routed, but not where to. -/
theorem ofField?_unique {catalog catalog' : Catalog} {field : String} {route route' : Route}
    (h : ofField? catalog field = some route) (h' : ofField? catalog' field = some route') :
    route = route' := by
  unfold ofField? at h h'
  simp only at h h'
  split at h
  · rename_i rest hrest
    rw [hrest] at h'
    obtain ⟨typeId, metric, rfl, hid, hmetric⟩ := statistic?_some h
    obtain ⟨typeId', metric', rfl, hid', hmetric'⟩ := statistic?_some h'
    rw [Option.some.inj (hid.symm.trans hid'), Option.some.inj (hmetric.symm.trans hmetric')]
  · rename_i hnone
    rw [hnone] at h'
    exact Option.some.inj (h.symm.trans h')

end Route

theorem Catalog.route_ok {catalog : Catalog} {field : String} {route : Route}
    (h : catalog.route field = .ok route) : Route.ofField? catalog field = some route := by
  unfold Catalog.route at h
  split at h
  · rwa [← Except.ok.inj h]
  · simp at h

end TenantGrid
