import TenantGrid.Filter.Predicate
import TenantGrid.Filter.Route
import TenantGrid.Proofs.Filter.Steps
/-!
# Fields of errors

Every error that an item is rejected with points at the field of the item, whichever step of its
compilation finds the fault.
-/
namespace TenantGrid

variable {α β : Type} {field : String}

/-- Whether a step that fails points at the field. -/
def PointsAt (field : String) (x : Except RequestError α) : Prop :=
  ∀ error, x = .error error → error.field = field

namespace PointsAt

theorem ok (a : α) : PointsAt field (.ok a) :=
  fun _ h => nomatch h

theorem error {e : RequestError} (h : e.field = field) :
    PointsAt field (.error e : Except RequestError α) :=
  fun _ he => Except.error.inj he ▸ h

theorem bind {x : Except RequestError α} {f : α → Except RequestError β} (h : PointsAt field x)
    (hf : ∀ a, PointsAt field (f a)) : PointsAt field (x >>= f) := by
  intro error herror
  obtain hx | ⟨a, _, ha⟩ := bind_eq_error.mp herror
  · exact h error hx
  · exact hf a error ha

private theorem map {x : Except RequestError α} (h : PointsAt field x) (f : α → β) :
    PointsAt field (x.map f) :=
  fun error herror => h error (map_eq_error.mp herror)

private theorem ite {p : Prop} [Decidable p] {x y : Except RequestError α} (hx : PointsAt field x)
    (hy : PointsAt field y) : PointsAt field (if p then x else y) := by
  split
  · exact hx
  · exact hy

private theorem mapM {f : α → Except RequestError β} (hf : ∀ a, PointsAt field (f a))
    (as : List α) : PointsAt field (as.mapM f) := by
  induction as with
  | nil => exact .ok []
  | cons a rest ih =>
    rw [List.mapM_cons]
    exact (hf a).bind fun b => ih.bind fun bs => .ok (b :: bs)

end PointsAt

private theorem expecting_pointsAt {value : Json} {expected : Expectation}
    {x : Except RequestError α}
    (h : ∀ error, x = .error error → error = .invalidValue field value expected) : PointsAt field x :=
  fun error herror => h error herror ▸ rfl

private theorem textOf_pointsAt (field : String) (value : Json) :
    PointsAt field (textOf field value) :=
  expecting_pointsAt fun _ => expecting_error

private theorem momentOf_pointsAt (field : String) (value : Json) :
    PointsAt field (momentOf field value) := by
  unfold momentOf
  split
  · split
    · exact .ok _
    · exact .error rfl
  · exact .error rfl

private theorem coerce_pointsAt (field : String) (type : ColumnType) (percent : Bool)
    (value : Json) : PointsAt field (coerce field type percent value) := by
  cases type with
  | text => exact (textOf_pointsAt field value).map _
  | timestamp => exact (momentOf_pointsAt field value).map _
  | int | real | bool | uuid | choice =>
    exact (expecting_pointsAt fun _ => expecting_error).map _
  | json => exact .error rfl

namespace Subject

variable (s : Subject) (value : Json)

private theorem compared_pointsAt (op : Sql.BinaryOp) : PointsAt s.field (s.compared op value) :=
  (coerce_pointsAt s.field s.type s.percent value).map _

private theorem comparedUnlessBlank_pointsAt (op : Sql.BinaryOp) :
    PointsAt s.field (s.comparedUnlessBlank op value) :=
  .ite (.ok none) (s.compared_pointsAt value op)

private theorem comparedUnlessNull_pointsAt (op : Sql.BinaryOp) (negated : Bool) :
    PointsAt s.field (s.comparedUnlessNull op negated value) :=
  .ite (.ok _) (s.compared_pointsAt value op)

private theorem amongListed_pointsAt (negated : Bool) :
    PointsAt s.field (s.amongListed negated value) :=
  .ite (.ok none) ((PointsAt.mapM (coerce_pointsAt s.field s.type s.percent) _).map _)

private theorem matching_pointsAt (before after negated escaped : Bool) :
    PointsAt s.field (s.matching before after negated escaped value) :=
  .ite (.ok none) ((textOf_pointsAt s.field value).map _)

theorem predicate_pointsAt (escapeNegated : Bool) (op : Operator) :
    PointsAt s.field (s.predicate escapeNegated op value) := by
  refine .ite (.error rfl) ?_
  cases op with
  | isEmpty | isNotEmpty => exact .ok _
  | equals | notEquals => exact s.comparedUnlessNull_pointsAt value _ _
  | isAnyOf | isNotOf => exact s.amongListed_pointsAt value _
  | gt | lt | gte | lte | after | before | onOrAfter | onOrBefore =>
    exact s.comparedUnlessBlank_pointsAt value _
  | startsWith | endsWith | contains | doesNotContain => exact s.matching_pointsAt value _ _ _ _

end Subject

theorem Membership.ofItem_pointsAt (escapeNegated : Bool) (field : String) (column : Sql.Expr)
    (op : Operator) (value : Json) :
    PointsAt field (Membership.ofItem escapeNegated field column op value) := by
  have hinner : ∀ positive,
      PointsAt field (positiveInner escapeNegated field column op positive value) := fun positive =>
    .ite ((textOf_pointsAt field value).map _)
      (({ field, column, type := .text } : Subject).predicate_pointsAt value escapeNegated positive)
  exact .ite (.ok _) (.ite (.ok _) (.ite (.error rfl) (.ite (.ok none) ((hinner _).map _))))

theorem attributionOperator_pointsAt (field : String) (value : Json) :
    PointsAt field (attributionOperator field value) := by
  unfold attributionOperator
  split
  · exact .ok _
  · exact .ok _
  · split
    · exact .ok _
    · exact .ok _
    · exact .error rfl

theorem Catalog.route_pointsAt (catalog : Catalog) (field : String) :
    PointsAt field (catalog.route field) := by
  unfold Catalog.route
  split
  · exact .ok _
  · exact .error rfl

end TenantGrid
