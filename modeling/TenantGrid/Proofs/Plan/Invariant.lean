import TenantGrid.Plan.Queries
import TenantGrid.Proofs.Plan.Items
/-!
# What every plan keeps

The joins of a plan were allocated one after another, and its conditions read the artist and these
joins alone. Each further item keeps this, so every plan of a request has it.
-/
namespace TenantGrid

open Sql (Collation Database Env Expr Query Record Value)

namespace FilterPlan

/-- The names that a plan's conditions can read rows by. -/
def names (plan : FilterPlan) : List String :=
  Schema.artists.name :: plan.joins.map JoinedTable.aliasName

/-- Whether the aliases of a plan are numbered in the order of its joins, and its conditions read no
others. -/
structure IsScoped (plan : FilterPlan) : Prop where
  allocated : plan.joins.Allocated
  reads : ∀ e ∈ plan.predicates, e.ReadsOnly plan.names

theorem IsScoped.condition_readsOnly {plan : FilterPlan} (h : plan.IsScoped) :
    plan.condition.ReadsOnly plan.names :=
  .foldl_and (tenantScope_readsOnly (by simp [names]) _ _) h.reads

end FilterPlan

namespace Compiler

variable {compiler : Compiler}

/-- What one more item does to a plan: nothing, or a further condition with the join that its route
reads. -/
theorem addItem_cases {plan after : FilterPlan} {item : FilterItem}
    (h : compiler.addItem plan item = .ok after) :
    ∃ route, compiler.catalog.route item.field = .ok route ∧
      ((compiler.itemPredicate plan.tenant plan.joins item route = .ok none ∧ after = plan) ∨
        ∃ e, compiler.itemPredicate plan.tenant plan.joins item route = .ok (some e) ∧
          after = { plan with
            joins := joinsAfter plan.joins route.joinTarget?
            predicates := plan.predicates ++ [e] }) := by
  obtain ⟨route, hroute, h⟩ := bind_eq_ok h
  obtain ⟨put, hput, h⟩ := bind_eq_ok h
  refine ⟨route, hroute, ?_⟩
  cases put with
  | none => exact Or.inl ⟨hput, (Except.ok.inj h).symm⟩
  | some e => exact Or.inr ⟨e, hput, (Except.ok.inj h).symm⟩

private theorem itemPredicate_readsOnly {tenant : String} {joins : JoinSet} {item : FilterItem}
    {route : Route} {e : Expr}
    (h : compiler.itemPredicate tenant joins item route = .ok (some e)) :
    e.ReadsOnly (Schema.artists.name ::
      (joinsAfter joins route.joinTarget?).map JoinedTable.aliasName) := by
  cases htarget : route.joinTarget? with
  | none => exact (compiler.itemPredicate_direct htarget h).1.mono (by simp)
  | some target =>
    obtain ⟨name, t, rfl, _⟩ := compiler.itemPredicate_joined htarget h
    exact t.on_readsOnly (.ofTable name (by simp [joinsAfter, JoinSet.allocate]))

theorem addItem_isScoped {plan after : FilterPlan} {item : FilterItem} (hplan : plan.IsScoped)
    (h : compiler.addItem plan item = .ok after) : after.IsScoped := by
  obtain ⟨route, _, ⟨_, rfl⟩ | ⟨e, he, rfl⟩⟩ := addItem_cases h
  · exact hplan
  constructor
  · cases route.joinTarget? with
    | none => exact hplan.allocated
    | some target => exact .allocate target hplan.allocated
  · intro p hp
    rcases List.mem_append.mp hp with hp | hp
    · refine (hplan.reads p hp).mono fun name hname => ?_
      cases route.joinTarget? with
      | none => exact hname
      | some target =>
        simp only [FilterPlan.names, List.mem_cons, joinsAfter, JoinSet.allocate, List.map_append,
          List.mem_append] at hname ⊢
        tauto
    · obtain rfl := List.mem_singleton.mp hp
      exact itemPredicate_readsOnly he

theorem addItem_request {plan after : FilterPlan} {item : FilterItem}
    (h : compiler.addItem plan item = .ok after) :
    after.tenant = plan.tenant ∧ after.scope = plan.scope := by
  obtain ⟨route, _, ⟨_, rfl⟩ | ⟨e, _, rfl⟩⟩ := addItem_cases h <;> exact ⟨rfl, rfl⟩

variable {tenant : String} {scope : Scope} {items : List FilterItem} {plan : FilterPlan}

theorem planWithin_isScoped (h : compiler.planWithin tenant scope items = .ok plan) :
    plan.IsScoped :=
  foldlM_induction (motive := fun _ plan => plan.IsScoped) ⟨.start, by simp⟩
    (fun _ _ _ _ hplan hstep => addItem_isScoped hplan hstep) h

theorem planWithin_request (h : compiler.planWithin tenant scope items = .ok plan) :
    plan.tenant = tenant ∧ plan.scope = scope := by
  refine foldlM_induction (motive := fun _ plan => plan.tenant = tenant ∧ plan.scope = scope)
    ⟨rfl, rfl⟩ (fun _ _ before after hbefore hstep => ?_) h
  obtain ⟨htenant, hscope⟩ := addItem_request hstep
  exact ⟨htenant.trans hbefore.1, hscope.trans hbefore.2⟩

/-- A compiled request is a plan with a query of its mode, and the statement of that query. -/
theorem compile_cases {filter : FilterModel} {sort : List SortItem} {page : Page} {mode : Mode}
    {compiled : Compiled} (h : compiler.compile tenant filter sort page mode = .ok compiled) :
    compiler.planWithin tenant (.visible filter.muteMode) filter.items = .ok compiled.plan ∧
      compiler.modeQuery compiled.plan sort page mode = .ok compiled.query ∧
      compiled.statement = compiled.query.statement compiler.dialect := by
  obtain ⟨plan, hplan, h⟩ := bind_eq_ok h
  obtain ⟨query, hquery, h⟩ := bind_eq_ok h
  obtain rfl := Except.ok.inj h
  exact ⟨hplan, hquery, rfl⟩

end Compiler

end TenantGrid
