import TenantGrid.Proofs.Plan.Wording
import TenantGrid.Service.Bulk
import TenantGrid.Service.List
/-!
# Preparing requests

What a request that is prepared has passed, and the statements that it is prepared to run.
-/
namespace TenantGrid

namespace Service

variable {service : Service} {user : String}

theorem resolveTenant_eq_ok {tenant : String} (h : service.resolveTenant user = .ok tenant) :
    service.tenantOf user = some tenant := by
  unfold resolveTenant at h
  split at h
  · rename_i found hfound
    rw [hfound, Except.ok.inj h]
  · simp at h

/-- The page check looks at the size of a page alone. -/
theorem checkPage_eq_ok (page : Page) :
    service.checkPage page = .ok () ↔ 0 < page.size ∧ page.size ≤ service.limits.maxPageSize := by
  unfold checkPage
  by_cases hempty : page.size = 0
  · simp [hempty]
  · have hpositive : 0 < page.size := UInt64.pos_iff_ne_zero.mpr hempty
    by_cases hlarge : service.limits.maxPageSize < page.size
    · simp [hempty, hlarge]
    · simp [hempty, hlarge, hpositive, UInt64.not_lt.mp hlarge]

/-- A list request is prepared within the caller's tenant if its page may be asked for and its filter
and sort compile. -/
theorem prepareList_cases {request : ListRequest} {prepared : PreparedList}
    (h : service.prepareList user request = .ok prepared) :
    service.tenantOf user = some prepared.tenant ∧
      service.checkPage (service.pageOf request) = .ok () ∧
      ∃ plan query,
        service.compiler.planWithin prepared.tenant (.visible request.filter.muteMode)
          request.filter.items = .ok plan ∧
        service.compiler.pageQuery plan request.sort (service.pageOf request) = .ok query ∧
        prepared.page = service.queryStatement query ∧
        prepared.count = service.queryStatement plan.countQuery := by
  obtain ⟨tenant, htenant, h⟩ := bind_eq_ok h
  obtain ⟨_, hcheck, h⟩ := bind_eq_ok h
  obtain ⟨plan, hplan, h⟩ := bind_eq_ok h
  obtain ⟨query, hquery, h⟩ := bind_eq_ok h
  obtain rfl := Except.ok.inj h
  exact ⟨resolveTenant_eq_ok htenant, hcheck, plan, query, mapError_eq_ok.mp hplan,
    mapError_eq_ok.mp hquery, rfl, rfl⟩

theorem prepareList_eq {request : ListRequest} {tenant : String} {plan : FilterPlan} {query : Sql.Query}
    (htenant : service.tenantOf user = some tenant)
    (hcheck : service.checkPage (service.pageOf request) = .ok ())
    (hplan : service.compiler.planWithin tenant (.visible request.filter.muteMode)
      request.filter.items = .ok plan)
    (hquery : service.compiler.pageQuery plan request.sort (service.pageOf request) = .ok query) :
    service.prepareList user request = .ok {
      tenant
      page := service.queryStatement query
      count := service.queryStatement plan.countQuery } := by
  simp only [prepareList, resolveTenant, htenant, hcheck, planFor, Compiler.plan, hplan, hquery, bind,
    Except.bind, Except.mapError]

/-- A service for the one user of a tenant, whose store is empty. -/
def sample : Service where
  session := { store := .ofReplies .sqlite [] }
  tenantOf user := if user = "u" then some "t" else none

end Service

end TenantGrid
