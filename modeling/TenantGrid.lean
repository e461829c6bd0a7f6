import TenantGrid.Main
import TenantGrid.Proofs.Cache.Run
import TenantGrid.Proofs.Filter.Coercion
import TenantGrid.Proofs.Plan.Aliases
import TenantGrid.Proofs.Plan.Complement
import TenantGrid.Proofs.Plan.Dialects
import TenantGrid.Proofs.Plan.Labels
import TenantGrid.Proofs.Plan.Membership
import TenantGrid.Proofs.Plan.Separation
import TenantGrid.Proofs.Plan.Wording
import TenantGrid.Proofs.Relation.Isolation
import TenantGrid.Proofs.Relation.Readback
import TenantGrid.Proofs.Relation.Typing
import TenantGrid.Proofs.Relation.Vocabulary
import TenantGrid.Proofs.Service.Counting
import TenantGrid.Proofs.Service.Failure
import TenantGrid.Proofs.Service.Paging
import TenantGrid.Proofs.Settings.Variables
import TenantGrid.Proofs.Sql.Conjunction
import TenantGrid.Proofs.Sql.Placeholders
import TenantGrid.Proofs.Sql.Quotes
import TenantGrid.Proofs.Store.Cell
import TenantGrid.Proofs.Store.Hydration
import TenantGrid.Proofs.Time.DateText
import TenantGrid.Service.Bulk
import TenantGrid.Service.List
import TenantGrid.Service.Single
import TenantGrid.Store.Cell
