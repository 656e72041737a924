import SyntheticOrders.Interaction.Program
import SyntheticOrders.Interaction.Code
import SyntheticOrders.Interaction.CallStack
import SyntheticOrders.Vault.Contract
import SyntheticOrders.Vault.Logic
import SyntheticOrders.Vault.Course
import SyntheticOrders.Vault.Books
import SyntheticOrders.Vault.Accounting
import SyntheticOrders.Vault.Ledger
import SyntheticOrders.Vault.Custody
import SyntheticOrders.Vault.Solvency
import SyntheticOrders.Vault.Execution
import SyntheticOrders.Vault.Sweep
import SyntheticOrders.Vault.Exit
import SyntheticOrders.Interaction.Async
import SyntheticOrders.Interaction.Solo
import SyntheticOrders.Relation.Pointwise
import SyntheticOrders.Interaction.Pool
import SyntheticOrders.Orders.Order
import SyntheticOrders.Orders.Operations
import SyntheticOrders.Orders.Execution
import SyntheticOrders.Orders.Lifecycle
import SyntheticOrders.Orders.Monitor
import SyntheticOrders.Orders.Reconciler
import SyntheticOrders.Orders.System
import SyntheticOrders.Orders.Warrant
import SyntheticOrders.Orders.Planned
import SyntheticOrders.Orders.Runs
import SyntheticOrders.Orders.Conformance
import SyntheticOrders.Orders.StandDown
import SyntheticOrders.Orders.Lifespan
import SyntheticOrders.Orders.Dropped
import SyntheticOrders.Orders.Verdict
import SyntheticOrders.Vault.Floor
import SyntheticOrders.Vault.Rotation
import SyntheticOrders.Vault.Allowance
import SyntheticOrders.Vault.Surplus
import SyntheticOrders.Orders.Claims
import SyntheticOrders.Orders.Queues
import SyntheticOrders.Orders.Stranded
import SyntheticOrders.Orders.Handoff
import SyntheticOrders.Orders.Retry
import SyntheticOrders.Orders.Triggering
import SyntheticOrders.Numeral.Decimal
import SyntheticOrders.Orders.Schema
import SyntheticOrders.Orders.Printing
import SyntheticOrders.Orders.Drafts
import SyntheticOrders.Orders.Amounts
import SyntheticOrders.Orders.Admission
import SyntheticOrders.Orders.Undisturbed
import SyntheticOrders.Orders.Scope
import SyntheticOrders.Orders.Scan
import SyntheticOrders.Orders.Correction
import SyntheticOrders.Orders.Backfill
import SyntheticOrders.Orders.Versions
import SyntheticOrders.Orders.Checkpoint
import SyntheticOrders.Orders.Draining
import SyntheticOrders.Orders.AuditTrail
import SyntheticOrders.Orders.Standstill
import SyntheticOrders.Orders.Settling
import SyntheticOrders.Relation.Foremost
import SyntheticOrders.Orders.Reach
import SyntheticOrders.Orders.Convergence
import SyntheticOrders.Orders.Rescan
import SyntheticOrders.Relation.Matching
import SyntheticOrders.Settlement.CallData
import SyntheticOrders.Settlement.Composition
import SyntheticOrders.Prices.Service
import SyntheticOrders.Prices.Providers
import SyntheticOrders.Prices.Route
import SyntheticOrders.Relation.Chronicle
import SyntheticOrders.Vault.Replay
import SyntheticOrders.Vault.Safeguards
import SyntheticOrders.Orders.Coverage
import SyntheticOrders.Orders.Terms
