import WaffleFinance.Evm.EscrowLog
import WaffleFinance.Evm.RegistryConservation
import WaffleFinance.Soroban.RegistryLifecycle
import WaffleFinance.Soroban.Migration
import WaffleFinance.Soroban.GatedOrders
import WaffleFinance.CrossChain.Swap
import WaffleFinance.Relayer.RefundProgress
import WaffleFinance.Relayer.Exclusivity
import WaffleFinance.Relayer.Binding
import WaffleFinance.Relayer.Stranded
import WaffleFinance.Relayer.GasBumping
import WaffleFinance.Relayer.StoreReload
import WaffleFinance.Relayer.RecoverySafety
import WaffleFinance.Relayer.MonitoringLifecycle
import WaffleFinance.Coordinator.AuditTrail
import WaffleFinance.Coordinator.AuditValidator
import WaffleFinance.Coordinator.CrashRecovery
import WaffleFinance.Coordinator.OrderExport
import WaffleFinance.Coordinator.KeyRotation
import WaffleFinance.Coordinator.KeyedMutex
import WaffleFinance.Coordinator.Integrity
import WaffleFinance.Coordinator.Timelocks
import WaffleFinance.Coordinator.Expiry
import WaffleFinance.Coordinator.Continuity
import WaffleFinance.Sdk.AnnounceAgreement
import WaffleFinance.Sdk.SubscriptionProtocol
import WaffleFinance.Sdk.Submission
import WaffleFinance.Coordinator.Backlog
import WaffleFinance.Coordinator.Archival
import WaffleFinance.Coordinator.SchemaHistory
import WaffleFinance.Coordinator.RateLimit
import WaffleFinance.Coordinator.EventIdentity
import WaffleFinance.Relayer.StellarIncoming
import WaffleFinance.Relayer.Amounts
import WaffleFinance.Relayer.RefundAttempts
import WaffleFinance.Resolver.Supervisor
import WaffleFinance.Resolver.Delivery
import WaffleFinance.Coordinator.ScanCoverage
