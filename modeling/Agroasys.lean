import Agroasys.Foundation.Transition
import Agroasys.Foundation.Ledger
import Agroasys.Foundation.Ballot
import Agroasys.Foundation.Deliberation
import Agroasys.Foundation.WriteBack
import Agroasys.Foundation.Bulletin
import Agroasys.Foundation.Lifecycle
import Agroasys.Foundation.Paging
import Agroasys.Foundation.Lockstep
import Agroasys.Foundation.Joined
import Agroasys.Foundation.Keyset
import Agroasys.Foundation.OffsetPaging
import Agroasys.Foundation.Chains
import Agroasys.Escrow.Types
import Agroasys.Escrow.TradeMachine
import Agroasys.Escrow.Storage
import Agroasys.Escrow.Controls
import Agroasys.Escrow.Trades
import Agroasys.Escrow.Disputes
import Agroasys.Escrow.Rotations
import Agroasys.Escrow.Transactions
import Agroasys.Escrow.Custody
import Agroasys.Escrow.Docket
import Agroasys.Escrow.Effects
import Agroasys.Escrow.Rulings
import Agroasys.Escrow.Activity
import Agroasys.Escrow.Runs
import Agroasys.Escrow.MockUSDC
import Agroasys.Escrow.Solvency
import Agroasys.Escrow.Conservation
import Agroasys.Escrow.Containment
import Agroasys.Escrow.Timelock
import Agroasys.Escrow.OracleRotation
import Agroasys.Escrow.DisputeSlot
import Agroasys.Escrow.Quorum
import Agroasys.Escrow.Lifecycle
import Agroasys.Escrow.DisputeWindow
import Agroasys.Escrow.Recovery
import Agroasys.Escrow.Closure
import Agroasys.Escrow.Isolation
import Agroasys.Escrow.ClaimLedger
import Agroasys.Escrow.SignedOrders
import Agroasys.Escrow.Chronicle
import Agroasys.Escrow.Guards
import Agroasys.Foundry.Storage
import Agroasys.Foundry.Contract
import Agroasys.Foundry.Mirror
import Agroasys.Foundation.Process
import Agroasys.Foundation.Pool
import Agroasys.Oracle.Types
import Agroasys.Oracle.Errors
import Agroasys.Oracle.StateValidator
import Agroasys.Oracle.Queries
import Agroasys.Oracle.TriggerManager
import Agroasys.Oracle.ConfirmationWorker
import Agroasys.Oracle.Service
import Agroasys.Oracle.Roles
import Agroasys.Oracle.Records
import Agroasys.Oracle.Bench
import Agroasys.Oracle.ApprovalGate
import Agroasys.Oracle.Changes
import Agroasys.Oracle.Holders
import Agroasys.Oracle.Monotonicity
import Agroasys.Oracle.SingleFlight
import Agroasys.Oracle.Replay
import Agroasys.Oracle.RetryLoop
import Agroasys.Oracle.Onchain
import Agroasys.Oracle.Verification
import Agroasys.Oracle.Evidence
import Agroasys.Foundation.Casting
import Agroasys.Foundation.Faults
import Agroasys.Foundation.Contracts
import Agroasys.Foundation.Leases
import Agroasys.Foundation.Locks
import Agroasys.Foundation.Outcomes
import Agroasys.Foundation.Transcripts
import Agroasys.Runtime.Text
import Agroasys.Runtime.Number
import Agroasys.Runtime.Dates
import Agroasys.Runtime.Integers
import Agroasys.Runtime.Numerals
import Agroasys.Runtime.Doubles
import Agroasys.Runtime.Json
import Agroasys.Runtime.Sorting
import Agroasys.Runtime.Collections
import Agroasys.Oracle.Hmac
import Agroasys.Oracle.NonceReplay
import Agroasys.Auth.Types
import Agroasys.Auth.Store
import Agroasys.Auth.SessionService
import Agroasys.Auth.Refresh
import Agroasys.Auth.Controller
import Agroasys.Gateway.Principal
import Agroasys.Auth.Escalation
import Agroasys.Auth.Lifetimes
import Agroasys.Gateway.Idempotency
import Agroasys.Gateway.Passages
import Agroasys.Gateway.Reservations
import Agroasys.Gateway.Replays
import Agroasys.Gateway.Attribution
import Agroasys.Gateway.Audit
import Agroasys.Gateway.Compliance
import Agroasys.Gateway.Consultations
import Agroasys.Gateway.Progression
import Agroasys.Gateway.ComplianceRequests
import Agroasys.Gateway.Decisions
import Agroasys.Gateway.GovernanceStore
import Agroasys.Gateway.IntentKeys
import Agroasys.Gateway.Cursors
import Agroasys.Gateway.Pagination
import Agroasys.Gateway.DecisionOrder
import Agroasys.Gateway.OverrideWindow
import Agroasys.Indexer.Types
import Agroasys.Indexer.Handlers
import Agroasys.Indexer.Feed
import Agroasys.Indexer.Mirror
import Agroasys.Indexer.Fidelity
import Agroasys.Treasury.Store
import Agroasys.Treasury.Service
import Agroasys.Treasury.Duties
import Agroasys.Treasury.Tables
import Agroasys.Treasury.PayoutHistory
import Agroasys.Treasury.Ingestion
import Agroasys.Treasury.Traversal
import Agroasys.Reconciliation.Classifier
import Agroasys.Reconciliation.Service
import Agroasys.Reconciliation.Coverage
import Agroasys.Reconciliation.Traversal
import Agroasys.Reconciliation.Findings
import Agroasys.Reconciliation.Report
import Agroasys.Reconciliation.Attempts
import Agroasys.Reconciliation.Bookkeeping
import Agroasys.Sdk.Ethers
import Agroasys.Sdk.Addresses
import Agroasys.Sdk.BuyerSdk
import Agroasys.Sdk.SignedTrade
import Agroasys.Sdk.Acceptance
import Agroasys.Gateway.GovernanceStatus
import Agroasys.Gateway.GovernanceMutations
import Agroasys.Gateway.RouteChecks
import Agroasys.Gateway.Preflight
import Agroasys.Gateway.CallKeys
import Agroasys.Oracle.PreCheck
import Agroasys.Oracle.RetryOutcome
import Agroasys.Oracle.Exhaustion
import Agroasys.ServiceAuth.NonceStore
import Agroasys.ServiceAuth.Capacity
import Agroasys.ServiceAuth.Middleware
import Agroasys.ServiceAuth.Signatures
import Agroasys.ServiceAuth.ReplayWindow
import Agroasys.Runtime.Properties
import Agroasys.Runtime.Decimals
import Agroasys.Runtime.JsonText
import Agroasys.Runtime.Values
import Agroasys.Runtime.Buffers
import Agroasys.Ricardian.Canonicalize
import Agroasys.Ricardian.Hash
import Agroasys.Ricardian.Reproduce
import Agroasys.Ricardian.MemberOrder
import Agroasys.Ricardian.Registry
import Agroasys.Ricardian.RateLimiter
import Agroasys.Ricardian.RateWindows
import Agroasys.Notifications.Notifier
import Agroasys.Notifications.Cooldown
import Agroasys.Gateway.GovernanceQueue
import Agroasys.Gateway.GovernanceExecutor
import Agroasys.Gateway.GovernanceStages
import Agroasys.Gateway.GovernanceRecords
import Agroasys.Gateway.GovernanceAccounts
import Agroasys.Gateway.GovernanceExclusion
import Agroasys.Gateway.GovernanceJournal
import Agroasys.Gateway.GovernanceAnswers
import Agroasys.Auth.Standings
import Agroasys.Auth.Challenges
import Agroasys.Auth.Deactivation
