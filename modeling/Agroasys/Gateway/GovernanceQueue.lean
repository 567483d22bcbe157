import Agroasys.Foundation.Faults
import Agroasys.Foundation.Locks
import Agroasys.Gateway.CallKeys
import Agroasys.Runtime.Dates
import Mathlib.Data.List.Sort

/-! The queue of governance actions: the table and its stores, what the gateway queues, and what the
executor and the cleanup make of it. -/

namespace Agroasys.Gateway

open Function Agroasys.Foundation Agroasys.Runtime Agroasys.Auth

section Actions

def GovernanceActionStatus.value : GovernanceActionStatus → String
  | .requested => "requested"
  | .submitted => "submitted"
  | .pendingApprovals => "pending_approvals"
  | .approved => "approved"
  | .executed => "executed"
  | .cancelled => "cancelled"
  | .expired => "expired"
  | .stale => "stale"
  | .failed => "failed"

def governanceOpenIntentStatuses : List GovernanceActionStatus :=
  [.requested, .submitted, .pendingApprovals, .approved]

/-- A `GovernanceActionRecord` and its row. The dates of a record are instants; those of a row are what
is written into a `TIMESTAMP` column, the wall clocks of these instants in UTC. -/
structure GovernanceAction where
  actionId : String
  intentKey : String
  proposalId : Option Nat
  category : GovernanceActionCategory
  status : GovernanceActionStatus
  contractMethod : String
  txHash : Option String
  extrinsicHash : Option String
  blockNumber : Option Nat
  tradeId : Option String
  chainId : Option String
  targetAddress : Option String
  createdAt : Int
  expiresAt : Option Int
  executedAt : Option Int
  requestId : String
  correlationId : Option String
  errorCode : Option String
  errorMessage : Option String
  audit : AuditRecord
  deriving DecidableEq

/-- `mapRow`: the columns have no zone, and the process takes their wall clocks for local times, whose
instants `utc` gives. -/
def GovernanceAction.readBy (utc : Int → Int) (row : GovernanceAction) : GovernanceAction :=
  { row with
    createdAt := utc row.createdAt
    expiresAt := row.expiresAt.map utc
    executedAt := row.executedAt.map utc
    audit := { row.audit with createdAt := utc row.createdAt } }

@[simp] theorem readBy_actionId (utc : Int → Int) (row : GovernanceAction) :
    (row.readBy utc).actionId = row.actionId := rfl

@[simp] theorem readBy_intentKey (utc : Int → Int) (row : GovernanceAction) :
    (row.readBy utc).intentKey = row.intentKey := rfl

@[simp] theorem readBy_status (utc : Int → Int) (row : GovernanceAction) :
    (row.readBy utc).status = row.status := rfl

def isExpiredRequestedGovernanceAction (action : GovernanceAction) (now : Int) : Bool :=
  action.status = .requested && action.expiresAt.any (· ≤ now)

/-- An entry of `audit_log`; the executor and the cleanup are no users. -/
structure GovernanceAuditEntry where
  eventType : String
  route : String
  method : String
  requestId : String
  correlationId : Option String
  actorUserId : Option String
  actorWalletAddress : Option String
  actorRole : Option String
  status : String
  metadata : List (String × MetadataValue)
  deriving DecidableEq

/-- An entry of a user. -/
def AuditLogEntry.ofUser (entry : AuditLogEntry) : GovernanceAuditEntry where
  eventType := entry.eventType
  route := entry.route
  method := entry.method
  requestId := entry.requestId
  correlationId := entry.correlationId
  actorUserId := some entry.actorUserId
  actorWalletAddress := some entry.actorWalletAddress
  actorRole := some entry.actorRole
  status := entry.status
  metadata := entry.metadata

def MetadataValue.ofNumber : Option Nat → MetadataValue
  | some value => .number value
  | none => .null

end Actions

section Queueing

structure GovernanceQueueConfig where
  chainId : ChainId
  governanceQueueTtlSeconds : Nat

structure QueueGovernanceActionInput extends QueuedAction where
  tradeId : Option String
  audit : MutationAuditInput
  context : MutationContext
  deriving DecidableEq

/-- What the key of an action is built of. -/
def QueueGovernanceActionInput.intent (config : GovernanceQueueConfig) (input : QueueGovernanceActionInput) :
    GovernanceIntent where
  category := input.category
  contractMethod := input.contractMethod
  proposalId := input.proposalId.map Int.ofNat
  targetAddress := input.targetAddress
  tradeId := input.tradeId
  chainId := some (.text config.chainId.write)
  approverWallet := some input.context.principal.session.walletAddress

/-- The record that `queueAction` saves. -/
def QueueGovernanceActionInput.record (config : GovernanceQueueConfig) (input : QueueGovernanceActionInput)
    (acceptedAt : Int) (actionId : String) : GovernanceAction where
  actionId := actionId
  intentKey := buildGovernanceIntentKey (input.intent config)
  proposalId := input.proposalId
  category := input.category
  status := .requested
  contractMethod := input.contractMethod
  txHash := none
  extrinsicHash := none
  blockNumber := none
  tradeId := input.tradeId
  chainId := some config.chainId.write
  targetAddress := input.targetAddress
  createdAt := acceptedAt
  expiresAt := some (acceptedAt + config.governanceQueueTtlSeconds * 1000)
  executedAt := none
  requestId := input.context.requestContext.requestId
  correlationId := some input.context.requestContext.correlationId
  errorCode := none
  errorMessage := none
  audit := buildAuditRecord input.audit input.context acceptedAt

def QueueGovernanceActionInput.queuedEntry (input : QueueGovernanceActionInput) (actionId : String) :
    GovernanceAuditEntry :=
  (auditLogEntry "governance.action.queued" "requested" input.context
    [("actionId", .text actionId), ("category", .text input.category.value),
      ("proposalId", .ofNumber input.proposalId), ("targetAddress", .ofOption input.targetAddress),
      ("idempotencyKey", .text input.context.idempotencyKey)]).ofUser

def QueueGovernanceActionInput.duplicateEntry (input : QueueGovernanceActionInput) (existing : GovernanceAction) :
    GovernanceAuditEntry :=
  (auditLogEntry "governance.action.duplicate_reused" existing.status.value input.context
    [("actionId", .text existing.actionId), ("category", .text existing.category.value),
      ("proposalId", .ofNumber existing.proposalId), ("targetAddress", .ofOption existing.targetAddress),
      ("intentKey", .text existing.intentKey), ("idempotencyKey", .text input.context.idempotencyKey)]).ofUser

structure GovernanceMutationAccepted where
  actionId : String
  intentKey : String
  proposalId : Option Nat
  category : GovernanceActionCategory
  status : GovernanceActionStatus
  acceptedAt : Int
  expiresAt : Option Int
  deriving DecidableEq

def GovernanceAction.accepted (stored : GovernanceAction) : GovernanceMutationAccepted where
  actionId := stored.actionId
  intentKey := stored.intentKey
  proposalId := stored.proposalId
  category := stored.category
  status := stored.status
  acceptedAt := stored.createdAt
  expiresAt := stored.expiresAt

end Queueing

section Outcomes

/-- What an executor is asked to execute, and by which request. -/
structure ExecutorRequest where
  actionId : String
  requestId : String
  correlationId : Option String
  deriving DecidableEq

structure GovernanceExecutionResult where
  txHash : String
  blockNumber : Nat
  proposalId : Option Nat
  deriving DecidableEq

/-- How an execution on chain fails: `withTimeout` gives it up, or it throws. -/
inductive ExecutionError where
  | timedOut
  | thrown (failure : Failure)
  deriving DecidableEq

def ExecutionError.failure : ExecutionError → Failure
  | .timedOut =>
    .gateway ⟨503, "UPSTREAM_UNAVAILABLE", "Timed out while executing queued governance action"⟩
  | .thrown failure => failure

/-- `error.message`. -/
def Failure.text : Failure → String
  | .gateway error => error.message
  | .unexpected message => message

/-- `slice(0, 1000)`. -/
def sliced (text : String) : String :=
  String.ofList (text.toList.take 1000)

/-- The message of `sanitizeError`, whose code is always `EXECUTION_FAILED`. -/
def sanitizeError (failure : Failure) : String :=
  let trimmed := sliced (trim failure.text)
  if trimmed = "" then "Unknown execution error" else trimmed

/-- The record of `buildStaleRecord` and of `persistStale`. -/
def GovernanceAction.stale (action : GovernanceAction) (message : String) (executedAt : Int) : GovernanceAction :=
  { action with
    status := .stale
    errorCode := some "QUEUE_EXPIRED"
    errorMessage := some message
    executedAt := some executedAt }

def cleanedMessage : String := "Governance action exceeded the requested queue TTL before execution"
def unstartedMessage : String := "Governance action expired in the queue before execution started"

def GovernanceAction.failed (action : GovernanceAction) (failure : Failure) (executedAt : Int) : GovernanceAction :=
  { action with
    status := .failed
    errorCode := some "EXECUTION_FAILED"
    errorMessage := some (sanitizeError failure)
    executedAt := some executedAt }

def GovernanceAction.timedOut (action : GovernanceAction) (executedAt : Int) : GovernanceAction :=
  { action with
    status := .submitted
    errorCode := some "EXECUTION_TIMEOUT"
    errorMessage := some (sanitizeError ExecutionError.timedOut.failure)
    executedAt := some executedAt }

/-- What `persistExecution` makes of an action, `unresolved` being why its status is a guess. -/
def GovernanceAction.executed (action : GovernanceAction) (execution : GovernanceExecutionResult)
    (status : GovernanceActionStatus) (unresolved : Option Failure) (executedAt : Int) : GovernanceAction :=
  { action with
    proposalId := execution.proposalId.or action.proposalId
    status := status
    txHash := some execution.txHash
    blockNumber := some execution.blockNumber
    executedAt := some executedAt
    errorCode := unresolved.map fun _ => "STATUS_RECONCILIATION_REQUIRED"
    errorMessage := unresolved.map fun failure =>
      sliced ("Executed on-chain but failed to resolve final status: " ++ sanitizeError failure) }

def ExecutorRequest.entry (request : ExecutorRequest) (eventType status : String) (executorWallet : Option String)
    (metadata : List (String × MetadataValue)) : GovernanceAuditEntry where
  eventType := eventType
  route := "/internal/executor/governance-actions/:actionId"
  method := "EXECUTE"
  requestId := request.requestId
  correlationId := request.correlationId
  actorUserId := none
  actorWalletAddress := executorWallet
  actorRole := some "executor"
  status := status
  metadata := metadata

def normalizeWalletAddress (value : String) : String :=
  toLowerCase (trim value)

def ExecutorRequest.rejectedEntry (request : ExecutorRequest) (existing : GovernanceAction) (executorWallet : String) :
    GovernanceAuditEntry :=
  request.entry "governance.action.execution.rejected" existing.status.value executorWallet
    [("actionId", .text request.actionId), ("contractMethod", .text existing.contractMethod),
      ("expectedApproverWallet", .text (normalizeWalletAddress existing.audit.actorWallet)),
      ("executorWallet", .text executorWallet), ("reasonCode", .text "EXECUTOR_SIGNER_MISMATCH")]

def ExecutorRequest.startedEntry (request : ExecutorRequest) (existing : GovernanceAction) (executorWallet : String) :
    GovernanceAuditEntry :=
  request.entry "governance.action.execution.started" "started" executorWallet
    [("actionId", .text request.actionId), ("category", .text existing.category.value),
      ("contractMethod", .text existing.contractMethod)]

def ExecutorRequest.staleEntry (request : ExecutorRequest) (existing : GovernanceAction) : GovernanceAuditEntry :=
  request.entry "governance.action.execution.stale" "stale" none
    [("actionId", .text existing.actionId), ("intentKey", .text existing.intentKey),
      ("expiresAt", .ofOption (existing.expiresAt.map toISOString)), ("errorCode", .text "QUEUE_EXPIRED")]

def ExecutorRequest.failedEntry (request : ExecutorRequest) (existing : GovernanceAction)
    (executorWallet : Option String) (failure : Failure) : GovernanceAuditEntry :=
  request.entry "governance.action.execution.failed" "failed" executorWallet
    [("actionId", .text existing.actionId), ("errorCode", .text "EXECUTION_FAILED"),
      ("errorMessage", .text (sanitizeError failure))]

def ExecutorRequest.timeoutEntry (request : ExecutorRequest) (existing : GovernanceAction) (executorWallet : String) :
    GovernanceAuditEntry :=
  request.entry "governance.action.execution.timeout" "submitted" executorWallet
    [("actionId", .text existing.actionId), ("errorCode", .text "EXECUTION_TIMEOUT"),
      ("errorMessage", .text (sanitizeError ExecutionError.timedOut.failure)), ("outcome", .text "unknown")]

def ExecutorRequest.succeededEntry (request : ExecutorRequest) (persisted : GovernanceAction)
    (executorWallet : String) : GovernanceAuditEntry :=
  request.entry "governance.action.execution.succeeded" persisted.status.value executorWallet
    [("actionId", .text request.actionId), ("txHash", .ofOption persisted.txHash),
      ("blockNumber", .ofNumber persisted.blockNumber), ("proposalId", .ofNumber persisted.proposalId),
      ("errorCode", .ofOption persisted.errorCode), ("errorMessage", .ofOption persisted.errorMessage)]

/-- The entry of `buildAuditEntry` in the cleanup. -/
def cleanupEntry (action : GovernanceAction) (requestId : String) (inspectedAt : Int) : GovernanceAuditEntry where
  eventType := "governance.action.cleanup.stale"
  route := "/internal/cleanup/governance-actions"
  method := "CLEANUP"
  requestId := requestId
  correlationId := some requestId
  actorUserId := none
  actorWalletAddress := none
  actorRole := some "system"
  status := "stale"
  metadata := [("actionId", .text action.actionId), ("intentKey", .text action.intentKey),
    ("inspectedAt", .text (toISOString inspectedAt)), ("expiresAt", .ofOption (action.expiresAt.map toISOString)),
    ("reasonCode", .text "QUEUE_EXPIRED")]

end Outcomes

end Agroasys.Gateway
