import Agroasys.Gateway.Compliance
import Agroasys.Gateway.GovernanceQueue

namespace Agroasys.Gateway

open Function Agroasys.Foundation Agroasys.Runtime

section Table

/-- The tables, the advisory locks of actions, by their `hashtext`, and nothing else. -/
structure GovernanceTables where
  actions : List GovernanceAction
  auditLog : List GovernanceAuditEntry
  locked : Int → Bool

def GovernanceTables.get (world : GovernanceTables) (actionId : String) : Option GovernanceAction :=
  world.actions.find? (·.actionId = actionId)

/-- `ON CONFLICT (action_id) DO UPDATE`. -/
def upsertAction (action : GovernanceAction) (actions : List GovernanceAction) : List GovernanceAction :=
  if actions.any (·.actionId = action.actionId) then
    actions.map fun row => if row.actionId = action.actionId then action else row
  else action :: actions

/-- A transaction that saves an action and its entry. -/
def GovernanceTables.save (world : GovernanceTables) (action : GovernanceAction) (entry : GovernanceAuditEntry) :
    GovernanceTables :=
  { world with actions := upsertAction action world.actions, auditLog := entry :: world.auditLog }

def GovernanceTables.append (world : GovernanceTables) (entry : GovernanceAuditEntry) : GovernanceTables :=
  { world with auditLog := entry :: world.auditLog }

/-- An action that keeps others of its key out of the queue. -/
def GovernanceAction.open (action : GovernanceAction) (intentKey : String) (now : Int) : Bool :=
  action.intentKey = intentKey && governanceOpenIntentStatuses.contains action.status &&
    !isExpiredRequestedGovernanceAction action now

/-- `ORDER BY created_at DESC, action_id DESC`: the first comes before the second. -/
def GovernanceAction.outranks (action other : GovernanceAction) : Bool :=
  other.createdAt < action.createdAt || (action.createdAt = other.createdAt && other.actionId < action.actionId)

def newestAction : List GovernanceAction → Option GovernanceAction
  | [] => none
  | action :: actions =>
    match newestAction actions with
    | some newest => if newest.outranks action then some newest else some action
    | none => some action

def GovernanceTables.findOpenByIntentKey (world : GovernanceTables) (intentKey : String) (now : Int) :
    Option GovernanceAction :=
  newestAction (world.actions.filter (·.open intentKey now))

/-- `ORDER BY expires_at ASC, action_id ASC`. -/
def GovernanceAction.sooner (action other : GovernanceAction) : Bool :=
  action.expiresAt.getD 0 < other.expiresAt.getD 0 ||
    (action.expiresAt.getD 0 = other.expiresAt.getD 0 && action.actionId ≤ other.actionId)

def GovernanceTables.listRequestedExpired (world : GovernanceTables) (now : Int) (limit : Nat) :
    List GovernanceAction :=
  ((world.actions.filter (isExpiredRequestedGovernanceAction · now)).insertionSort (·.sooner ·)).take limit

/-- The transaction of `saveQueuedActionWithIntentDedupe` up to its answer for an existing action. Its lock
on the key keeps others from queueing one between the look-up and the insertion. -/
def GovernanceTables.claim (world : GovernanceTables) (action : GovernanceAction) (entry : GovernanceAuditEntry)
    (now : Int) : Option String × GovernanceTables :=
  match world.findOpenByIntentKey action.intentKey now with
  | some existing => (some existing.actionId, world)
  | none => (none, world.save action entry)

end Table

section Effects

/-- What the programs wait for. `survive` is no call: it says whether the process still lives. -/
inductive GovernanceEffect where
  | now
  | randomUUID
  | lock (actionId : String)
  | unlock (actionId : String)
  | survive (actionId : String)
  | get (actionId : String)
  | claim (action : GovernanceAction) (entry : GovernanceAuditEntry) (now : Int)
  | saveAction (action : GovernanceAction) (entry : GovernanceAuditEntry)
  | appendAudit (entry : GovernanceAuditEntry)
  | listRequestedExpired (now : Int) (limit : Nat)
  | getSignerAddress
  | execute (action : GovernanceAction)
  | getGovernanceStatus
  | getUnpauseProposalState
  | getTreasuryPayoutReceiverProposalState (proposalId : Int)
  | getOracleProposalState (proposalId : Int)

abbrev GovernanceAnswer : GovernanceEffect → Type
  | .now => Int
  | .randomUUID => String
  | .lock _ | .unlock _ | .saveAction _ _ | .appendAudit _ => Except Failure Unit
  | .survive _ => Bool
  | .get _ => Except Failure (Option GovernanceAction)
  | .claim _ _ _ => Except Failure (Option String)
  | .listRequestedExpired _ _ => Except Failure (List GovernanceAction)
  | .getSignerAddress => Except Failure String
  | .execute _ => Except ExecutionError GovernanceExecutionResult
  | .getGovernanceStatus => Except Failure GovernanceStatusSnapshot
  | .getUnpauseProposalState => Except Failure UnpauseProposalState
  | .getTreasuryPayoutReceiverProposalState _ | .getOracleProposalState _ =>
    Except Failure (Option GovernanceProposalState)

/-- What the surroundings decide. -/
structure GovernanceChoice where
  fate : Fate
  now : Int
  uuid : String
  survives : Bool
  signer : Except Failure String
  execution : Except ExecutionError GovernanceExecutionResult
  status : Except Failure GovernanceStatusSnapshot
  unpause : Except Failure UnpauseProposalState
  proposal : Except Failure (Option GovernanceProposalState)

variable (hashtext : String → Int) (utc : Int → Int)

/-- A lock that another program holds is not got, and goes back when its process dies or its
connection ends. -/
def GovernanceTables.lock (world : GovernanceTables) (fate : Fate) (actionId : String) :
    Except Failure Unit × GovernanceTables :=
  if fate = .acknowledged ∧ world.locked (hashtext actionId) = false then
    (.ok (), { world with locked := update world.locked (hashtext actionId) true })
  else (.error connectionLost, world)

def GovernanceTables.release (world : GovernanceTables) (actionId : String) : GovernanceTables :=
  { world with locked := update world.locked (hashtext actionId) false }

/-- The database at READ COMMITTED, transaction by transaction, the chain and the clock. `execute` starts
an execution on chain and waits for it as long as the executor does: one that is given up goes on, and its
transaction may come later. -/
def governanceServing : Serving GovernanceChoice GovernanceEffect GovernanceAnswer GovernanceTables :=
  fun choice world effect =>
    match effect with
    | .now => (choice.now, world)
    | .randomUUID => (choice.uuid, world)
    | .lock actionId => world.lock hashtext choice.fate actionId
    | .unlock actionId => choice.fate.execute connectionLost (.ok ((), world.release hashtext actionId)) world
    | .survive actionId => (choice.survives, if choice.survives then world else world.release hashtext actionId)
    | .get actionId =>
      choice.fate.execute connectionLost (.ok ((world.get actionId).map (·.readBy utc), world)) world
    | .claim action entry now => choice.fate.execute connectionLost (.ok (world.claim action entry now)) world
    | .saveAction action entry => choice.fate.execute connectionLost (.ok ((), world.save action entry)) world
    | .appendAudit entry => choice.fate.execute connectionLost (.ok ((), world.append entry)) world
    | .listRequestedExpired now limit =>
      choice.fate.execute connectionLost
        (.ok ((world.listRequestedExpired now limit).map (·.readBy utc), world)) world
    | .getSignerAddress => (choice.signer, world)
    | .execute _ => (choice.execution, world)
    | .getGovernanceStatus => (choice.status, world)
    | .getUnpauseProposalState => (choice.unpause, world)
    | .getTreasuryPayoutReceiverProposalState _ | .getOracleProposalState _ => (choice.proposal, world)

end Effects

section Programs

abbrev GovernanceTask := Task GovernanceEffect GovernanceAnswer Failure

def askGovernance (effect : GovernanceEffect) : GovernanceTask (GovernanceAnswer effect) :=
  monadLift (Program.perform effect : Program GovernanceEffect GovernanceAnswer (GovernanceAnswer effect))

def getAction (actionId : String) : GovernanceTask (Option GovernanceAction) := do
  Task.ofExcept (← askGovernance (.get actionId))

/-- An action that has to be there. -/
def storedAction (actionId message : String) : GovernanceTask GovernanceAction := do
  match ← getAction actionId with
  | some stored => return stored
  | none => throw (.unexpected message)

def saveActionWithAudit (action : GovernanceAction) (entry : GovernanceAuditEntry) : GovernanceTask GovernanceAction := do
  Task.ofExcept (← askGovernance (.saveAction action entry))
  storedAction action.actionId ("Failed to persist governance action " ++ action.actionId)

/-- Also tells whether the action was created. -/
def saveQueuedActionWithIntentDedupe (action : GovernanceAction) (entry : GovernanceAuditEntry)
    (duplicateEntry : GovernanceAction → GovernanceAuditEntry) (now : Int) : GovernanceTask (GovernanceAction × Bool) := do
  match ← Task.ofExcept (← askGovernance (.claim action entry now)) with
  | none =>
    return (← storedAction action.actionId ("Failed to persist governance action " ++ action.actionId), true)
  | some existingActionId =>
    let storedExisting ← storedAction existingActionId
      ("Failed to load governance action " ++ existingActionId ++ " for semantic dedupe")
    Task.ofExcept (← askGovernance (.appendAudit (duplicateEntry storedExisting)))
    return (← storedAction existingActionId ("Failed to persist governance action " ++ existingActionId), false)

def queueAction (config : GovernanceQueueConfig) (input : QueueGovernanceActionInput) :
    GovernanceTask GovernanceMutationAccepted := do
  let acceptedAt ← askGovernance .now
  let actionId ← askGovernance .randomUUID
  let record := input.record config acceptedAt actionId
  let (saved, created) ← saveQueuedActionWithIntentDedupe record (input.queuedEntry actionId) input.duplicateEntry
    acceptedAt
  if created then return record.accepted
  else return ((← getAction saved.actionId).getD saved).accepted

section Executor

def internalError (message : String) : Failure :=
  .gateway ⟨500, "INTERNAL_ERROR", message⟩

def fallbackPostExecutionStatus (contractMethod : String) : Option GovernanceActionStatus :=
  if contractMethod ∈ ["proposeUnpause", "approveUnpause", "proposeTreasuryPayoutAddressUpdate",
    "approveTreasuryPayoutAddressUpdate", "proposeOracleUpdate", "approveOracleUpdate"] then some .pendingApprovals
  else none

def resolveProposalStatus (proposal : Option GovernanceProposalState) (approvalsRequired : Nat) :
    Except Failure GovernanceActionStatus :=
  match proposal with
  | none => .error (internalError "Proposal state disappeared after execution")
  | some proposal =>
    .ok (if proposal.executed then .executed
      else if proposal.cancelled then .cancelled
      else if proposal.expired then .expired
      else if approvalsRequired ≤ proposal.approvalCount then .approved else .pendingApprovals)

/-- The order of the two reads, of which none depends on the other, is one of the possible ones. -/
def resolveUnpauseApprovalStatus : GovernanceTask GovernanceActionStatus := do
  let status ← Task.ofExcept (← askGovernance .getGovernanceStatus)
  let proposal ← Task.ofExcept (← askGovernance .getUnpauseProposalState)
  if status.paused = false ∧ proposal.hasActiveProposal = false then return .executed
  else if status.governanceApprovalsRequired ≤ proposal.approvalCount then return .approved
  else return .pendingApprovals

/-- `resolvedProposalId ?? -1`. -/
def proposalNumberOr (resolvedProposalId : Option Nat) : Int :=
  (resolvedProposalId.map Int.ofNat).getD (-1)

def resolvePostExecutionStatus (contractMethod : String) (resolvedProposalId : Option Nat) :
    GovernanceTask GovernanceActionStatus := do
  if contractMethod ∈ ["pause", "pauseClaims", "unpauseClaims", "claimTreasury", "disableOracleEmergency",
      "executeTreasuryPayoutAddressUpdate", "executeOracleUpdate"] then return .executed
  else if contractMethod = "proposeUnpause" then return .pendingApprovals
  else if contractMethod = "approveUnpause" then resolveUnpauseApprovalStatus
  else if contractMethod ∈ ["cancelUnpauseProposal", "cancelExpiredTreasuryPayoutAddressUpdateProposal",
      "cancelExpiredOracleUpdateProposal"] then return .cancelled
  else if contractMethod ∈ ["proposeTreasuryPayoutAddressUpdate", "proposeOracleUpdate"] then return .pendingApprovals
  else if contractMethod = "approveTreasuryPayoutAddressUpdate" then
    let status ← Task.ofExcept (← askGovernance .getGovernanceStatus)
    let proposal ← Task.ofExcept
      (← askGovernance (.getTreasuryPayoutReceiverProposalState (proposalNumberOr resolvedProposalId)))
    Task.ofExcept (resolveProposalStatus proposal status.governanceApprovalsRequired)
  else if contractMethod = "approveOracleUpdate" then
    let status ← Task.ofExcept (← askGovernance .getGovernanceStatus)
    let proposal ← Task.ofExcept (← askGovernance (.getOracleProposalState (proposalNumberOr resolvedProposalId)))
    Task.ofExcept (resolveProposalStatus proposal status.governanceApprovalsRequired)
  else throw (internalError "Unsupported governance contract method for post-execution state resolution")

def persistFailure (request : ExecutorRequest) (existing : GovernanceAction) (executorWallet : Option String)
    (failure : Failure) : GovernanceTask GovernanceAction := do
  let executedAt ← askGovernance .now
  saveActionWithAudit (existing.failed failure executedAt) (request.failedEntry existing executorWallet failure)

def persistExecutionTimeout (request : ExecutorRequest) (existing : GovernanceAction) (executorWallet : String) :
    GovernanceTask GovernanceAction := do
  let executedAt ← askGovernance .now
  saveActionWithAudit (existing.timedOut executedAt) (request.timeoutEntry existing executorWallet)

def persistStale (request : ExecutorRequest) (existing : GovernanceAction) : GovernanceTask GovernanceAction := do
  let executedAt ← askGovernance .now
  saveActionWithAudit (existing.stale unstartedMessage executedAt) (request.staleEntry existing)

/-- The status after an execution, with what kept it from being read. -/
def finalStatus (action : GovernanceAction) (execution : GovernanceExecutionResult) :
    GovernanceTask (GovernanceActionStatus × Option Failure) :=
  tryCatch
    (do return (← resolvePostExecutionStatus action.contractMethod (execution.proposalId.or action.proposalId), none))
    fun failure =>
      match fallbackPostExecutionStatus action.contractMethod with
      | none => throw failure
      | some fallbackStatus => pure (fallbackStatus, some failure)

def persistExecution (action : GovernanceAction) (execution : GovernanceExecutionResult) :
    GovernanceTask GovernanceAction := do
  let (status, unresolved) ← finalStatus action execution
  let executedAt ← askGovernance .now
  return action.executed execution status unresolved executedAt

/-- After the checks of an action that is to be executed. -/
def startExecution (request : ExecutorRequest) (existing : GovernanceAction) (executorWallet : String) :
    GovernanceTask GovernanceAction := do
  Task.ofExcept (← askGovernance (.appendAudit (request.startedEntry existing executorWallet)))
  match ← askGovernance (.execute existing) with
  | .error .timedOut => persistExecutionTimeout request existing executorWallet
  | .error (.thrown failure) => persistFailure request existing executorWallet failure
  | .ok execution =>
    let persisted ← persistExecution existing execution
    tryCatch (saveActionWithAudit persisted (request.succeededEntry persisted executorWallet)) fun _ =>
      throw (internalError "Failed to persist executed governance action; manual reconciliation is required")

/-- The wallet that queued an approval has to be the one that signs it. -/
def checkApprover (request : ExecutorRequest) (existing : GovernanceAction) (executorWallet : String) :
    GovernanceTask Unit := do
  if isApprovalGovernanceContractMethod existing.contractMethod = true then
    if normalizeWalletAddress existing.audit.actorWallet = "" then
      throw (internalError "Queued approval action is missing the approver wallet")
    else if normalizeWalletAddress existing.audit.actorWallet ≠ normalizeWalletAddress executorWallet then
      Task.ofExcept (← askGovernance (.appendAudit (request.rejectedEntry existing executorWallet)))
      throw (.gateway ⟨409, "CONFLICT", "Executor signer does not match the queued approval approver wallet"⟩)
    else return ()
  else return ()

/-- What the executor does under the lock of an action. -/
def attemptExecution (request : ExecutorRequest) : GovernanceTask GovernanceAction := do
  match ← getAction request.actionId with
  | none => throw (.gateway ⟨404, "NOT_FOUND", "Governance action not found"⟩)
  | some existing =>
    if existing.status ≠ .requested then return existing
    else
      let now ← askGovernance .now
      if isExpiredRequestedGovernanceAction existing now then persistStale request existing
      else
        match ← askGovernance .getSignerAddress with
        | .error failure => persistFailure request existing none failure
        | .ok executorWallet =>
          checkApprover request existing executorWallet
          startExecution request existing executorWallet

/-- A process that dies under a lock goes no further. -/
def runExclusive {Value : Type} (actionId : String) (handler : GovernanceTask Value) : GovernanceTask Value := do
  Task.ofExcept (← askGovernance (.lock actionId))
  match ← monadLift (handler.run.mortal (.survive actionId) fun survives => survives) with
  | none => throw (.unexpected "The process died")
  | some result =>
    Task.ofExcept (← askGovernance (.unlock actionId))
    Task.ofExcept result

def executeAction (request : ExecutorRequest) : GovernanceTask GovernanceAction :=
  runExclusive request.actionId (attemptExecution request)

end Executor

section Cleanup

structure GovernanceCleanupResult where
  requestId : String
  applied : Bool
  staleCount : Nat
  actions : List GovernanceAction
  inspectedAt : Int

/-- The time of a cleanup, the caller's or the clock's. -/
def inspectionTime : Option Int → GovernanceTask Int
  | some now => pure now
  | none => askGovernance .now

def dryRun (time : Option Int) (limit : Nat) : GovernanceTask GovernanceCleanupResult := do
  let now ← inspectionTime time
  let actions ← Task.ofExcept (← askGovernance (.listRequestedExpired now limit))
  let uuid ← askGovernance .randomUUID
  return ⟨"cleanup-preview-" ++ uuid, false, actions.length, actions, now⟩

/-- The loop over the candidates; what it has made stale is returned in its order. -/
def applyCleanup (requestId : String) (now : Int) : List GovernanceAction → GovernanceTask (List GovernanceAction)
  | [] => return []
  | candidate :: candidates => do
    match ← getAction candidate.actionId with
    | none => applyCleanup requestId now candidates
    | some current =>
      if isExpiredRequestedGovernanceAction current now = false then applyCleanup requestId now candidates
      else
        let saved ← saveActionWithAudit (current.stale cleanedMessage now) (cleanupEntry current requestId now)
        return saved :: (← applyCleanup requestId now candidates)

def cleanup (time : Option Int) (limit : Nat) : GovernanceTask GovernanceCleanupResult := do
  let now ← inspectionTime time
  let uuid ← askGovernance .randomUUID
  let requestId := "cleanup-" ++ uuid
  let candidates ← Task.ofExcept (← askGovernance (.listRequestedExpired now limit))
  let staleActions ← applyCleanup requestId now candidates
  return ⟨requestId, true, staleActions.length, staleActions, now⟩

end Cleanup

end Programs

section Server

inductive GovernanceCall where
  | queue (input : QueueGovernanceActionInput)
  | execute (request : ExecutorRequest)
  | clean (now : Option Int) (limit : Nat)
  | preview (now : Option Int) (limit : Nat)

inductive GovernanceReply where
  | accepted (accepted : GovernanceMutationAccepted)
  | executed (action : GovernanceAction)
  | cleaned (result : GovernanceCleanupResult)

def GovernanceCall.task (config : GovernanceQueueConfig) : GovernanceCall → GovernanceTask GovernanceReply
  | .queue input => .accepted <$> queueAction config input
  | .execute request => .executed <$> executeAction request
  | .clean now limit => .cleaned <$> cleanup now limit
  | .preview now limit => .cleaned <$> dryRun now limit

/-- Gateways, executors and cleanups over one database that starts without actions, in one time zone. -/
def governanceServer (hashtext : String → Int) (utc : Int → Int) (config : GovernanceQueueConfig) :
    Server GovernanceCall GovernanceEffect GovernanceAnswer (Except Failure GovernanceReply) GovernanceTables where
  initial world := world.actions = [] ∧ world.auditLog = [] ∧ ∀ lock, world.locked lock = false
  program call := (call.task config).run
  serves := (governanceServing hashtext utc).serves
  drifts before after := after = before

abbrev GovernancePool := Pool GovernanceEffect GovernanceAnswer (Except Failure GovernanceReply) GovernanceTables
abbrev GovernanceMove := Move GovernanceCall GovernanceEffect GovernanceAnswer
abbrev GovernanceEntry := Transition GovernancePool GovernanceMove
abbrev GovernanceHistory := History GovernancePool GovernanceMove

end Server

end Agroasys.Gateway
