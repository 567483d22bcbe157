import Agroasys.Oracle.Queries

namespace Agroasys.Oracle

open Agroasys.Foundation

/-- An asynchronous function of the service. -/
abbrev Job (α : Type) := Task Effect Answer Failure α

def perform (effect : Effect) : Job (Answer effect) :=
  monadLift (Program.perform effect : Program Effect Answer (Answer effect))

/-- A client's error is thrown on. -/
def await (answer : Except ForeignError α) : Job α :=
  match answer with
  | .ok value => pure value
  | .error error => throw (.foreign error)

/-- A check that is no call. -/
def check (result : Except Failure α) : Job α :=
  match result with
  | .ok value => pure value
  | .error failure => throw failure

def getLatestTriggerByActionKey (actionKey : String) : Job (Option Trigger) := do
  await (← perform (.getLatestTriggerByActionKey actionKey))

def getTriggerByIdempotencyKey (idempotencyKey : String) : Job (Option Trigger) := do
  await (← perform (.getTriggerByIdempotencyKey idempotencyKey))

def updateTrigger (idempotencyKey : String) (updates : UpdateTriggerData) : Job Unit := do
  await (← perform (.updateTrigger idempotencyKey updates))

/-- On a unique violation the latest row of the action takes the place of the new one. -/
def createTrigger (origin : Origin) (data : CreateTriggerData) : Job Trigger := do
  match ← perform (.insertTrigger origin data) with
  | .ok row => return row
  | .error error =>
    if error.code = uniqueViolation then
      match ← getLatestTriggerByActionKey data.actionKey with
      | some existing => return existing
      | none => throw (.foreign error)
    else throw (.foreign error)

/-- `SDKClient.getTrade`. -/
def getTrade (tradeId : String) : Job Trade := do
  let trade ← await (← perform (.getTrade tradeId))
  check (checkTrade tradeId trade)

/-- `StateValidator.validateTradeState`, with the clock it reads. -/
def validateState (trade : Trade) (triggerType : TriggerType) : Job Unit := do
  let now ← perform .now
  check (validateTradeState now trade triggerType)

/-- The constructor's arguments. -/
structure Settings where
  maxAttempts : Nat
  baseDelayMs : Nat
  manualApprovalEnabled : Bool

def maxBackoffMs : Nat := 30000
def maxJitterMs : Nat := 1000

section Responses

variable (trigger : Trigger) (actionKey : String)

def isActionAlreadyCompleted : Bool :=
  trigger.status = .confirmed || trigger.status = .submitted

/-- A response without a transaction. -/
def plainResponse (status : TriggerStatus) (message : String) : TriggerResponse where
  idempotencyKey := trigger.idempotencyKey
  actionKey := actionKey
  requestId := trigger.requestId
  status := status
  txHash := none
  blockNumber := none
  message := message

def completedResponse (message : String) : TriggerResponse :=
  { plainResponse trigger actionKey trigger.status message with
    txHash := orUndefined trigger.txHash
    -- A BIGINT is read as text, so that 0 is kept too.
    blockNumber := trigger.blockNumber }

def handleExistingTrigger : TriggerResponse :=
  if isActionAlreadyCompleted trigger then
    completedResponse trigger actionKey "Trigger already executed for this request (idempotent)"
  else if trigger.status = .terminalFailure then
    plainResponse trigger actionKey trigger.status
      ((orUndefined trigger.lastError).getD "Trigger failed with terminal error")
  else if trigger.status = .exhaustedNeedsRedrive then
    plainResponse trigger actionKey trigger.status
      "Trigger exhausted retries. Use re-drive endpoint to retry with on-chain verification."
  else plainResponse trigger actionKey trigger.status "Trigger in progress"

def buildResponseFromTrigger (message : String) : TriggerResponse :=
  { completedResponse trigger trigger.actionKey message with txHash := trigger.txHash }

end Responses

/-- One round of the retry loop's `try` block. -/
def attemptTrigger (trigger : Trigger) (actionKey : String) (attempt : Nat) : Job TriggerResponse := do
  perform (.logAttempt trigger.idempotencyKey attempt)
  let trade ← getTrade trigger.tradeId
  validateState trade trigger.triggerType
  updateTrigger trigger.idempotencyKey
    { status := some .executing, attemptCount := some attempt }
  let result ← await
    (← perform (.sendTransaction trigger.idempotencyKey trigger.triggerType trigger.tradeId))
  let submittedAt ← perform .now
  updateTrigger trigger.idempotencyKey
    { status := some .submitted, txHash := some result.txHash, blockNumber := some result.blockNumber,
      submittedAt := some submittedAt }
  return { plainResponse trigger actionKey .submitted "Transaction submitted, awaiting confirmation" with
    txHash := some result.txHash
    blockNumber := some result.blockNumber }

/-- The columns a failed attempt writes. -/
def failureUpdates (error : OracleError) (nextStatus : TriggerStatus) (attempt : Nat) :
    UpdateTriggerData :=
  { status := some nextStatus, attemptCount := some attempt, lastError := some error.message,
    errorType := some error.errorType }

def exhaustedMessage (settings : Settings) (error : OracleError) : String :=
  s!"Exhausted {settings.maxAttempts} attempts: {error.message}. Use re-drive endpoint to retry."

def loopExited (settings : Settings) (actionKey : String) : ForeignError :=
  let message := s!"Retry loop exited without terminal status for action {actionKey} " ++
    s!"after {settings.maxAttempts} attempts"
  ⟨message, s!"Error: {message}", none, none⟩

def waitBackoff (settings : Settings) (attempt : Nat) : Job Unit := do
  let jitter ← perform (.jitter (jitterBound attempt settings.baseDelayMs maxBackoffMs maxJitterMs))
  perform (.sleep (calculateBackoff attempt settings.baseDelayMs maxBackoffMs jitter))

/-- The retry loop from an attempt on, with the number of attempts left. -/
def retryFrom (settings : Settings) (trigger : Trigger) (actionKey : String) (attempt : Nat) :
    (remaining : Nat) → Job TriggerResponse
  | 0 => throw (.foreign (loopExited settings actionKey))
  | remaining + 1 => tryCatch (attemptTrigger trigger actionKey attempt) fun failure => do
    let error := classifyError failure
    let nextStatus := determineNextStatus error attempt settings.maxAttempts
    updateTrigger trigger.idempotencyKey (failureUpdates error nextStatus attempt)
    if nextStatus = .terminalFailure then
      return plainResponse trigger actionKey nextStatus error.message
    else if nextStatus = .exhaustedNeedsRedrive then
      return plainResponse trigger actionKey nextStatus (exhaustedMessage settings error)
    else if attempt < settings.maxAttempts ∧ error.isTerminal = false then
      waitBackoff settings attempt
      retryFrom settings trigger actionKey (attempt + 1) remaining
    else throw failure

def executeWithRetry (settings : Settings) (trigger : Trigger) (actionKey : String) :
    Job TriggerResponse :=
  retryFrom settings trigger actionKey 1 settings.maxAttempts

def createNewTrigger (origin : Origin) (request : TriggerRequest) (actionKey : String) :
    Job Trigger := do
  let idempotencyKey := generateIdempotencyKey actionKey (← perform .randomBytes)
  createTrigger origin
    { actionKey := actionKey, requestId := request.requestId, idempotencyKey := idempotencyKey,
      tradeId := request.tradeId, triggerType := request.triggerType,
      requestHash := orUndefined request.requestHash, status := .pending }

/-- The `try` block of `handleRedrive`. -/
def redrive (settings : Settings) (exhausted : Trigger) (request : TriggerRequest) :
    Job TriggerResponse := do
  let trade ← getTrade exhausted.tradeId
  validateState trade exhausted.triggerType
  let newRequestId ← perform .randomBytes
  let newIdempotencyKey := generateIdempotencyKey exhausted.actionKey (← perform .randomBytes)
  let newTrigger ← createTrigger (.redrive exhausted)
    { actionKey := exhausted.actionKey, requestId := newRequestId, idempotencyKey := newIdempotencyKey,
      tradeId := exhausted.tradeId, triggerType := exhausted.triggerType,
      requestHash := orUndefined request.requestHash, status := .pending }
  executeWithRetry settings newTrigger exhausted.actionKey

/-- A row taken as executed on the evidence of the chain. -/
def verifiedUpdates : UpdateTriggerData :=
  { status := some .confirmed, onChainVerified := some true }

def handleRedrive (settings : Settings) (exhausted : Trigger) (request : TriggerRequest) :
    Job TriggerResponse :=
  tryCatch (redrive settings exhausted request) fun failure => do
    match failure with
    | .validation _ =>
      updateTrigger exhausted.idempotencyKey verifiedUpdates
      return { plainResponse exhausted exhausted.actionKey .confirmed
          "Action already executed on-chain (verified during re-drive)" with
        txHash := orUndefined exhausted.txHash }
    | failure => throw failure

/-- The `try` block of `executeTrigger`. -/
def createAndExecute (settings : Settings) (request : TriggerRequest) (actionKey : String) :
    Job TriggerResponse := do
  let trade ← getTrade request.tradeId
  validateState trade request.triggerType
  if settings.manualApprovalEnabled = true ∧ request.isRedrive = false then
    let trigger ← createNewTrigger .approval request actionKey
    updateTrigger trigger.idempotencyKey { status := some .pendingApproval }
    return { plainResponse trigger actionKey .pendingApproval
        "Trigger created and awaiting manual approval" with
      requestId := request.requestId }
  else
    let trigger ← createNewTrigger .execution request actionKey
    executeWithRetry settings trigger actionKey

/-- `executeTrigger` once the action's latest row does not settle the request. -/
def startTrigger (settings : Settings) (request : TriggerRequest) (actionKey : String) :
    Job TriggerResponse := do
  let existingRequestIdKey := generateIdempotencyKey actionKey (← perform .randomBytes)
  match ← getTriggerByIdempotencyKey existingRequestIdKey with
  | some existingRequest => return handleExistingTrigger existingRequest actionKey
  | none =>
    tryCatch (createAndExecute settings request actionKey) fun failure =>
      if failure.missingTrade then
        throw (.validation s!"Trade {request.tradeId} does not exist on-chain: {failure.cause}")
      else throw failure

def executeTrigger (settings : Settings) (request : TriggerRequest) : Job TriggerResponse := do
  check (validateTradeId request.tradeId)
  let actionKey := generateActionKey request.triggerType.value request.tradeId
  match ← getLatestTriggerByActionKey actionKey with
  | some latest =>
    if isActionAlreadyCompleted latest then
      return completedResponse latest actionKey "Action already completed (idempotent)"
    else if request.isRedrive = true ∧ latest.status = .exhaustedNeedsRedrive then
      handleRedrive settings latest request
    else startTrigger settings request actionKey
  | none => startTrigger settings request actionKey

/-- The answer of a decision that found the row in another status, or no row. -/
def alreadyProcessed (idempotencyKey : String) : Job TriggerResponse := do
  match ← getTriggerByIdempotencyKey idempotencyKey with
  | none => throw (.validation s!"Trigger not found: {idempotencyKey}")
  | some existing => return buildResponseFromTrigger existing "Trigger already processed"

def resumeAfterApproval (settings : Settings) (idempotencyKey actor : String) :
    Job TriggerResponse := do
  match ← await (← perform (.approveTrigger idempotencyKey actor)) with
  | none => alreadyProcessed idempotencyKey
  | some updated => executeWithRetry settings updated updated.actionKey

def rejectPendingTrigger (idempotencyKey actor : String) (reason : Option String) :
    Job TriggerResponse := do
  match ← await (← perform (.rejectTrigger idempotencyKey actor reason)) with
  | none => alreadyProcessed idempotencyKey
  | some updated => return buildResponseFromTrigger updated s!"Trigger rejected by {actor}"

end Agroasys.Oracle
