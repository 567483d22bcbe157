import Agroasys.Oracle.TriggerManager
import Agroasys.Runtime.Doubles

namespace Agroasys.Oracle

open Agroasys.Escrow

def hardTimeoutMs : Nat := 30 * 60 * 1000
def onChainFallbackThresholdMs : Nat := 20 * 60 * 1000
def onChainFallbackMinIntervalMs : Nat := 5 * 60 * 1000
def batchSize : Nat := 100

def shouldRunOnChainCheck (tradeId : String) (now ageMs : Nat) : Job Bool := do
  if ageMs < onChainFallbackThresholdMs then return false
  match ← perform (.lastOnChainCheck tradeId) with
  | some lastCheckedAt =>
    if now - lastCheckedAt < onChainFallbackMinIntervalMs then return false
    perform (.recordOnChainCheck tradeId now)
    return true
  | none =>
    perform (.recordOnChainCheck tradeId now)
    return true

def isTradeStateAdvanced (triggerType : TriggerType) (status : TradeStatus) : Bool :=
  match triggerType with
  | .releaseStage1 => status ≠ .locked
  | .confirmArrival => status ≠ .inTransit
  | .finalizeTrade => status ≠ .arrivalConfirmed

theorem isTradeStateAdvanced_eq (triggerType : TriggerType) (status : TradeStatus) :
    isTradeStateAdvanced triggerType status = decide (status ≠ triggerType.source) := by
  cases triggerType <;> rfl

/-- The `try` block of `tryOnChainFallback`. -/
def verifyOnChain (trigger : Trigger) : Job Bool := do
  let trade ← getTrade trigger.tradeId
  if isTradeStateAdvanced trigger.triggerType trade.status then
    updateTrigger trigger.idempotencyKey verifiedUpdates
    return true
  else return false

def tryOnChainFallback (trigger : Trigger) (now ageMs : Nat) : Job Bool := do
  if ← shouldRunOnChainCheck trigger.tradeId now ageMs then
    tryCatch (verifyOnChain trigger) fun _ => pure false
  else return false

/-- `(ageMs / 60000).toFixed(1)`, from a minute on: ties are those of the double. -/
def ageMinutes (ageMs : Nat) : String :=
  let tenths := ⌊Runtime.nearestAbove (ageMs / 60000) * 10 + 1 / 2⌋.toNat
  s!"{tenths / 10}.{tenths % 10}"

def timeoutUpdates (ageMs : Nat) : UpdateTriggerData :=
  { status := some .exhaustedNeedsRedrive
    lastError := some (s!"Confirmation timeout after {ageMinutes ageMs} minutes. " ++
      "Transaction may have failed or indexer is lagging. Re-drive will verify on-chain status.")
    errorType := some .indexerLag }

def indexedUpdates (event : ConfirmationEvent) : UpdateTriggerData :=
  { status := some .confirmed, indexerConfirmed := some true, indexerEventId := some event.eventId }

/-- The `try` block of `checkConfirmation`, for a row with a transaction. -/
def confirmTransaction (trigger : Trigger) (txHash : String) : Job Unit := do
  let now ← perform .now
  -- A row without `submitted_at` counts from the epoch, as `new Date(null)` does.
  let ageMs := now - trigger.submittedAt.getD 0
  if ← tryOnChainFallback trigger now ageMs then return ()
  if hardTimeoutMs < ageMs then
    updateTrigger trigger.idempotencyKey (timeoutUpdates ageMs)
  else
    match ← await (← perform (.findConfirmationEvent txHash trigger.tradeId)) with
    | some event => updateTrigger trigger.idempotencyKey (indexedUpdates event)
    | none => return ()

def checkConfirmation (trigger : Trigger) : Job Unit :=
  match orUndefined trigger.txHash with
  | none => return ()
  | some txHash => tryCatch (confirmTransaction trigger txHash) fun _ => return ()

/-- The loop of `pollConfirmations`. -/
def checkConfirmations : List Trigger → Job Unit
  | [] => return ()
  | trigger :: rest => do
    checkConfirmation trigger
    checkConfirmations rest

def pollConfirmations : Job Unit :=
  tryCatch
    (do
      let submittedTriggers ← await (← perform (.getTriggersByStatus .submitted batchSize))
      checkConfirmations submittedTriggers)
    fun _ => return ()

end Agroasys.Oracle
