import Agroasys.Escrow.Types

/-! The oracle service's data: trigger rows, requests and responses, and what the
clients it uses answer. Timestamps are milliseconds. -/

namespace Agroasys.Oracle

open Agroasys.Escrow

inductive TriggerStatus where
  | pending
  | executing
  | submitted
  | confirmed
  | failed
  | exhaustedNeedsRedrive
  | terminalFailure
  | pendingApproval
  | rejected
  deriving DecidableEq, Repr

inductive TriggerType where
  | releaseStage1
  | confirmArrival
  | finalizeTrade
  deriving DecidableEq, Repr

/-- The enum's string values. -/
def TriggerType.value : TriggerType → String
  | .releaseStage1 => "RELEASE_STAGE_1"
  | .confirmArrival => "CONFIRM_ARRIVAL"
  | .finalizeTrade => "FINALIZE_TRADE"

inductive ErrorType where
  | validation
  | network
  | contract
  | terminal
  | indexerLag
  deriving DecidableEq, Repr

/-- A row of `oracle_triggers`. -/
structure Trigger where
  actionKey : String
  requestId : String
  idempotencyKey : String
  tradeId : String
  triggerType : TriggerType
  requestHash : Option String
  attemptCount : Nat
  status : TriggerStatus
  txHash : Option String
  blockNumber : Option Nat
  indexerConfirmed : Bool
  indexerEventId : Option String
  lastError : Option String
  errorType : Option ErrorType
  onChainVerified : Bool
  createdAt : Nat
  submittedAt : Option Nat
  approvedBy : Option String
  rejectedBy : Option String
  rejectionReason : Option String
  deriving DecidableEq

structure CreateTriggerData where
  actionKey : String
  requestId : String
  idempotencyKey : String
  tradeId : String
  triggerType : TriggerType
  requestHash : Option String
  status : TriggerStatus
  deriving DecidableEq

/-- The columns an update sets; the others keep their values. -/
structure UpdateTriggerData where
  status : Option TriggerStatus := none
  attemptCount : Option Nat := none
  txHash : Option String := none
  blockNumber : Option Nat := none
  indexerConfirmed : Option Bool := none
  indexerEventId : Option String := none
  lastError : Option String := none
  errorType : Option ErrorType := none
  submittedAt : Option Nat := none
  onChainVerified : Option Bool := none
  deriving DecidableEq

structure TriggerRequest where
  tradeId : String
  requestId : String
  triggerType : TriggerType
  requestHash : Option String
  isRedrive : Bool
  deriving DecidableEq

structure TriggerResponse where
  idempotencyKey : String
  actionKey : String
  requestId : String
  status : TriggerStatus
  txHash : Option String
  blockNumber : Option Nat
  message : String
  deriving DecidableEq

/-- `Trade` of the SDK, as far as the oracle reads it. The SDK's status enum is the
contract's. -/
structure Trade where
  tradeId : Nat
  buyer : Address
  status : TradeStatus
  arrivalTimestamp : Option Nat
  deriving DecidableEq

structure BlockchainResult where
  txHash : String
  blockNumber : Nat
  deriving DecidableEq

structure ConfirmationEvent where
  eventId : String
  eventName : String
  deriving DecidableEq

/-- `x || undefined`, for a string. -/
def orUndefined (text : Option String) : Option String :=
  text.filter (· ≠ "")

def generateActionKey (operation tradeId : String) : String :=
  s!"{operation}:{tradeId}"

/-- The key of one request, from its random part. -/
def generateIdempotencyKey (actionKey requestId : String) : String :=
  s!"{actionKey}:{requestId}"

/-- `calculateBackoff`, from the jitter drawn. -/
def calculateBackoff (attempt baseDelay maxDelayMs jitter : Nat) : Nat :=
  min (baseDelay * 2 ^ (attempt - 1)) maxDelayMs + jitter

/-- The bound `calculateBackoff` draws its jitter below. -/
def jitterBound (attempt baseDelay maxDelayMs maxJitterMs : Nat) : Nat :=
  min maxJitterMs (maxDelayMs - min (baseDelay * 2 ^ (attempt - 1)) maxDelayMs + 1)

end Agroasys.Oracle
