import Agroasys.Oracle.ConfirmationWorker

namespace Agroasys.Oracle

open Function Agroasys.Foundation

/-- The chain, the node and the indexer, as the service sees them. -/
structure Outside (κ : Type) where
  getTrade : κ → String → Except ForeignError Trade → Prop
  sendTransaction : κ → TriggerType → String → Except ForeignError BlockchainResult → κ → Prop
  findConfirmationEvent : κ → String → String → Except ForeignError (Option ConfirmationEvent) → Prop
  moves : κ → κ → Prop

def Outside.serves (outside : Outside κ) (before : κ) (event : Event Effect Answer) (after : κ) :
    Prop :=
  match event with
  | ⟨.getTrade tradeId, answer⟩ => outside.getTrade before tradeId answer ∧ after = before
  | ⟨.sendTransaction _ triggerType tradeId, answer⟩ =>
    outside.sendTransaction before triggerType tradeId answer after
  | ⟨.findConfirmationEvent txHash tradeId, answer⟩ =>
    outside.findConfirmationEvent before txHash tradeId answer ∧ after = before
  | _ => after = before

/-- The table, the worker's `lastOnChainCheckByTradeId` and what is outside. -/
structure State (κ : Type) where
  table : Table
  checks : String → Option Nat
  chain : κ

/-- The worker's map. -/
def checksServe (before : String → Option Nat) (event : Event Effect Answer)
    (after : String → Option Nat) : Prop :=
  match event with
  | ⟨.lastOnChainCheck tradeId, answer⟩ => answer = before tradeId ∧ after = before
  | ⟨.recordOnChainCheck tradeId time, _⟩ => after = update before tradeId (some time)
  | _ => after = before

/-- Clocks, random bytes, jitter and sleep are anything. -/
def State.serves (outside : Outside κ) (before : State κ) (event : Event Effect Answer)
    (after : State κ) : Prop :=
  before.table.serves event after.table ∧ checksServe before.checks event after.checks ∧
    outside.serves before.chain event after.chain

inductive Call where
  | executeTrigger (request : TriggerRequest)
  | resumeAfterApproval (idempotencyKey actor : String)
  | rejectPendingTrigger (idempotencyKey actor : String) (reason : Option String)
  | pollConfirmations
  deriving DecidableEq

def answerCall (settings : Settings) : Call → Job (Option TriggerResponse)
  | .executeTrigger request => do return some (← executeTrigger settings request)
  | .resumeAfterApproval idempotencyKey actor => do
    return some (← resumeAfterApproval settings idempotencyKey actor)
  | .rejectPendingTrigger idempotencyKey actor reason => do
    return some (← rejectPendingTrigger idempotencyKey actor reason)
  | .pollConfirmations => do
    pollConfirmations
    return none

abbrev Result := Except Failure (Option TriggerResponse)

/-- The service over a table with any content. Between its calls the chain moves on,
and a restart may clear the worker's map. -/
def service (settings : Settings) (outside : Outside κ) :
    Server Call Effect Answer Result (State κ) where
  initial _ := True
  program call := (answerCall settings call).run
  serves := State.serves outside
  drifts before after := after.table = before.table ∧
    (after.checks = before.checks ∨ ∀ tradeId, after.checks tradeId = none) ∧
    (after.chain = before.chain ∨ outside.moves before.chain after.chain)

abbrev ServicePool (κ : Type) := Pool Effect Answer Result (State κ)
abbrev ServiceMove := Move Call Effect Answer
abbrev ServiceEntry (κ : Type) := Transition (ServicePool κ) ServiceMove
abbrev ServiceHistory (κ : Type) := History (ServicePool κ) ServiceMove

end Agroasys.Oracle
