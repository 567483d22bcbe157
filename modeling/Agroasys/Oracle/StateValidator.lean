import Agroasys.Oracle.Errors

namespace Agroasys.Oracle

open Agroasys.Escrow

/-- `TradeStatus[status]`. -/
def statusName : TradeStatus → String
  | .locked => "LOCKED"
  | .inTransit => "IN_TRANSIT"
  | .arrivalConfirmed => "ARRIVAL_CONFIRMED"
  | .frozen => "FROZEN"
  | .closed => "CLOSED"

/-- The status a trade must have for the action. -/
def TriggerType.source : TriggerType → TradeStatus
  | .releaseStage1 => .locked
  | .confirmArrival => .inTransit
  | .finalizeTrade => .arrivalConfirmed

def TriggerType.refusal : TriggerType → String
  | .releaseStage1 => "Cannot release stage 1"
  | .confirmArrival => "Cannot confirm arrival"
  | .finalizeTrade => "Cannot finalize"

/-- The status check the three validations share. -/
def validateStatus (triggerType : TriggerType) (trade : Trade) : Except Failure Unit :=
  if trade.status ≠ triggerType.source then
    .error (.validation (s!"{triggerType.refusal}: Trade {trade.tradeId} is in status " ++
      s!"{statusName trade.status}, expected {statusName triggerType.source}"))
  else .ok ()

def validateReleaseStage1 (trade : Trade) : Except Failure Unit :=
  validateStatus .releaseStage1 trade

def validateConfirmArrival (trade : Trade) : Except Failure Unit :=
  validateStatus .confirmArrival trade

def disputeWindowMs : Nat := 24 * 60 * 60 * 1000

def validateFinalizeTrade (now : Nat) (trade : Trade) : Except Failure Unit := do
  validateStatus .finalizeTrade trade
  match trade.arrivalTimestamp with
  | none => .error (.validation s!"Cannot finalize: Trade {trade.tradeId} has no arrival timestamp")
  | some arrivalTime =>
    if now ≤ arrivalTime + disputeWindowMs then
      let remainingMs := arrivalTime + disputeWindowMs - now
      let remainingHours := (remainingMs + 3599999) / 3600000
      let remainingMinutes := (remainingMs + 59999) / 60000
      .error (.validation ("Cannot finalize: Dispute window (24h) not expired. Remaining: " ++
        s!"{remainingHours}h ({remainingMinutes} minutes)"))
    else .ok ()

def validateTradeState (now : Nat) (trade : Trade) : TriggerType → Except Failure Unit
  | .releaseStage1 => validateReleaseStage1 trade
  | .confirmArrival => validateConfirmArrival trade
  | .finalizeTrade => validateFinalizeTrade now trade

/-- `/^\d+$/`. -/
def wellFormedTradeId (tradeId : String) : Bool :=
  !tradeId.toList.isEmpty && tradeId.toList.all Char.isDigit

def validateTradeId (tradeId : String) : Except Failure Unit :=
  if wellFormedTradeId tradeId then .ok ()
  else .error (.validation s!"Invalid trade ID format: {tradeId}")

/-- The check `SDKClient.getTrade` makes on what the chain returned. -/
def checkTrade (tradeId : String) (trade : Trade) : Except Failure Trade :=
  if trade.tradeId = 0 ∨ trade.buyer = .zero then
    .error (.validation s!"Trade {tradeId} does not exist on-chain")
  else .ok trade

theorem validateStatus_eq_ok : validateStatus triggerType trade = .ok () ↔
    trade.status = triggerType.source := by
  unfold validateStatus
  split <;> simp_all

end Agroasys.Oracle
