import Agroasys.Escrow.Types

/-! The purpose of a trade, apart from the contract that runs it: seven moves
between five states, each turning part of the amount reserved for the trade into
payouts. -/

namespace Agroasys.Escrow

/-- An amount credited to a recipient, and why. -/
structure Payout where
  recipient : Address
  amount : Nat
  claimType : ClaimType
  deriving DecidableEq

inductive Move where
  | releaseFundsStage1
  | confirmArrival
  | openDispute
  | finalizeAfterDisputeWindow
  | cancelLockedTradeAfterTimeout
  | refundInTransitAfterTimeout
  | executeDispute (disputeStatus : DisputeStatus)
  deriving DecidableEq

/-- The part of the locked amount still held for the trade itself. -/
def Trade.reserved (trade : Trade) : Nat :=
  match trade.status with
  | .locked => trade.totalAmountLocked
  | .inTransit | .arrivalConfirmed | .frozen => trade.supplierSecondTranche
  | .closed => 0

/-- The checks `createTrade` makes on the amounts of a trade. -/
structure Trade.WellFormed (trade : Trade) : Prop where
  total : trade.totalAmountLocked = trade.logisticsAmount + trade.platformFeesAmount +
    trade.supplierFirstTranche + trade.supplierSecondTranche
  firstTranche : 0 < trade.supplierFirstTranche
  secondTranche : 0 < trade.supplierSecondTranche

namespace Move

def source : Move → TradeStatus
  | releaseFundsStage1 | cancelLockedTradeAfterTimeout => .locked
  | confirmArrival | refundInTransitAfterTimeout => .inTransit
  | openDispute | finalizeAfterDisputeWindow => .arrivalConfirmed
  | executeDispute _ => .frozen

def target : Move → TradeStatus
  | releaseFundsStage1 => .inTransit
  | confirmArrival => .arrivalConfirmed
  | openDispute => .frozen
  | finalizeAfterDisputeWindow | cancelLockedTradeAfterTimeout | refundInTransitAfterTimeout
  | executeDispute _ => .closed

def payouts (treasury : Address) (trade : Trade) : Move → List Payout
  | releaseFundsStage1 =>
    [⟨trade.supplierAddress, trade.supplierFirstTranche, .stage1Supplier⟩,
     ⟨treasury, trade.logisticsAmount, .stage1LogisticsFee⟩,
     ⟨treasury, trade.platformFeesAmount, .stage1PlatformFee⟩]
  | confirmArrival | openDispute => []
  | finalizeAfterDisputeWindow =>
    [⟨trade.supplierAddress, trade.supplierSecondTranche, .stage2Supplier⟩]
  | cancelLockedTradeAfterTimeout =>
    [⟨trade.buyerAddress, trade.totalAmountLocked, .lockTimeoutBuyerRefund⟩]
  | refundInTransitAfterTimeout =>
    [⟨trade.buyerAddress, trade.supplierSecondTranche, .inTransitTimeoutBuyerRefund⟩]
  | executeDispute .refund =>
    [⟨trade.buyerAddress, trade.supplierSecondTranche, .disputeRefundBuyer⟩]
  | executeDispute .resolve =>
    [⟨trade.supplierAddress, trade.supplierSecondTranche, .disputeResolveSupplier⟩]

def advance (now : Nat) (trade : Trade) (move : Move) : Trade :=
  { trade with
    status := move.target
    arrivalTimestamp := match move with
      | confirmArrival => now
      | _ => trade.arrivalTimestamp }

/-- The entry of `inTransitSince` after the move. -/
def transitMark (now since : Nat) : Move → Nat
  | releaseFundsStage1 => now
  | openDispute | cancelLockedTradeAfterTimeout => since
  | confirmArrival | finalizeAfterDisputeWindow | refundInTransitAfterTimeout | executeDispute _ => 0

@[simp] theorem advance_status (move : Move) : (move.advance now trade).status = move.target := rfl

end Move

def paidOut (payouts : List Payout) : Nat := (payouts.map Payout.amount).sum

/-- What a move no longer reserves is exactly what it pays out. -/
theorem Move.conserves (move : Move) (treasury : Address) (now : Nat)
    (valid : trade.WellFormed) (source : trade.status = move.source) :
    trade.reserved = paidOut (move.payouts treasury trade) + (move.advance now trade).reserved := by
  have total := valid.total
  cases move with
  | executeDispute decision =>
    cases decision <;>
      simp [Trade.reserved, source, Move.source, Move.target, Move.payouts, Move.advance, paidOut]
  | releaseFundsStage1 =>
    simp [Trade.reserved, source, Move.source, Move.target, Move.payouts, Move.advance, paidOut]
    omega
  | _ => simp [Trade.reserved, source, Move.source, Move.target, Move.payouts, Move.advance, paidOut]

theorem Move.advance_wellFormed (move : Move) (valid : trade.WellFormed) :
    (move.advance now trade).WellFormed :=
  ⟨valid.total, valid.firstTranche, valid.secondTranche⟩

@[simp] theorem paidOut_nil : paidOut [] = 0 := rfl

@[simp] theorem paidOut_cons (payout : Payout) (rest : List Payout) :
    paidOut (payout :: rest) = payout.amount + paidOut rest := by
  simp [paidOut]

end Agroasys.Escrow
