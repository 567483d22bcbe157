import Agroasys.Foundation.Ledger
import Agroasys.Escrow.TradeMachine

/-! The escrow as a custodian: it takes deposits for trades, turns reserved
amounts into claims by the moves of the trades, and pays claims out. Nothing
here knows who may call what, or when. -/

namespace Agroasys.Escrow

open Function Finset Agroasys.Foundation

structure Accrual where
  tradeId : Nat
  payout : Payout
  deriving DecidableEq

structure Custody where
  trades : Nat → Trade
  tradeCounter : Nat
  inTransitSince : Nat → Nat
  claimable : Address → Nat
  owed : Nat
  /-- Every accrual so far, oldest first. -/
  accruals : List Accrual

/-- What a step moves through the custodian's own token account. -/
structure Flow where
  received : Nat
  sent : Nat

namespace Custody

def credit (c : Custody) (tradeId : Nat) (payout : Payout) : Custody :=
  { c with
    claimable := update c.claimable payout.recipient (c.claimable payout.recipient + payout.amount)
    owed := c.owed + payout.amount
    accruals := c.accruals ++ if payout.amount = 0 then [] else [⟨tradeId, payout⟩] }

def creditAll (c : Custody) (tradeId : Nat) (payouts : List Payout) : Custody :=
  payouts.foldl (fun c payout => c.credit tradeId payout) c

def advance (c : Custody) (now tradeId : Nat) (move : Move) : Custody :=
  { c with
    trades := update c.trades tradeId (move.advance now (c.trades tradeId))
    inTransitSince := update c.inTransitSince tradeId
      (move.transitMark now (c.inTransitSince tradeId)) }

def perform (c : Custody) (treasury : Address) (now tradeId : Nat) (move : Move) : Custody :=
  (c.advance now tradeId move).creditAll tradeId (move.payouts treasury (c.trades tradeId))

def deposit (c : Custody) (trade : Trade) : Custody :=
  { c with
    trades := update c.trades c.tradeCounter trade
    tradeCounter := c.tradeCounter + 1 }

def withdraw (c : Custody) (account : Address) : Custody :=
  { c with claimable := update c.claimable account 0, owed := c.owed - c.claimable account }

/-- A trade as it is when it enters custody. -/
structure Opened (c : Custody) (now : Nat) (trade : Trade) : Prop where
  wellFormed : trade.WellFormed
  tradeId : trade.tradeId = c.tradeCounter
  status : trade.status = .locked
  createdAt : trade.createdAt = now
  arrivalTimestamp : trade.arrivalTimestamp = 0

inductive Step (treasury : Address) (now : Nat) (c : Custody) : Flow → Custody → Prop where
  | idle : Step treasury now c ⟨0, 0⟩ c
  | deposited (trade : Trade) (opened : c.Opened now trade) :
      Step treasury now c ⟨trade.totalAmountLocked, 0⟩ (c.deposit trade)
  | moved (tradeId : Nat) (move : Move) (known : tradeId < c.tradeCounter)
      (source : (c.trades tradeId).status = move.source) :
      Step treasury now c ⟨0, 0⟩ (c.perform treasury now tradeId move)
  | withdrawn (account : Address) :
      Step treasury now c ⟨0, c.claimable account⟩ (c.withdraw account)

@[simp] theorem creditAll_nil (c : Custody) (tradeId : Nat) : c.creditAll tradeId [] = c := rfl

@[simp] theorem creditAll_cons (c : Custody) (tradeId : Nat) (payout : Payout) (rest : List Payout) :
    c.creditAll tradeId (payout :: rest) = (c.credit tradeId payout).creditAll tradeId rest := rfl

@[simp] theorem creditAll_trades (c : Custody) (tradeId : Nat) (payouts : List Payout) :
    (c.creditAll tradeId payouts).trades = c.trades := by
  induction payouts generalizing c with
  | nil => rfl
  | cons payout rest ih => exact ih _

@[simp] theorem creditAll_tradeCounter (c : Custody) (tradeId : Nat) (payouts : List Payout) :
    (c.creditAll tradeId payouts).tradeCounter = c.tradeCounter := by
  induction payouts generalizing c with
  | nil => rfl
  | cons payout rest ih => exact ih _

@[simp] theorem creditAll_inTransitSince (c : Custody) (tradeId : Nat) (payouts : List Payout) :
    (c.creditAll tradeId payouts).inTransitSince = c.inTransitSince := by
  induction payouts generalizing c with
  | nil => rfl
  | cons payout rest ih => exact ih _

private theorem creditAll_owed (c : Custody) (tradeId : Nat) (payouts : List Payout) :
    (c.creditAll tradeId payouts).owed = c.owed + paidOut payouts := by
  induction payouts generalizing c with
  | nil => rfl
  | cons payout rest ih =>
    rw [creditAll_cons, ih, paidOut_cons]
    exact Nat.add_assoc ..

private theorem creditAll_holdings (c : Custody) (tradeId : Nat) (payouts : List Payout) :
    holdings (c.creditAll tradeId payouts).claimable = holdings c.claimable + paidOut payouts := by
  induction payouts generalizing c with
  | nil => simp
  | cons payout rest ih =>
    rw [creditAll_cons, ih, paidOut_cons]
    have credited := holdings_update c.claimable payout.recipient
      (c.claimable payout.recipient + payout.amount)
    simp only [credit]
    omega

theorem creditAll_accruals (c : Custody) (tradeId : Nat) (payouts : List Payout) :
    (c.creditAll tradeId payouts).accruals =
      c.accruals ++ (payouts.filter (·.amount ≠ 0)).map (⟨tradeId, ·⟩) := by
  induction payouts generalizing c with
  | nil => simp
  | cons payout rest ih =>
    rw [creditAll_cons, ih]
    by_cases zero : payout.amount = 0 <;> simp [credit, zero]

@[simp] theorem perform_trades (c : Custody) (treasury : Address) (now tradeId : Nat) (move : Move) :
    (c.perform treasury now tradeId move).trades =
      update c.trades tradeId (move.advance now (c.trades tradeId)) := by
  simp [perform, advance]

@[simp] theorem perform_tradeCounter (c : Custody) (treasury : Address) (now tradeId : Nat) (move : Move) :
    (c.perform treasury now tradeId move).tradeCounter = c.tradeCounter := by
  simp [perform, advance]

@[simp] theorem perform_inTransitSince (c : Custody) (treasury : Address) (now tradeId : Nat) (move : Move) :
    (c.perform treasury now tradeId move).inTransitSince =
      update c.inTransitSince tradeId (move.transitMark now (c.inTransitSince tradeId)) := by
  simp [perform, advance]

/-- The amounts still held for the trades themselves. -/
def reserves (c : Custody) : Nat := ∑ tradeId ∈ range c.tradeCounter, (c.trades tradeId).reserved

/-- The custodian owes exactly what its accounts may claim, and `balance` covers
that together with every reserved amount. -/
structure Solvent (c : Custody) (balance : Nat) : Prop where
  trades : ∀ tradeId, tradeId < c.tradeCounter → (c.trades tradeId).WellFormed
  ledger : c.owed = holdings c.claimable
  covered : c.owed + c.reserves ≤ balance

private theorem reserves_deposit (c : Custody) (opened : c.Opened now trade) :
    (c.deposit trade).reserves = c.reserves + trade.totalAmountLocked := by
  have absent : c.tradeCounter ∉ range c.tradeCounter := by simp
  unfold reserves deposit
  rw [sum_range_succ, sum_update_outside Trade.reserved c.trades absent]
  simp [Trade.reserved, opened.status]

private theorem reserves_perform (c : Custody) (treasury : Address) (now : Nat) (move : Move)
    (known : tradeId < c.tradeCounter) :
    (c.perform treasury now tradeId move).reserves + (c.trades tradeId).reserved =
      c.reserves + (move.advance now (c.trades tradeId)).reserved := by
  have member : tradeId ∈ range c.tradeCounter := mem_range.mpr known
  simpa [reserves] using
    sum_update Trade.reserved c.trades member (move.advance now (c.trades tradeId))

/-- Every step keeps the custodian solvent, whatever it receives beyond the
deposit and as long as it sends no more than the claim. -/
theorem Step.solvent (step : Step treasury now c flow next) (solvent : c.Solvent balance)
    (balanced : balance + flow.received ≤ after + flow.sent) : next.Solvent after := by
  have covered := solvent.covered
  cases step with
  | idle =>
    dsimp only at balanced
    exact ⟨solvent.trades, solvent.ledger, by omega⟩
  | deposited trade opened =>
    refine ⟨?_, solvent.ledger, ?_⟩
    · intro tradeId known
      by_cases same : tradeId = c.tradeCounter
      · subst same
        simpa [deposit] using opened.wellFormed
      · have old : tradeId < c.tradeCounter := by
          simp only [deposit] at known
          omega
        simpa [deposit, same] using solvent.trades tradeId old
    · rw [reserves_deposit c opened]
      simp only [deposit] at balanced ⊢
      omega
  | moved tradeId move known source =>
    dsimp only at balanced
    have conserved := move.conserves treasury now (solvent.trades tradeId known) source
    have reserved := reserves_perform c treasury now move known
    have owed : (c.perform treasury now tradeId move).owed =
        c.owed + paidOut (move.payouts treasury (c.trades tradeId)) := creditAll_owed ..
    refine ⟨?_, ?_, ?_⟩
    · intro other old
      rw [perform_tradeCounter] at old
      by_cases same : other = tradeId
      · subst same
        simpa using move.advance_wellFormed (solvent.trades other known)
      · simpa [same] using solvent.trades other old
    · have ledger := solvent.ledger
      have credited : holdings (c.perform treasury now tradeId move).claimable =
          holdings c.claimable + paidOut (move.payouts treasury (c.trades tradeId)) :=
        creditAll_holdings ..
      omega
    · omega
  | withdrawn account =>
    have ledger := solvent.ledger
    have bound := le_holdings c.claimable account
    have emptied := holdings_update c.claimable account 0
    have reserves : (c.withdraw account).reserves = c.reserves := rfl
    refine ⟨solvent.trades, ?_, ?_⟩
    · simp only [withdraw]
      omega
    · rw [reserves]
      simp only [withdraw] at balanced ⊢
      omega

end Custody

end Agroasys.Escrow
