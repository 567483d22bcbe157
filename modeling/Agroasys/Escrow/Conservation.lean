import Agroasys.Escrow.Lifecycle

namespace Agroasys.Escrow

open Function Agroasys.Foundation

/-- The claim types with which a trade closes. -/
def ClaimType.closes : ClaimType → Bool
  | stage1Supplier | stage1LogisticsFee | stage1PlatformFee => false
  | stage2Supplier | lockTimeoutBuyerRefund | inTransitTimeoutBuyerRefund | disputeRefundBuyer
  | disputeResolveSupplier => true

def ClaimType.isFee : ClaimType → Bool
  | stage1LogisticsFee | stage1PlatformFee => true
  | _ => false

/-- Who is paid by claims of a type. -/
def ClaimType.recipient (treasury : Address) (trade : Trade) : ClaimType → Address
  | stage1Supplier | stage2Supplier | disputeResolveSupplier => trade.supplierAddress
  | stage1LogisticsFee | stage1PlatformFee => treasury
  | lockTimeoutBuyerRefund | inTransitTimeoutBuyerRefund | disputeRefundBuyer => trade.buyerAddress

/-- The payouts of a move that are recorded: a zero amount is not. -/
def Move.recorded (treasury : Address) (trade : Trade) (move : Move) : List Payout :=
  (move.payouts treasury trade).filter (·.amount ≠ 0)

/-- The payouts a trade has made when it has come to its status. -/
def Trade.Paid (treasury : Address) (trade : Trade) (paid : List Payout) : Prop :=
  match trade.status with
  | .locked => paid = []
  | .inTransit | .arrivalConfirmed | .frozen => paid = Move.releaseFundsStage1.recorded treasury trade
  | .closed => paid = Move.cancelLockedTradeAfterTimeout.recorded treasury trade ∨
    ∃ move : Move, move.source ≠ .locked ∧ move.target = .closed ∧
      paid = Move.releaseFundsStage1.recorded treasury trade ++ move.recorded treasury trade

private theorem Move.recorded_advance (move : Move) (now : Nat) (other : Move) :
    other.recorded treasury (move.advance now trade) = other.recorded treasury trade := by
  cases other with
  | executeDispute decision => cases decision <;> rfl
  | _ => rfl

/-- A move appends its own payouts to those already made. -/
theorem Move.paid (move : Move) (now : Nat) (source : trade.status = move.source)
    (paid : trade.Paid treasury earlier) :
    (move.advance now trade).Paid treasury (earlier ++ move.recorded treasury trade) := by
  unfold Trade.Paid at paid ⊢
  simp only [source, advance_status, Move.recorded_advance] at paid ⊢
  cases move with
  | releaseFundsStage1 =>
    simp only [Move.source, target] at paid ⊢
    rw [paid, List.nil_append]
  | confirmArrival | openDispute =>
    simp only [Move.source, target] at paid ⊢
    simp [paid, recorded, payouts]
  | cancelLockedTradeAfterTimeout =>
    simp only [Move.source, target] at paid ⊢
    left
    rw [paid, List.nil_append]
  | finalizeAfterDisputeWindow =>
    simp only [Move.source, target] at paid ⊢
    exact .inr ⟨finalizeAfterDisputeWindow, by decide, rfl, by rw [paid]⟩
  | refundInTransitAfterTimeout =>
    simp only [Move.source, target] at paid ⊢
    exact .inr ⟨refundInTransitAfterTimeout, by decide, rfl, by rw [paid]⟩
  | executeDispute decision =>
    simp only [Move.source, target] at paid ⊢
    exact .inr ⟨executeDispute decision, by simp, rfl, by rw [paid]⟩

/-- The books of a trade balance: it has paid out all it no longer reserves, each
claim type at most once and to the right account, one closing payout when it is
closed and none before, and no fees besides a refund of the whole amount. -/
structure Trade.Balanced (treasury : Address) (trade : Trade) (paid : List Payout) : Prop where
  conserved : paidOut paid + trade.reserved = trade.totalAmountLocked
  once : (paid.map Payout.claimType).Nodup
  closing : (paid.filter (·.claimType.closes)).length = if trade.status = .closed then 1 else 0
  recipients : ∀ payout ∈ paid, payout.recipient = payout.claimType.recipient treasury trade
  unfeed : (∃ payout ∈ paid, payout.claimType = .lockTimeoutBuyerRefund) →
    ∀ payout ∈ paid, payout.claimType.isFee = false

private theorem paidOut_append (first second : List Payout) :
    paidOut (first ++ second) = paidOut first + paidOut second := by
  simp [paidOut]

private theorem paidOut_filter (payouts : List Payout) :
    paidOut (payouts.filter (·.amount ≠ 0)) = paidOut payouts := by
  induction payouts with
  | nil => rfl
  | cons payout rest ih =>
    by_cases zero : payout.amount = 0
    · simpa [zero] using ih
    · simpa [zero] using ih

/-- Dropping the zero amounts does not disturb the balance. -/
theorem Trade.Balanced.filter {trade : Trade} {payouts : List Payout}
    (balanced : trade.Balanced treasury payouts)
    (positive : ∀ payout ∈ payouts, payout.claimType.closes = true → payout.amount ≠ 0) :
    trade.Balanced treasury (payouts.filter (·.amount ≠ 0)) := by
  have kept : payouts.filter (·.amount ≠ 0) ⊆ payouts := List.filter_sublist.subset
  constructor
  · rw [paidOut_filter]
    exact balanced.conserved
  · exact balanced.once.sublist (List.filter_sublist.map _)
  · rw [← balanced.closing, List.filter_filter]
    congr 1
    apply List.filter_congr
    intro payout member
    cases closes : payout.claimType.closes with
    | false => rfl
    | true => simpa using positive payout member closes
  · intro payout member
    exact balanced.recipients payout (kept member)
  · rintro ⟨refund, member, type⟩ payout among
    exact balanced.unfeed ⟨refund, kept member, type⟩ payout (kept among)

/-- A well formed trade that has paid what its status says is balanced. -/
theorem Trade.Paid.balanced {trade : Trade} {payouts : List Payout}
    (paid : trade.Paid treasury payouts) (valid : trade.WellFormed) :
    trade.Balanced treasury payouts := by
  obtain ⟨total, firstTranche, secondTranche⟩ := valid
  have released : trade.status ≠ .closed → trade.reserved = trade.supplierSecondTranche →
      trade.Balanced treasury (Move.releaseFundsStage1.recorded treasury trade) := by
    intro open_ reserved
    apply Trade.Balanced.filter
    · constructor
      · simp only [Move.payouts, paidOut_cons, paidOut_nil, reserved]
        omega
      · simp [Move.payouts]
      · simp [Move.payouts, ClaimType.closes, open_]
      · simp [Move.payouts, ClaimType.recipient]
      · simp [Move.payouts]
    · simp [Move.payouts, ClaimType.closes]
  unfold Trade.Paid at paid
  cases status : trade.status with
  | locked =>
    simp only [status] at paid
    subst paid
    constructor <;> simp [Trade.reserved, status]
  | inTransit | arrivalConfirmed | frozen =>
    simp only [status] at paid
    subst paid
    exact released (by simp [status]) (by simp [Trade.reserved, status])
  | closed =>
    simp only [status] at paid
    rcases paid with refunded | ⟨move, source, target, closed⟩
    · subst refunded
      apply Trade.Balanced.filter
      · constructor <;>
          simp [Move.payouts, Trade.reserved, status, ClaimType.closes, ClaimType.recipient,
            ClaimType.isFee]
      · simp only [Move.payouts, List.forall_mem_singleton]
        omega
    · have joined : payouts = (Move.releaseFundsStage1.payouts treasury trade ++
          move.payouts treasury trade).filter (·.amount ≠ 0) := by
        rw [closed, List.filter_append]
        rfl
      subst joined
      have single : ∃ payout, move.payouts treasury trade = [payout] ∧
          payout.amount = trade.supplierSecondTranche ∧ payout.claimType.closes = true ∧
          payout.recipient = payout.claimType.recipient treasury trade ∧
          payout.claimType ≠ .lockTimeoutBuyerRefund ∧ payout.claimType.isFee = false := by
        cases move with
        | executeDispute decision => cases decision <;> exact ⟨_, rfl, rfl, rfl, rfl, by simp, rfl⟩
        | finalizeAfterDisputeWindow | refundInTransitAfterTimeout =>
          exact ⟨_, rfl, rfl, rfl, rfl, by simp, rfl⟩
        | cancelLockedTradeAfterTimeout => exact absurd rfl source
        | _ => cases target
      obtain ⟨payout, only, amount, closes, recipient, ordinary, unfeed⟩ := single
      have distinct : payout.claimType ≠ .stage1Supplier ∧ payout.claimType ≠ .stage1LogisticsFee ∧
          payout.claimType ≠ .stage1PlatformFee := by
        refine ⟨?_, ?_, ?_⟩ <;>
          (intro same
           simp [same, ClaimType.closes] at closes)
      rw [only]
      apply Trade.Balanced.filter
      · constructor
        · simp only [Move.payouts, paidOut_append, paidOut_cons, paidOut_nil, amount, Trade.reserved,
            status]
          omega
        · simp [Move.payouts, distinct.1.symm, distinct.2.1.symm, distinct.2.2.symm]
        · have open_ : (Move.releaseFundsStage1.payouts treasury trade).filter (·.claimType.closes) = [] :=
            rfl
          rw [List.filter_append, open_]
          simp [closes, status]
        · simp [Move.payouts, ClaimType.recipient, recipient]
        · simp [Move.payouts, ordinary]
      · simp [Move.payouts, ClaimType.closes, amount]
        omega

namespace Custody

/-- The payouts recorded for a trade, oldest first. -/
def paid (c : Custody) (tradeId : Nat) : List Payout :=
  (c.accruals.filter fun accrual => accrual.tradeId = tradeId).map Accrual.payout

/-- Every trade has paid what its status says, and unknown trades nothing. -/
structure Accounted (c : Custody) (treasury : Address) : Prop where
  wellFormed : ∀ tradeId, tradeId < c.tradeCounter → (c.trades tradeId).WellFormed
  paid : ∀ tradeId, tradeId < c.tradeCounter → (c.trades tradeId).Paid treasury (c.paid tradeId)
  unpaid : ∀ tradeId, c.tradeCounter ≤ tradeId → c.paid tradeId = []

private theorem perform_paid (c : Custody) (treasury : Address) (now tradeId : Nat) (move : Move)
    (other : Nat) : (c.perform treasury now tradeId move).paid other =
      if other = tradeId then c.paid other ++ move.recorded treasury (c.trades tradeId)
      else c.paid other := by
  have accruals : (c.perform treasury now tradeId move).accruals =
      c.accruals ++ (move.recorded treasury (c.trades tradeId)).map (⟨tradeId, ·⟩) :=
    creditAll_accruals ..
  unfold paid
  rw [accruals, List.filter_append, List.map_append]
  by_cases same : other = tradeId
  · subst same
    simp [List.filter_map, Function.comp_def]
  · simp [List.filter_map, Function.comp_def, same, Ne.symm same]

@[simp] theorem deposit_paid (c : Custody) (trade : Trade) : (c.deposit trade).paid = c.paid := rfl

/-- Every step keeps the trades accounted for. -/
theorem Step.accounted (step : Step treasury now c flow next) (accounted : c.Accounted treasury) :
    next.Accounted treasury := by
  obtain ⟨wellFormed, paid, unpaid⟩ := accounted
  cases step with
  | idle => exact ⟨wellFormed, paid, unpaid⟩
  | withdrawn => exact ⟨wellFormed, paid, unpaid⟩
  | deposited trade opened =>
    constructor
    · intro tradeId known
      by_cases same : tradeId = c.tradeCounter
      · subst same
        simpa [deposit] using opened.wellFormed
      · have old : tradeId < c.tradeCounter := by
          simp only [deposit] at known
          omega
        simpa [deposit, same] using wellFormed tradeId old
    · intro tradeId known
      by_cases same : tradeId = c.tradeCounter
      · subst same
        rw [deposit_paid, unpaid c.tradeCounter le_rfl]
        simp [deposit, Trade.Paid, opened.status]
      · have old : tradeId < c.tradeCounter := by
          simp only [deposit] at known
          omega
        rw [deposit_paid]
        simpa [deposit, same] using paid tradeId old
    · intro tradeId beyond
      exact unpaid tradeId (Nat.le_of_succ_le beyond)
  | moved tradeId move known source =>
    constructor
    · intro other old
      rw [perform_tradeCounter] at old
      rw [perform_trades]
      by_cases same : other = tradeId
      · subst same
        rw [update_self]
        exact move.advance_wellFormed (wellFormed other old)
      · rw [update_of_ne same]
        exact wellFormed other old
    · intro other old
      rw [perform_tradeCounter] at old
      rw [perform_trades, perform_paid]
      by_cases same : other = tradeId
      · subst same
        rw [update_self, if_pos rfl]
        exact move.paid now source (paid other old)
      · rw [update_of_ne same, if_neg same]
        exact paid other old
    · intro other beyond
      rw [perform_tradeCounter] at beyond
      rw [perform_paid, if_neg (known.trans_le beyond).ne']
      exact unpaid other beyond

end Custody

variable {σ Op : Type} {chain : Chain σ Op}

private theorem run_accounted (run : (escrowSystem chain).Run history s) :
    s.custody.Accounted s.treasuryAddress := by
  apply run_invariant run
  · intro config origin deployed
    obtain ⟨_, _, rfl⟩ := deployed.world
    constructor
    · intro tradeId known
      exact absurd known (Nat.not_lt_zero _)
    · intro tradeId known
      exact absurd known (Nat.not_lt_zero _)
    · intro tradeId _
      rfl
  · intro s action next _ transacted accounted
    cases transacted with
    | called msg call _ _ activity parameters =>
      obtain ⟨flow, step⟩ := activity.custody_step
      rw [parameters]
      exact step.accounted accounted
    | foreign => exact accounted

/-- In every reachable state the books of every trade balance; a closed trade has
paid out exactly what was locked for it. -/
theorem trade_conservation (run : (escrowSystem chain).Run history s) (known : tradeId < s.tradeCounter) :
    (s.trades tradeId).Balanced s.treasuryAddress (s.custody.paid tradeId) ∧
      ((s.trades tradeId).status = .closed →
        paidOut (s.custody.paid tradeId) = (s.trades tradeId).totalAmountLocked) := by
  have accounted := run_accounted run
  have balanced := (accounted.paid tradeId known).balanced (accounted.wellFormed tradeId known)
  refine ⟨balanced, fun closed => ?_⟩
  have conserved : paidOut (s.custody.paid tradeId) + (s.trades tradeId).reserved =
      (s.trades tradeId).totalAmountLocked := balanced.conserved
  simpa [Trade.reserved, closed] using conserved

open Mock in
theorem finalizedTrade_conservation : ∃ s, scenario (config [admin1, admin2] 1)
    [call buyer 1 (.createTrade order), call oracle 2 (.releaseFundsStage1 0),
      call oracle 3 (.confirmArrival 0), call supplier 90000 (.finalizeAfterDisputeWindow 0)] = some s ∧
      (s.trades 0).Balanced s.treasuryAddress (s.custody.paid 0) ∧ paidOut (s.custody.paid 0) = 100 := by
  have outcome : (scenario (config [admin1, admin2] 1) [call buyer 1 (.createTrade order),
      call oracle 2 (.releaseFundsStage1 0), call oracle 3 (.confirmArrival 0),
      call supplier 90000 (.finalizeAfterDisputeWindow 0)]).map (fun s =>
        (s.tradeCounter, (s.trades 0).status, (s.trades 0).totalAmountLocked)) = some (1, .closed, 100) := by
    decide +kernel
  obtain ⟨s, reached, facts⟩ := Option.map_eq_some_iff.mp outcome
  obtain ⟨history, run⟩ := scenario_run reached
  simp only [Prod.mk.injEq] at facts
  obtain ⟨counter, closed, total⟩ := facts
  have known : 0 < s.tradeCounter := by omega
  obtain ⟨balanced, paid⟩ := trade_conservation run known
  exact ⟨s, reached, balanced, (paid closed).trans total⟩

end Agroasys.Escrow
