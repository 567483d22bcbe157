import Agroasys.Escrow.Custody
import Agroasys.Escrow.Transactions

namespace Agroasys.Escrow

open Function Agroasys.Foundation

variable {σ Op : Type}

def Event.accrual? : Event → Option Accrual
  | .claimableAccrued tradeId recipient amount claimType => some ⟨tradeId, recipient, amount, claimType⟩
  | _ => none

/-- The custodian the contract implements, read off its storage and its events. -/
def World.custody (s : World σ) : Custody where
  trades := s.trades
  tradeCounter := s.tradeCounter
  inTransitSince := s.inTransitSince
  claimable := s.claimableUsdc
  owed := s.totalClaimableUsdc
  accruals := s.events.filterMap Event.accrual?

/-- The effect of `_accrueClaimable`, which credits nothing for a zero amount. -/
def credited (tradeId : Nat) (payout : Payout) (s : World σ) : World σ :=
  { s with
    claimableUsdc :=
      update s.claimableUsdc payout.recipient (s.claimableUsdc payout.recipient + payout.amount)
    totalClaimableUsdc := s.totalClaimableUsdc + payout.amount
    events := s.events ++ if payout.amount = 0 then [] else
      [.claimableAccrued tradeId payout.recipient payout.amount payout.claimType] }

theorem accrueClaimable_eq_ok {s next : World σ} :
    accrueClaimable tradeId recipient amount claimType s = .ok next ↔
      (amount = 0 ∨ s.claimableUsdc recipient + amount < 2 ^ 256 ∧
        s.totalClaimableUsdc + amount < 2 ^ 256) ∧
        next = credited tradeId ⟨recipient, amount, claimType⟩ s := by
  by_cases zero : amount = 0
  · subst zero
    simp only [accrueClaimable, ↓reduceIte, pure_eq_ok, credited, Nat.add_zero, update_eq_self,
      List.append_nil, true_or, true_and]
    exact eq_comm
  · simp only [accrueClaimable, credited, zero, bind_eq_ok, ↓reduceIte, checkedAdd_eq_ok, pure_eq_ok,
      false_or]
    constructor
    · rintro ⟨_, ⟨fits, rfl⟩, _, ⟨total, rfl⟩, rfl⟩
      exact ⟨⟨fits, total⟩, rfl⟩
    · rintro ⟨⟨fits, total⟩, rfl⟩
      exact ⟨_, ⟨fits, rfl⟩, _, ⟨total, rfl⟩, rfl⟩

section Credited

variable (tradeId : Nat) (payout : Payout) (s : World σ)

@[simp] theorem credited_custody :
    (credited tradeId payout s).custody = s.custody.credit tradeId payout := by
  by_cases zero : payout.amount = 0 <;>
    simp [World.custody, credited, Custody.credit, Event.accrual?, zero]

end Credited

theorem emit_custody (s : World σ) (quiet : events.filterMap Event.accrual? = []) :
    (s.emit events).custody = s.custody := by
  simp [World.custody, World.emit, quiet]

/-- Parts of the state that calls on trades and claims leave alone. -/
structure Unruled (s next : World σ) : Prop where
  parameters : next.toParameters = s.toParameters
  governance : next.toGovernance = s.toGovernance

/-- Parts of the state that only dispute proposals change. -/
structure Undisputed (s next : World σ) : Prop where
  dispute : next.dispute = s.dispute
  slot : next.tradeHasActiveDisputeProposal = s.tradeHasActiveDisputeProposal
  slotId : next.tradeActiveDisputeProposalId = s.tradeActiveDisputeProposalId

/-- A trade made one of its moves. -/
structure Advanced (s : World σ) (now tradeId : Nat) (move : Move) (next : World σ) : Prop where
  unpaused : s.paused = false
  known : tradeId < s.tradeCounter
  source : (s.trades tradeId).status = move.source
  custody : next.custody = s.custody.perform s.treasuryAddress now tradeId move
  usdc : next.usdc = s.usdc
  nonces : next.nonces = s.nonces
  unruled : Unruled s next

theorem releaseFundsStage1_effect {s next : World σ}
    (success : releaseFundsStage1 msg tradeId s = .ok next) :
    Advanced s msg.timestamp tradeId .releaseFundsStage1 next ∧ Undisputed s next ∧
      msg.sender = s.oracleAddress ∧ s.oracleActive = true := by
  simp only [releaseFundsStage1, onlyOracle, onlyOracleActive, whenNotPaused, bind_eq_ok,
    require_eq_ok, exists_const, accrueClaimable_eq_ok, pure_eq_ok] at success
  obtain ⟨sender, active, unpaused, known, source, first, ⟨_, rfl⟩, second, ⟨_, rfl⟩, third,
    ⟨_, rfl⟩, rfl⟩ := success
  refine ⟨⟨unpaused, known, source, ?_, rfl, rfl, rfl, rfl⟩, ⟨rfl, rfl, rfl⟩, sender, active⟩
  rw [emit_custody _ rfl]
  simp only [credited_custody]
  rfl

theorem confirmArrival_effect {s next : World σ} (success : confirmArrival msg tradeId s = .ok next) :
    Advanced s msg.timestamp tradeId .confirmArrival next ∧ Undisputed s next ∧
      msg.sender = s.oracleAddress ∧ s.oracleActive = true := by
  simp only [confirmArrival, onlyOracle, onlyOracleActive, whenNotPaused, bind_eq_ok,
    require_eq_ok, exists_const, pure_eq_ok] at success
  obtain ⟨sender, active, unpaused, known, source, rfl⟩ := success
  refine ⟨⟨unpaused, known, source, ?_, rfl, rfl, rfl, rfl⟩, ⟨rfl, rfl, rfl⟩, sender, active⟩
  rw [emit_custody _ rfl]
  rfl

theorem openDispute_effect {s next : World σ} (success : openDispute msg tradeId s = .ok next) :
    Advanced s msg.timestamp tradeId .openDispute next ∧ Undisputed s next ∧
      (s.trades tradeId).buyerAddress = msg.sender ∧ (s.trades tradeId).disputeOpen msg.timestamp := by
  simp only [openDispute, whenNotPaused, bind_eq_ok, require_eq_ok, exists_const,
    pure_eq_ok] at success
  obtain ⟨unpaused, known, buyer, source, _, window, rfl⟩ := success
  refine ⟨⟨unpaused, known, source, ?_, rfl, rfl, rfl, rfl⟩, ⟨rfl, rfl, rfl⟩, buyer, window⟩
  rw [emit_custody _ rfl]
  -- The source leaves `inTransitSince` alone, which writes the old entry back.
  have mark : update s.inTransitSince tradeId (s.inTransitSince tradeId) = s.inTransitSince :=
    update_eq_self ..
  simp only [Custody.perform, Custody.advance, Move.payouts, Custody.creditAll_nil,
    Move.transitMark, World.custody, setStatus, mark]
  rfl

theorem finalizeAfterDisputeWindow_effect {s next : World σ}
    (success : finalizeAfterDisputeWindow msg tradeId s = .ok next) :
    Advanced s msg.timestamp tradeId .finalizeAfterDisputeWindow next ∧ Undisputed s next ∧
      (s.trades tradeId).disputeElapsed msg.timestamp := by
  simp only [finalizeAfterDisputeWindow, whenNotPaused, bind_eq_ok, require_eq_ok, exists_const,
    accrueClaimable_eq_ok, pure_eq_ok] at success
  obtain ⟨unpaused, known, source, _, window, first, ⟨_, rfl⟩, rfl⟩ := success
  refine ⟨⟨unpaused, known, source, ?_, rfl, rfl, rfl, rfl⟩, ⟨rfl, rfl, rfl⟩, window⟩
  rw [emit_custody _ rfl]
  simp only [credited_custody]
  rfl

theorem cancelLockedTradeAfterTimeout_effect {s next : World σ}
    (success : cancelLockedTradeAfterTimeout msg tradeId s = .ok next) :
    Advanced s msg.timestamp tradeId .cancelLockedTradeAfterTimeout next ∧ Undisputed s next ∧
      (s.trades tradeId).buyerAddress = msg.sender ∧
      msg.timestamp > (s.trades tradeId).createdAt + lockTimeout := by
  simp only [cancelLockedTradeAfterTimeout, whenNotPaused, bind_eq_ok, require_eq_ok, exists_const,
    accrueClaimable_eq_ok, pure_eq_ok] at success
  obtain ⟨unpaused, known, buyer, source, elapsed, first, ⟨_, rfl⟩, rfl⟩ := success
  refine ⟨⟨unpaused, known, source, ?_, rfl, rfl, rfl, rfl⟩, ⟨rfl, rfl, rfl⟩, buyer, elapsed⟩
  rw [emit_custody _ rfl, credited_custody]
  have mark : update s.inTransitSince tradeId (s.inTransitSince tradeId) = s.inTransitSince :=
    update_eq_self ..
  simp only [Custody.perform, Custody.advance, Move.payouts, Custody.creditAll_cons,
    Custody.creditAll_nil, Move.transitMark, World.custody, setStatus, mark]
  rfl

theorem refundInTransitAfterTimeout_effect {s next : World σ}
    (success : refundInTransitAfterTimeout msg tradeId s = .ok next) :
    Advanced s msg.timestamp tradeId .refundInTransitAfterTimeout next ∧ Undisputed s next ∧
      (s.trades tradeId).buyerAddress = msg.sender ∧
      msg.timestamp > s.inTransitSince tradeId + inTransitTimeout := by
  simp only [refundInTransitAfterTimeout, whenNotPaused, bind_eq_ok, require_eq_ok, exists_const,
    accrueClaimable_eq_ok, pure_eq_ok] at success
  obtain ⟨unpaused, known, buyer, source, _, elapsed, first, ⟨_, rfl⟩, rfl⟩ := success
  refine ⟨⟨unpaused, known, source, ?_, rfl, rfl, rfl, rfl⟩, ⟨rfl, rfl, rfl⟩, buyer, elapsed⟩
  rw [emit_custody _ rfl]
  simp only [credited_custody]
  rfl

/-- A trade was created and paid for. -/
structure Created (chain : Chain σ Op) (s : World σ) (msg : Message) (order : Order)
    (next : World σ) : Prop where
  unpaused : s.paused = false
  opened : s.custody.Opened msg.timestamp (order.trade s.tradeCounter msg.sender msg.timestamp)
  nonce : order.buyerNonce.toNat = s.nonces msg.sender
  deadline : msg.timestamp ≤ order.deadline.toNat
  signed : chain.recover (ethSignedHash chain s.treasuryAddress msg.sender order) order.signature =
    some msg.sender
  paid : chain.token.transferFrom s.usdc chain.self msg.sender chain.self order.totalAmount.toNat =
    .ok next.usdc
  custody : next.custody =
    s.custody.deposit (order.trade s.tradeCounter msg.sender msg.timestamp)
  nonces : next.nonces = update s.nonces msg.sender (s.nonces msg.sender + 1)

theorem safeTransferFrom_eq_ok {chain : Chain σ Op} {s next : World σ} :
    safeTransferFrom chain source amount s = .ok next ↔
      ∃ usdc, chain.token.transferFrom s.usdc chain.self source chain.self amount = .ok usdc ∧
        next = { s with usdc := usdc } := by
  unfold safeTransferFrom
  split
  · rename_i usdc moved
    simp [moved, eq_comm]
  · rename_i error failed
    simp [failed]

theorem safeTransfer_eq_ok {chain : Chain σ Op} {s next : World σ} :
    safeTransfer chain target amount s = .ok next ↔
      ∃ usdc, chain.token.transfer s.usdc chain.self target amount = .ok usdc ∧
        next = { s with usdc := usdc } := by
  unfold safeTransfer
  split
  · rename_i usdc moved
    simp [moved, eq_comm]
  · rename_i error failed
    simp [failed]

theorem verifySignature_eq_ok {chain : Chain σ Op} {s : World σ} :
    verifySignature chain msg buyer order s = .ok signer ↔ msg.timestamp ≤ order.deadline.toNat ∧
      chain.recover (ethSignedHash chain s.treasuryAddress buyer order) order.signature =
        some signer := by
  simp only [verifySignature, bind_eq_ok, require_eq_ok, exists_const]
  split
  · rename_i recovered found
    simp [found]
  · rename_i missing
    simp [missing, throw, throwThe, MonadExceptOf.throw]

theorem createTrade_effect {chain : Chain σ Op} {s next : World σ}
    (success : createTrade chain msg order s = .ok next) :
    Created chain s msg order next ∧ Undisputed s next ∧ Unruled s next := by
  simp only [createTrade, whenNotPaused, bind_eq_ok, require_eq_ok, exists_const, checkedAdd_eq_ok,
    verifySignature_eq_ok, safeTransferFrom_eq_ok, pure_eq_ok] at success
  obtain ⟨unpaused, _, _, fees, ⟨_, rfl⟩, withFirst, ⟨_, rfl⟩, totalExpected, ⟨_, rfl⟩, total,
    ⟨firstTranche, secondTranche⟩, nonce, signer, ⟨deadline, signed⟩, rfl, paidWorld,
    ⟨usdc, paid, rfl⟩, rfl⟩ := success
  have wellFormed : (order.trade s.tradeCounter msg.sender msg.timestamp).WellFormed :=
    ⟨total, firstTranche, secondTranche⟩
  refine ⟨⟨unpaused, ⟨wellFormed, rfl, rfl, rfl, rfl⟩, nonce, deadline, signed, paid, ?_, ?_⟩,
    ⟨rfl, rfl, rfl⟩, rfl, rfl⟩
  · rw [emit_custody _ rfl]
    rfl
  · simp [World.emit, nonce]

/-- A claim was paid out. -/
structure Withdrawn (chain : Chain σ Op) (s : World σ) (account receiver : Address)
    (next : World σ) : Prop where
  unpaused : s.claimsPaused = false
  positive : 0 < s.claimableUsdc account
  paid : chain.token.transfer s.usdc chain.self receiver (s.claimableUsdc account) = .ok next.usdc
  custody : next.custody = s.custody.withdraw account
  nonces : next.nonces = s.nonces

theorem claim_effect {chain : Chain σ Op} {s next : World σ} (success : claim chain msg s = .ok next) :
    Withdrawn chain s msg.sender msg.sender next ∧ Undisputed s next ∧ Unruled s next := by
  simp only [claim, whenClaimsNotPaused, bind_eq_ok, require_eq_ok, exists_const, checkedSub_eq_ok,
    safeTransfer_eq_ok, pure_eq_ok] at success
  obtain ⟨unpaused, positive, total, ⟨_, rfl⟩, paidWorld, ⟨usdc, paid, rfl⟩, rfl⟩ := success
  refine ⟨⟨unpaused, positive, paid, ?_, rfl⟩, ⟨rfl, rfl, rfl⟩, rfl, rfl⟩
  rw [emit_custody _ rfl]
  rfl

theorem claimTreasury_effect {chain : Chain σ Op} {s next : World σ}
    (success : claimTreasury chain msg s = .ok next) :
    Withdrawn chain s s.treasuryAddress s.treasuryPayoutAddress next ∧ Undisputed s next ∧
      Unruled s next := by
  simp only [claimTreasury, whenClaimsNotPaused, bind_eq_ok, require_eq_ok, exists_const,
    checkedSub_eq_ok, safeTransfer_eq_ok, pure_eq_ok] at success
  obtain ⟨unpaused, positive, _, total, ⟨_, rfl⟩, paidWorld, ⟨usdc, paid, rfl⟩, rfl⟩ := success
  refine ⟨⟨unpaused, positive, paid, ?_, rfl⟩, ⟨rfl, rfl, rfl⟩, rfl, rfl⟩
  rw [emit_custody _ rfl]
  rfl

/-- Calls that change only dispute proposals and the slots of their trades. -/
structure Undecided (s next : World σ) : Prop where
  custody : next.custody = s.custody
  usdc : next.usdc = s.usdc
  nonces : next.nonces = s.nonces
  unruled : Unruled s next

private theorem Undecided.refl (s : World σ) : Undecided s s := ⟨rfl, rfl, rfl, rfl, rfl⟩

/-- The slot of a trade is free, after cancelling an expired holder if there was
one. -/
structure Vacated (s : World σ) (now tradeId : Nat) (next : World σ) : Prop where
  undecided : Undecided s next
  slots : s.tradeHasActiveDisputeProposal tradeId = false ∧ Undisputed s next ∨
    s.tradeHasActiveDisputeProposal tradeId = true ∧
      s.dispute.expiresAt (s.tradeActiveDisputeProposalId tradeId) < now ∧
      s.dispute.cancelled (s.tradeActiveDisputeProposalId tradeId) = false ∧
      next.dispute = s.dispute.cancel (s.tradeActiveDisputeProposalId tradeId) ∧
      next.tradeHasActiveDisputeProposal = update s.tradeHasActiveDisputeProposal tradeId false ∧
      next.tradeActiveDisputeProposalId = update s.tradeActiveDisputeProposalId tradeId 0

theorem vacateDisputeSlot_effect {s next : World σ}
    (success : vacateDisputeSlot msg tradeId s = .ok next) : Vacated s msg.timestamp tradeId next := by
  cases slot : s.tradeHasActiveDisputeProposal tradeId with
  | false =>
    simp only [vacateDisputeSlot, slot, Bool.false_eq_true, ↓reduceIte, pure_eq_ok] at success
    subst success
    exact ⟨.refl s, .inl ⟨slot, rfl, rfl, rfl⟩⟩
  | true =>
    simp only [vacateDisputeSlot, slot, ↓reduceIte, bind_eq_ok, require_eq_ok, exists_const,
      pure_eq_ok] at success
    obtain ⟨⟨expired, standing⟩, rfl⟩ := success
    refine ⟨⟨?_, rfl, rfl, rfl, rfl⟩, .inr ⟨slot, expired, standing, rfl, rfl, rfl⟩⟩
    rw [emit_custody _ rfl]
    rfl

theorem recordDisputeProposal_undecided (msg : Message) (tradeId : Nat) (decision : DisputeStatus)
    (s : World σ) :
    Undecided s (recordDisputeProposal msg tradeId decision s) := by
  refine ⟨?_, rfl, rfl, rfl, rfl⟩
  unfold recordDisputeProposal
  rw [emit_custody _ rfl]
  rfl

/-- A frozen trade was settled by a proposal. -/
structure Settled (s : World σ) (now proposalId : Nat) (next : World σ) : Prop where
  pending : (s.dispute.proposals proposalId).executed = false
  standing : s.dispute.cancelled proposalId = false
  unexpired : now ≤ s.dispute.expiresAt proposalId
  quorum : s.requiredApprovals ≤ (s.dispute.proposals proposalId).approvalCount
  frozen : (s.trades (s.dispute.proposals proposalId).matter.tradeId).status = .frozen
  custody : next.custody = s.custody.perform s.treasuryAddress now
    (s.dispute.proposals proposalId).matter.tradeId
    (.executeDispute (s.dispute.proposals proposalId).matter.disputeStatus)
  dispute : next.dispute = s.dispute.execute proposalId
  slot : next.tradeHasActiveDisputeProposal =
    update s.tradeHasActiveDisputeProposal (s.dispute.proposals proposalId).matter.tradeId false
  slotId : next.tradeActiveDisputeProposalId =
    update s.tradeActiveDisputeProposalId (s.dispute.proposals proposalId).matter.tradeId 0
  usdc : next.usdc = s.usdc
  nonces : next.nonces = s.nonces
  unruled : Unruled s next

theorem executeDispute_effect {s next : World σ} (success : executeDispute msg proposalId s = .ok next) :
    Settled s msg.timestamp proposalId next := by
  simp only [executeDispute, bind_eq_ok, require_eq_ok, exists_const, accrueClaimable_eq_ok,
    pure_eq_ok] at success
  obtain ⟨pending, standing, unexpired, quorum, frozen, paid, ⟨_, rfl⟩, rfl⟩ := success
  refine ⟨pending, standing, unexpired, quorum, frozen, ?_, rfl, rfl, rfl, rfl, rfl, rfl, rfl⟩
  rw [emit_custody _ rfl]
  simp only [credited_custody]
  cases decision : (s.dispute.proposals proposalId).matter.disputeStatus <;> rfl

theorem proposeDisputeSolution_effect {s next : World σ}
    (success : proposeDisputeSolution msg tradeId decision s = .ok next) :
    s.isAdmin msg.sender = true ∧ s.paused = false ∧ tradeId < s.tradeCounter ∧
      (s.trades tradeId).status = .frozen ∧
      ∃ vacated, Vacated s msg.timestamp tradeId vacated ∧
        (next = recordDisputeProposal msg tradeId decision vacated ∨
          Settled (recordDisputeProposal msg tradeId decision vacated) msg.timestamp
            vacated.dispute.counter next) := by
  simp only [proposeDisputeSolution, onlyAdmin, whenNotPaused, bind_eq_ok, require_eq_ok,
    exists_const] at success
  obtain ⟨admin, unpaused, known, frozen, vacated, vacates, rest⟩ := success
  refine ⟨admin, unpaused, known, frozen, vacated, vacateDisputeSlot_effect vacates, ?_⟩
  split at rest
  · exact .inr (executeDispute_effect rest)
  · exact .inl (pure_eq_ok.mp rest).symm

/-- An approval as `approveDisputeSolution` records it. -/
def recordDisputeApproval (msg : Message) (proposalId : Nat) (s : World σ) : World σ :=
  { s with dispute := s.dispute.approve proposalId msg.sender }.emit
    [.disputeApproved proposalId msg.sender ((s.dispute.proposals proposalId).approvalCount + 1)
      s.requiredApprovals]

theorem recordDisputeApproval_undecided (msg : Message) (proposalId : Nat) (s : World σ) :
    Undecided s (recordDisputeApproval msg proposalId s) := by
  refine ⟨?_, rfl, rfl, rfl, rfl⟩
  unfold recordDisputeApproval
  rw [emit_custody _ rfl]
  rfl

theorem approveDisputeSolution_effect {s next : World σ}
    (success : approveDisputeSolution msg proposalId s = .ok next) :
    s.isAdmin msg.sender = true ∧ s.paused = false ∧ s.dispute.Live proposalId msg.timestamp ∧
      s.dispute.hasApproved proposalId msg.sender = false ∧
      (s.trades (s.dispute.proposals proposalId).matter.tradeId).status = .frozen ∧
      (next = recordDisputeApproval msg proposalId s ∨
        Settled (recordDisputeApproval msg proposalId s) msg.timestamp proposalId next) := by
  simp only [approveDisputeSolution, onlyAdmin, whenNotPaused, bind_eq_ok, require_eq_ok,
    exists_const] at success
  obtain ⟨admin, unpaused, known, _, pending, standing, unexpired, frozen, fresh, rest⟩ := success
  refine ⟨admin, unpaused, ⟨known, pending, standing, unexpired⟩, fresh, frozen, ?_⟩
  split at rest
  · exact .inr (executeDispute_effect rest)
  · exact .inl (pure_eq_ok.mp rest).symm

theorem cancelExpiredDisputeProposal_effect {s next : World σ}
    (success : cancelExpiredDisputeProposal msg proposalId s = .ok next) :
    s.isAdmin msg.sender = true ∧ s.paused = false ∧ proposalId < s.dispute.counter ∧
      (s.dispute.proposals proposalId).executed = false ∧ s.dispute.cancelled proposalId = false ∧
      s.dispute.expiresAt proposalId < msg.timestamp ∧ Undecided s next ∧
      next.dispute = s.dispute.cancel proposalId ∧
      (s.tradeHasActiveDisputeProposal (s.dispute.proposals proposalId).matter.tradeId = true ∧
          s.tradeActiveDisputeProposalId (s.dispute.proposals proposalId).matter.tradeId = proposalId ∧
          next.tradeHasActiveDisputeProposal = update s.tradeHasActiveDisputeProposal
            (s.dispute.proposals proposalId).matter.tradeId false ∧
          next.tradeActiveDisputeProposalId = update s.tradeActiveDisputeProposalId
            (s.dispute.proposals proposalId).matter.tradeId 0 ∨
        ¬ (s.tradeHasActiveDisputeProposal (s.dispute.proposals proposalId).matter.tradeId = true ∧
          s.tradeActiveDisputeProposalId (s.dispute.proposals proposalId).matter.tradeId = proposalId) ∧
          next.tradeHasActiveDisputeProposal = s.tradeHasActiveDisputeProposal ∧
          next.tradeActiveDisputeProposalId = s.tradeActiveDisputeProposalId) := by
  simp only [cancelExpiredDisputeProposal, onlyAdmin, whenNotPaused, bind_eq_ok, require_eq_ok,
    exists_const, pure_eq_ok] at success
  obtain ⟨admin, unpaused, known, _, pending, standing, expired, rfl⟩ := success
  refine ⟨admin, unpaused, known, pending, standing, expired, ?_⟩
  unfold releaseHeldSlot
  split
  · rename_i holds
    refine ⟨⟨?_, rfl, rfl, rfl, rfl⟩, rfl, .inl ⟨holds.1, holds.2, rfl, rfl⟩⟩
    rw [emit_custody _ rfl]
    rfl
  · rename_i other
    refine ⟨⟨?_, rfl, rfl, rfl, rfl⟩, rfl, .inr ⟨other, rfl, rfl⟩⟩
    rw [emit_custody _ rfl]
    rfl

end Agroasys.Escrow
