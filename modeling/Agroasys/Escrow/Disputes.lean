import Agroasys.Escrow.Trades

namespace Agroasys.Escrow

open Function Agroasys.Foundation

variable {σ : Type}

/-- Clears the active proposal of a trade. -/
def releaseDisputeSlot (tradeId : Nat) (s : World σ) : World σ :=
  { s with
    tradeHasActiveDisputeProposal := update s.tradeHasActiveDisputeProposal tradeId false
    tradeActiveDisputeProposalId := update s.tradeActiveDisputeProposalId tradeId 0 }

/-- Cancels the expired proposal that holds the slot of a trade, if one does; a
proposal still open keeps the slot. -/
def vacateDisputeSlot (msg : Message) (tradeId : Nat) (s : World σ) : Except Revert (World σ) := do
  if s.tradeHasActiveDisputeProposal tradeId = true then
    let activeProposalId := s.tradeActiveDisputeProposalId tradeId
    require (msg.timestamp > s.dispute.expiresAt activeProposalId ∧
      s.dispute.cancelled activeProposalId = false) "active proposal exists"
    return (releaseDisputeSlot tradeId { s with dispute := s.dispute.cancel activeProposalId }).emit
      [.disputeProposalExpiredCancelled activeProposalId tradeId msg.sender]
  else return s

/-- `_executeDispute`. -/
def executeDispute (msg : Message) (proposalId : Nat) (s : World σ) : Except Revert (World σ) := do
  let proposal := s.dispute.proposals proposalId
  require (proposal.executed = false) "already executed"
  require (s.dispute.cancelled proposalId = false) "proposal cancelled"
  require (msg.timestamp ≤ s.dispute.expiresAt proposalId) "proposal expired"
  require (s.requiredApprovals ≤ proposal.approvalCount) "not enough approvals"
  let tradeId := proposal.matter.tradeId
  let trade := s.trades tradeId
  require (trade.status = .frozen) "trade must be FROZEN"
  let s := setStatus tradeId .closed { s with dispute := s.dispute.execute proposalId }
  let s := setInTransitSince tradeId 0 (releaseDisputeSlot tradeId s)
  let payoutAmount := trade.supplierSecondTranche
  let (recipient, claimType) := match proposal.matter.disputeStatus with
    | .refund => (trade.buyerAddress, ClaimType.disputeRefundBuyer)
    | .resolve => (trade.supplierAddress, ClaimType.disputeResolveSupplier)
  let s ← accrueClaimable tradeId recipient payoutAmount claimType s
  return s.emit
    [.disputePayout tradeId proposalId recipient payoutAmount proposal.matter.disputeStatus,
     .disputeFinalized proposalId tradeId proposal.matter.disputeStatus]

/-- The proposal `proposeDisputeSolution` records before it looks at the quorum. -/
def recordDisputeProposal (msg : Message) (tradeId : Nat) (disputeStatus : DisputeStatus)
    (s : World σ) : World σ :=
  { s with
    dispute := s.dispute.propose ⟨tradeId, disputeStatus⟩ msg.timestamp
      (msg.timestamp + disputeProposalTtl) msg.sender
    tradeHasActiveDisputeProposal := update s.tradeHasActiveDisputeProposal tradeId true
    tradeActiveDisputeProposalId :=
      update s.tradeActiveDisputeProposalId tradeId s.dispute.counter }.emit
    [.disputeSolutionProposed s.dispute.counter tradeId disputeStatus msg.sender]

def proposeDisputeSolution (msg : Message) (tradeId : Nat) (disputeStatus : DisputeStatus)
    (s : World σ) : Except Revert (World σ) := do
  onlyAdmin msg s
  whenNotPaused s
  require (tradeId < s.tradeCounter) "trade not found"
  require ((s.trades tradeId).status = .frozen) "trade not frozen"
  let s ← vacateDisputeSlot msg tradeId s
  let proposalId := s.dispute.counter
  let s := recordDisputeProposal msg tradeId disputeStatus s
  if s.requiredApprovals = 1 then executeDispute msg proposalId s else return s

def approveDisputeSolution (msg : Message) (proposalId : Nat) (s : World σ) :
    Except Revert (World σ) := do
  onlyAdmin msg s
  whenNotPaused s
  require (proposalId < s.dispute.counter) "proposal not found"
  let proposal := s.dispute.proposals proposalId
  require (0 < proposal.createdAt) "proposal not initialized"
  require (proposal.executed = false) "already executed"
  require (s.dispute.cancelled proposalId = false) "proposal cancelled"
  require (msg.timestamp ≤ s.dispute.expiresAt proposalId) "proposal expired"
  require ((s.trades proposal.matter.tradeId).status = .frozen) "trade not frozen"
  require (s.dispute.hasApproved proposalId msg.sender = false) "already approved"
  let s := { s with dispute := s.dispute.approve proposalId msg.sender }.emit
    [.disputeApproved proposalId msg.sender (proposal.approvalCount + 1) s.requiredApprovals]
  if s.requiredApprovals ≤ proposal.approvalCount + 1 then executeDispute msg proposalId s
  else return s

/-- Clears the slot of a trade if it is this proposal's. -/
def releaseHeldSlot (proposalId tradeId : Nat) (s : World σ) : World σ :=
  if s.tradeHasActiveDisputeProposal tradeId = true ∧
      s.tradeActiveDisputeProposalId tradeId = proposalId then releaseDisputeSlot tradeId s
  else s

def cancelExpiredDisputeProposal (msg : Message) (proposalId : Nat) (s : World σ) :
    Except Revert (World σ) := do
  onlyAdmin msg s
  whenNotPaused s
  require (proposalId < s.dispute.counter) "proposal not found"
  let proposal := s.dispute.proposals proposalId
  require (0 < proposal.createdAt) "proposal not initialized"
  require (proposal.executed = false) "already executed"
  require (s.dispute.cancelled proposalId = false) "already cancelled"
  require (msg.timestamp > s.dispute.expiresAt proposalId) "proposal not expired"
  let tradeId := proposal.matter.tradeId
  let s := releaseHeldSlot proposalId tradeId { s with dispute := s.dispute.cancel proposalId }
  return s.emit [.disputeProposalExpiredCancelled proposalId tradeId msg.sender]

end Agroasys.Escrow
