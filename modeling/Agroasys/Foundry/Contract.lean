import Agroasys.Foundry.Storage

/-! The functions of the copy, written out from its own source. With the production
contract they share the types, the signed message and the helpers of one proposal
book, whose text is the same in both files. -/

namespace Agroasys.Foundry

open Function Agroasys.Foundation Agroasys.Escrow

variable {σ Op : Type}

/-! Pause switches, the unpause quorum and the emergency oracle switch. -/

def pause (msg : Message) (s : World σ) : Except Revert (World σ) := do
  onlyAdmin msg s
  require (s.paused = false) "already paused"
  return { s with paused := true }.emit [.paused msg.sender]

def pauseClaims (msg : Message) (s : World σ) : Except Revert (World σ) := do
  onlyAdmin msg s
  require (s.claimsPaused = false) "claims already paused"
  return { s with claimsPaused := true }.emit [.claimsPaused msg.sender]

def unpauseClaims (msg : Message) (s : World σ) : Except Revert (World σ) := do
  onlyAdmin msg s
  require (s.claimsPaused = true) "claims not paused"
  return { s with claimsPaused := false }.emit [.claimsUnpaused msg.sender]

/-- `_cancelUnpauseProposal`. -/
def cancelUnpause (msg : Message) (s : World σ) : World σ :=
  { s with
    unpauseHasApproved := clearApprovals s.admins s.unpauseHasApproved
    hasActiveUnpauseProposal := false
    unpauseProposal := default }.emit [.unpauseProposalCancelled msg.sender]

def proposeUnpause (msg : Message) (s : World σ) : Except Revert (World σ) := do
  onlyAdmin msg s
  require (s.paused = true) "not paused"
  require (s.oracleActive = true) "oracle disabled"
  let s := if s.hasActiveUnpauseProposal then cancelUnpause msg s else s
  return { s with
    unpauseProposal := ⟨1, false, msg.timestamp, msg.sender⟩
    unpauseHasApproved := update s.unpauseHasApproved msg.sender true
    hasActiveUnpauseProposal := true }.emit
      [.unpauseProposed msg.sender, .unpauseApproved msg.sender 1 s.requiredApprovals]

/-- `_executeUnpause`. -/
def executeUnpause (msg : Message) (s : World σ) : Except Revert (World σ) := do
  require (s.unpauseProposal.executed = false) "already executed"
  require (s.governanceApprovals ≤ s.unpauseProposal.approvalCount) "not enough approvals"
  return { s with
    unpauseProposal := { s.unpauseProposal with executed := true }
    paused := false
    hasActiveUnpauseProposal := false
    unpauseHasApproved := clearApprovals s.admins s.unpauseHasApproved }.emit [.unpaused msg.sender]

/-- The approval `approveUnpause` records before it looks at the quorum. -/
def recordUnpauseApproval (msg : Message) (s : World σ) : World σ :=
  { s with
    unpauseHasApproved := update s.unpauseHasApproved msg.sender true
    unpauseProposal :=
      { s.unpauseProposal with approvalCount := s.unpauseProposal.approvalCount + 1 } }.emit
    [.unpauseApproved msg.sender (s.unpauseProposal.approvalCount + 1) s.requiredApprovals]

def approveUnpause (msg : Message) (s : World σ) : Except Revert (World σ) := do
  onlyAdmin msg s
  require (s.paused = true) "not paused"
  require (s.hasActiveUnpauseProposal = true) "no active proposal"
  require (s.unpauseProposal.executed = false) "already executed"
  require (s.unpauseHasApproved msg.sender = false) "already approved"
  let s := recordUnpauseApproval msg s
  if s.governanceApprovals ≤ s.unpauseProposal.approvalCount then executeUnpause msg s
  else return s

def cancelUnpauseProposal (msg : Message) (s : World σ) : Except Revert (World σ) := do
  onlyAdmin msg s
  require (s.hasActiveUnpauseProposal = true) "no active proposal"
  require (s.unpauseProposal.executed = false) "already executed"
  return cancelUnpause msg s

/-- The pause `disableOracleEmergency` adds where there is none. -/
def emergencyPause (msg : Message) (s : World σ) : World σ :=
  if s.paused = false then { s with paused := true }.emit [.paused msg.sender] else s

def disableOracleEmergency (msg : Message) (s : World σ) : Except Revert (World σ) := do
  onlyAdmin msg s
  require (s.oracleActive = true) "oracle disabled"
  let s := emergencyPause msg { s with oracleActive := false }
  return s.emit [.oracleDisabledEmergency msg.sender s.oracleAddress]

/-! Trade creation, the claim ledger and the milestones of a trade. -/

/-- `_verifySignature`. -/
def verifySignature (chain : Chain σ Op) (msg : Message) (buyer : Address) (order : Order)
    (s : World σ) : Except Revert Address := do
  require (msg.timestamp ≤ order.deadline.toNat) "signature expired"
  match chain.recover (ethSignedHash chain s.treasuryAddress buyer order) order.signature with
  | some signer => return signer
  | none => throw .signature

/-- `usdcToken.safeTransferFrom(source, address(this), amount)`. -/
def safeTransferFrom (chain : Chain σ Op) (source : Address) (amount : Nat) (s : World σ) :
    Except Revert (World σ) :=
  match chain.token.transferFrom s.usdc chain.self source chain.self amount with
  | .ok usdc => .ok { s with usdc := usdc }
  | .error error => .error (.token error)

/-- `usdcToken.safeTransfer(target, amount)`. -/
def safeTransfer (chain : Chain σ Op) (target : Address) (amount : Nat) (s : World σ) :
    Except Revert (World σ) :=
  match chain.token.transfer s.usdc chain.self target amount with
  | .ok usdc => .ok { s with usdc := usdc }
  | .error error => .error (.token error)

def createTrade (chain : Chain σ Op) (msg : Message) (order : Order) (s : World σ) :
    Except Revert (World σ) := do
  whenNotPaused s
  require (order.ricardianHash ≠ 0) "ricardian hash required"
  require (order.supplier ≠ .zero) "supplier required"
  let fees ← checkedAdd .createTrade order.logisticsAmount.toNat order.platformFeesAmount.toNat
  let withFirst ← checkedAdd .createTrade fees order.supplierFirstTranche.toNat
  let totalExpected ← checkedAdd .createTrade withFirst order.supplierSecondTranche.toNat
  require (order.totalAmount.toNat = totalExpected) "breakdown mismatch"
  require (0 < order.supplierFirstTranche.toNat ∧ 0 < order.supplierSecondTranche.toNat)
    "tranches must be > 0"
  require (order.buyerNonce.toNat = s.nonces msg.sender) "bad nonce"
  let signer ← verifySignature chain msg msg.sender order s
  require (signer = msg.sender) "bad signature"
  let newTradeId := s.tradeCounter
  let trade := order.trade newTradeId msg.sender msg.timestamp
  let s := { s with
    nonces := update s.nonces msg.sender (order.buyerNonce.toNat + 1)
    tradeCounter := s.tradeCounter + 1
    trades := update s.trades newTradeId trade }
  let s ← safeTransferFrom chain msg.sender order.totalAmount.toNat s
  return s.emit [.tradeLocked newTradeId msg.sender order.supplier trade.totalAmountLocked
    trade.logisticsAmount trade.platformFeesAmount trade.supplierFirstTranche
    trade.supplierSecondTranche order.ricardianHash]

/-- `_accrueClaimable`. -/
def accrueClaimable (tradeId : Nat) (recipient : Address) (amount : Nat) (claimType : ClaimType)
    (s : World σ) : Except Revert (World σ) := do
  if amount = 0 then return s
  let claimable ← checkedAdd .accrueClaimable (s.claimableUsdc recipient) amount
  let total ← checkedAdd .accrueClaimable s.totalClaimableUsdc amount
  return { s with
    claimableUsdc := update s.claimableUsdc recipient claimable
    totalClaimableUsdc := total }.emit [.claimableAccrued tradeId recipient amount claimType]

def claim (chain : Chain σ Op) (msg : Message) (s : World σ) : Except Revert (World σ) := do
  whenClaimsNotPaused s
  let amount := s.claimableUsdc msg.sender
  require (0 < amount) "nothing claimable"
  let total ← checkedSub .claim s.totalClaimableUsdc amount
  let s := { s with
    claimableUsdc := update s.claimableUsdc msg.sender 0
    totalClaimableUsdc := total }
  let s ← safeTransfer chain msg.sender amount s
  return s.emit [.claimed msg.sender amount]

/-- Writes `trades[tradeId].status`. -/
def setStatus (tradeId : Nat) (status : TradeStatus) (s : World σ) : World σ :=
  { s with trades := update s.trades tradeId { s.trades tradeId with status := status } }

def setInTransitSince (tradeId timestamp : Nat) (s : World σ) : World σ :=
  { s with inTransitSince := update s.inTransitSince tradeId timestamp }

def releaseFundsStage1 (msg : Message) (tradeId : Nat) (s : World σ) : Except Revert (World σ) := do
  onlyOracle msg s
  onlyOracleActive s
  whenNotPaused s
  require (tradeId < s.tradeCounter) "trade not found"
  let trade := s.trades tradeId
  require (trade.status = .locked) "status must be LOCKED"
  let s := setInTransitSince tradeId msg.timestamp (setStatus tradeId .inTransit s)
  let s ← accrueClaimable tradeId trade.supplierAddress trade.supplierFirstTranche .stage1Supplier s
  let s ← accrueClaimable tradeId s.treasuryAddress trade.logisticsAmount .stage1LogisticsFee s
  let s ← accrueClaimable tradeId s.treasuryAddress trade.platformFeesAmount .stage1PlatformFee s
  return s.emit
    [.fundsReleasedStage1 tradeId trade.supplierAddress trade.supplierFirstTranche s.treasuryAddress
      trade.logisticsAmount,
     .platformFeesPaidStage1 tradeId s.treasuryAddress trade.platformFeesAmount]

def confirmArrival (msg : Message) (tradeId : Nat) (s : World σ) : Except Revert (World σ) := do
  onlyOracle msg s
  onlyOracleActive s
  whenNotPaused s
  require (tradeId < s.tradeCounter) "trade not found"
  let trade := s.trades tradeId
  require (trade.status = .inTransit) "status must be IN_TRANSIT"
  let arrived := { trade with status := .arrivalConfirmed, arrivalTimestamp := msg.timestamp }
  let s := { s with trades := update s.trades tradeId arrived }
  return (setInTransitSince tradeId 0 s).emit [.arrivalConfirmed tradeId msg.timestamp]

def openDispute (msg : Message) (tradeId : Nat) (s : World σ) : Except Revert (World σ) := do
  whenNotPaused s
  require (tradeId < s.tradeCounter) "trade not found"
  let trade := s.trades tradeId
  require (trade.buyerAddress = msg.sender) "only buyer"
  require (trade.status = .arrivalConfirmed) "must be ARRIVAL_CONFIRMED"
  require (0 < trade.arrivalTimestamp) "arrival not set"
  require (trade.disputeOpen msg.timestamp) "window closed"
  return (setStatus tradeId .frozen s).emit [.disputeOpenedByBuyer tradeId]

def finalizeAfterDisputeWindow (msg : Message) (tradeId : Nat) (s : World σ) :
    Except Revert (World σ) := do
  whenNotPaused s
  require (tradeId < s.tradeCounter) "trade not found"
  let trade := s.trades tradeId
  require (trade.status = .arrivalConfirmed) "must be ARRIVAL_CONFIRMED"
  require (0 < trade.arrivalTimestamp) "arrival not set"
  require (trade.disputeElapsed msg.timestamp) "window not elapsed"
  let s := setInTransitSince tradeId 0 (setStatus tradeId .closed s)
  let s ← accrueClaimable tradeId trade.supplierAddress trade.supplierSecondTranche .stage2Supplier s
  return s.emit [.finalTrancheReleased tradeId trade.supplierAddress trade.supplierSecondTranche]

def cancelLockedTradeAfterTimeout (msg : Message) (tradeId : Nat) (s : World σ) :
    Except Revert (World σ) := do
  whenNotPaused s
  require (tradeId < s.tradeCounter) "trade not found"
  let trade := s.trades tradeId
  require (trade.buyerAddress = msg.sender) "only buyer"
  require (trade.status = .locked) "status must be LOCKED"
  require (msg.timestamp > trade.createdAt + lockTimeout) "lock timeout not elapsed"
  let s := setStatus tradeId .closed s
  let s ← accrueClaimable tradeId trade.buyerAddress trade.totalAmountLocked .lockTimeoutBuyerRefund s
  return s.emit [.tradeCancelledAfterLockTimeout tradeId trade.buyerAddress trade.totalAmountLocked]

def refundInTransitAfterTimeout (msg : Message) (tradeId : Nat) (s : World σ) :
    Except Revert (World σ) := do
  whenNotPaused s
  require (tradeId < s.tradeCounter) "trade not found"
  let trade := s.trades tradeId
  require (trade.buyerAddress = msg.sender) "only buyer"
  require (trade.status = .inTransit) "status must be IN_TRANSIT"
  let transitStart := s.inTransitSince tradeId
  require (0 < transitStart) "in-transit timestamp not set"
  require (msg.timestamp > transitStart + inTransitTimeout) "in-transit timeout not elapsed"
  let s := setInTransitSince tradeId 0 (setStatus tradeId .closed s)
  let s ← accrueClaimable tradeId trade.buyerAddress trade.supplierSecondTranche
    .inTransitTimeoutBuyerRefund s
  return s.emit [.inTransitTimeoutRefunded tradeId trade.buyerAddress trade.supplierSecondTranche]

/-! Dispute proposals and their settlement. -/

/-- Clears the active proposal of a trade. -/
def releaseDisputeSlot (tradeId : Nat) (s : World σ) : World σ :=
  { s with
    tradeHasActiveDisputeProposal := update s.tradeHasActiveDisputeProposal tradeId false
    tradeActiveDisputeProposalId := update s.tradeActiveDisputeProposalId tradeId 0 }

/-- Cancels the expired proposal that holds the slot of a trade, if one does; a
proposal still open keeps the slot. -/
def vacateDisputeSlot (msg : Message) (tradeId : Nat) (s : World σ) : Except Revert (World σ) := do
  if s.tradeHasActiveDisputeProposal tradeId = true then
    let activeProposalId := s.tradeActiveDisputeProposalId tradeId
    require (msg.timestamp > s.dispute.expiresAt activeProposalId ∧
      s.dispute.cancelled activeProposalId = false) "active proposal exists"
    return (releaseDisputeSlot tradeId { s with dispute := s.dispute.cancel activeProposalId }).emit
      [.disputeProposalExpiredCancelled activeProposalId tradeId msg.sender]
  else return s

/-- `_executeDispute`. -/
def executeDispute (msg : Message) (proposalId : Nat) (s : World σ) : Except Revert (World σ) := do
  let proposal := s.dispute.proposals proposalId
  require (proposal.executed = false) "already executed"
  require (s.dispute.cancelled proposalId = false) "proposal cancelled"
  require (msg.timestamp ≤ s.dispute.expiresAt proposalId) "proposal expired"
  require (s.requiredApprovals ≤ proposal.approvalCount) "not enough approvals"
  let tradeId := proposal.matter.tradeId
  let trade := s.trades tradeId
  require (trade.status = .frozen) "trade must be FROZEN"
  let s := setStatus tradeId .closed { s with dispute := s.dispute.execute proposalId }
  let s := setInTransitSince tradeId 0 (releaseDisputeSlot tradeId s)
  let payoutAmount := trade.supplierSecondTranche
  let (recipient, claimType) := match proposal.matter.disputeStatus with
    | .refund => (trade.buyerAddress, ClaimType.disputeRefundBuyer)
    | .resolve => (trade.supplierAddress, ClaimType.disputeResolveSupplier)
  let s ← accrueClaimable tradeId recipient payoutAmount claimType s
  return s.emit
    [.disputePayout tradeId proposalId recipient payoutAmount proposal.matter.disputeStatus,
     .disputeFinalized proposalId tradeId proposal.matter.disputeStatus]

/-- The proposal `proposeDisputeSolution` records before it looks at the quorum. -/
def recordDisputeProposal (msg : Message) (tradeId : Nat) (disputeStatus : DisputeStatus)
    (s : World σ) : World σ :=
  { s with
    dispute := s.dispute.propose ⟨tradeId, disputeStatus⟩ msg.timestamp
      (msg.timestamp + disputeProposalTtl) msg.sender
    tradeHasActiveDisputeProposal := update s.tradeHasActiveDisputeProposal tradeId true
    tradeActiveDisputeProposalId :=
      update s.tradeActiveDisputeProposalId tradeId s.dispute.counter }.emit
    [.disputeSolutionProposed s.dispute.counter tradeId disputeStatus msg.sender]

def proposeDisputeSolution (msg : Message) (tradeId : Nat) (disputeStatus : DisputeStatus)
    (s : World σ) : Except Revert (World σ) := do
  onlyAdmin msg s
  whenNotPaused s
  require (tradeId < s.tradeCounter) "trade not found"
  require ((s.trades tradeId).status = .frozen) "trade not frozen"
  let s ← vacateDisputeSlot msg tradeId s
  let proposalId := s.dispute.counter
  let s := recordDisputeProposal msg tradeId disputeStatus s
  if s.requiredApprovals = 1 then executeDispute msg proposalId s else return s

def approveDisputeSolution (msg : Message) (proposalId : Nat) (s : World σ) :
    Except Revert (World σ) := do
  onlyAdmin msg s
  whenNotPaused s
  require (proposalId < s.dispute.counter) "proposal not found"
  let proposal := s.dispute.proposals proposalId
  require (0 < proposal.createdAt) "proposal not initialized"
  require (proposal.executed = false) "already executed"
  require (s.dispute.cancelled proposalId = false) "proposal cancelled"
  require (msg.timestamp ≤ s.dispute.expiresAt proposalId) "proposal expired"
  require ((s.trades proposal.matter.tradeId).status = .frozen) "trade not frozen"
  require (s.dispute.hasApproved proposalId msg.sender = false) "already approved"
  let s := { s with dispute := s.dispute.approve proposalId msg.sender }.emit
    [.disputeApproved proposalId msg.sender (proposal.approvalCount + 1) s.requiredApprovals]
  if s.requiredApprovals ≤ proposal.approvalCount + 1 then executeDispute msg proposalId s
  else return s

/-- Clears the slot of a trade if it is this proposal's. -/
def releaseHeldSlot (proposalId tradeId : Nat) (s : World σ) : World σ :=
  if s.tradeHasActiveDisputeProposal tradeId = true ∧
      s.tradeActiveDisputeProposalId tradeId = proposalId then releaseDisputeSlot tradeId s
  else s

def cancelExpiredDisputeProposal (msg : Message) (proposalId : Nat) (s : World σ) :
    Except Revert (World σ) := do
  onlyAdmin msg s
  whenNotPaused s
  require (proposalId < s.dispute.counter) "proposal not found"
  let proposal := s.dispute.proposals proposalId
  require (0 < proposal.createdAt) "proposal not initialized"
  require (proposal.executed = false) "already executed"
  require (s.dispute.cancelled proposalId = false) "already cancelled"
  require (msg.timestamp > s.dispute.expiresAt proposalId) "proposal not expired"
  let tradeId := proposal.matter.tradeId
  let s := releaseHeldSlot proposalId tradeId { s with dispute := s.dispute.cancel proposalId }
  return s.emit [.disputeProposalExpiredCancelled proposalId tradeId msg.sender]

/-! The timelocked proposals: oracle updates and added admins. -/

def proposeOracleUpdate (msg : Message) (newOracle : Address) (s : World σ) :
    Except Revert (World σ) := do
  onlyAdmin msg s
  require (newOracle ≠ .zero) "invalid oracle"
  require (newOracle ≠ s.oracleAddress) "same oracle"
  require (s.governanceApprovals ≤ s.admins.length) "insufficient admins"
  let proposalId := s.oracleUpdate.counter
  let emergencyFastTrack := !s.oracleActive
  let eta := if emergencyFastTrack then msg.timestamp else msg.timestamp + s.governanceTimelock
  return { s with
    oracleUpdate := openProposal msg s.oracleUpdate ⟨newOracle, eta, emergencyFastTrack⟩ }.emit
      [.oracleUpdateProposed proposalId msg.sender newOracle eta emergencyFastTrack,
       .oracleUpdateApproved proposalId msg.sender 1 s.governanceApprovals]

def approveOracleUpdate (msg : Message) (proposalId : Nat) (s : World σ) :
    Except Revert (World σ) := do
  onlyAdmin msg s
  let book ← approveProposal msg s.oracleUpdate proposalId
  return { s with oracleUpdate := book }.emit
    [.oracleUpdateApproved proposalId msg.sender (book.proposals proposalId).approvalCount
      s.governanceApprovals]

def executeOracleUpdate (msg : Message) (proposalId : Nat) (s : World σ) :
    Except Revert (World σ) := do
  onlyAdmin msg s
  requireExecutable msg s.governanceApprovals OracleUpdate.eta s.oracleUpdate proposalId
  let newOracle := (s.oracleUpdate.proposals proposalId).matter.newOracle
  return { s with
    oracleUpdate := s.oracleUpdate.execute proposalId
    oracleAddress := newOracle
    oracleActive := true }.emit [.oracleUpdated s.oracleAddress newOracle]

def cancelExpiredOracleUpdateProposal (msg : Message) (proposalId : Nat) (s : World σ) :
    Except Revert (World σ) := do
  onlyAdmin msg s
  let book ← cancelExpiredProposal msg s.oracleUpdate proposalId
  return { s with oracleUpdate := book }.emit
    [.oracleUpdateProposalExpiredCancelled proposalId msg.sender]

def proposeAddAdmin (msg : Message) (newAdmin : Address) (s : World σ) :
    Except Revert (World σ) := do
  onlyAdmin msg s
  require (newAdmin ≠ .zero) "invalid admin"
  require (s.isAdmin newAdmin = false) "already admin"
  require (s.governanceApprovals ≤ s.admins.length) "insufficient admins"
  let proposalId := s.adminAdd.counter
  let eta := msg.timestamp + s.governanceTimelock
  return { s with adminAdd := openProposal msg s.adminAdd ⟨newAdmin, eta⟩ }.emit
    [.adminAddProposed proposalId msg.sender newAdmin eta,
     .adminAddApproved proposalId msg.sender 1 s.governanceApprovals]

def approveAddAdmin (msg : Message) (proposalId : Nat) (s : World σ) : Except Revert (World σ) := do
  onlyAdmin msg s
  let book ← approveProposal msg s.adminAdd proposalId
  return { s with adminAdd := book }.emit
    [.adminAddApproved proposalId msg.sender (book.proposals proposalId).approvalCount
      s.governanceApprovals]

def executeAddAdmin (msg : Message) (proposalId : Nat) (s : World σ) : Except Revert (World σ) := do
  onlyAdmin msg s
  requireExecutable msg s.governanceApprovals AdminAdd.eta s.adminAdd proposalId
  let newAdmin := (s.adminAdd.proposals proposalId).matter.newAdmin
  -- Unlike the other two families, the target is checked again here.
  require (newAdmin ≠ .zero) "invalid admin"
  require (s.isAdmin newAdmin = false) "already admin"
  return { s with
    adminAdd := s.adminAdd.execute proposalId
    admins := s.admins ++ [newAdmin]
    isAdmin := update s.isAdmin newAdmin true }.emit [.adminAdded newAdmin]

def cancelExpiredAddAdminProposal (msg : Message) (proposalId : Nat) (s : World σ) :
    Except Revert (World σ) := do
  onlyAdmin msg s
  let book ← cancelExpiredProposal msg s.adminAdd proposalId
  return { s with adminAdd := book }.emit [.adminAddProposalExpiredCancelled proposalId msg.sender]

/-! Deployment and transactions. -/

/-- Storage after the constructor's assignments and before its loop over the
admins. -/
def world (config : Config) (usdc : σ) (timestamp : Nat) : World σ where
  usdcToken := config.usdcToken
  treasuryAddress := config.treasuryAddress
  requiredApprovals := config.requiredApprovals
  governanceTimelock := 24 * 3600
  trades _ := default
  tradeCounter := 0
  nonces _ := 0
  inTransitSince _ := 0
  dispute := .empty ⟨0, .refund⟩ .zero
  tradeHasActiveDisputeProposal _ := false
  tradeActiveDisputeProposalId _ := 0
  claimableUsdc _ := 0
  totalClaimableUsdc := 0
  paused := false
  claimsPaused := false
  oracleActive := true
  oracleAddress := config.oracleAddress
  admins := []
  isAdmin _ := false
  unpauseProposal := default
  unpauseHasApproved _ := false
  hasActiveUnpauseProposal := false
  oracleUpdate := .empty ⟨.zero, 0, false⟩ .zero
  adminAdd := .empty ⟨.zero, 0⟩ .zero
  usdc := usdc
  events := []
  now := timestamp

/-- The constructor's loop over `_admins`. -/
def addAdmins : List Address → World σ → Except Revert (World σ)
  | [], s => return s
  | admin :: rest, s => do
    require (admin ≠ .zero) "bad admin"
    require (s.isAdmin admin = false) "duplicate admin"
    addAdmins rest { s with admins := s.admins ++ [admin], isAdmin := update s.isAdmin admin true }

def deploy (config : Config) (usdc : σ) (timestamp : Nat) : Except Revert (World σ) := do
  require (config.usdcToken ≠ .zero) "invalid token"
  require (config.oracleAddress ≠ .zero) "invalid oracle"
  require (config.treasuryAddress ≠ .zero) "invalid treasury"
  require (0 < config.requiredApprovals) "required approvals must be > 0"
  require (config.requiredApprovals ≤ config.admins.length) "not enough admins"
  addAdmins config.admins (world config usdc timestamp)

/-- The state-changing external functions. -/
inductive Call where
  | pause
  | pauseClaims
  | unpauseClaims
  | proposeUnpause
  | approveUnpause
  | cancelUnpauseProposal
  | disableOracleEmergency
  | createTrade (order : Order)
  | claim
  | releaseFundsStage1 (tradeId : Nat)
  | confirmArrival (tradeId : Nat)
  | openDispute (tradeId : Nat)
  | finalizeAfterDisputeWindow (tradeId : Nat)
  | cancelLockedTradeAfterTimeout (tradeId : Nat)
  | refundInTransitAfterTimeout (tradeId : Nat)
  | proposeDisputeSolution (tradeId : Nat) (disputeStatus : DisputeStatus)
  | approveDisputeSolution (proposalId : Nat)
  | cancelExpiredDisputeProposal (proposalId : Nat)
  | proposeOracleUpdate (newOracle : Address)
  | approveOracleUpdate (proposalId : Nat)
  | executeOracleUpdate (proposalId : Nat)
  | cancelExpiredOracleUpdateProposal (proposalId : Nat)
  | proposeAddAdmin (newAdmin : Address)
  | approveAddAdmin (proposalId : Nat)
  | executeAddAdmin (proposalId : Nat)
  | cancelExpiredAddAdminProposal (proposalId : Nat)

def execute (chain : Chain σ Op) (msg : Message) : Call → World σ → Except Revert (World σ)
  | .pause => pause msg
  | .pauseClaims => pauseClaims msg
  | .unpauseClaims => unpauseClaims msg
  | .proposeUnpause => proposeUnpause msg
  | .approveUnpause => approveUnpause msg
  | .cancelUnpauseProposal => cancelUnpauseProposal msg
  | .disableOracleEmergency => disableOracleEmergency msg
  | .createTrade order => createTrade chain msg order
  | .claim => claim chain msg
  | .releaseFundsStage1 tradeId => releaseFundsStage1 msg tradeId
  | .confirmArrival tradeId => confirmArrival msg tradeId
  | .openDispute tradeId => openDispute msg tradeId
  | .finalizeAfterDisputeWindow tradeId => finalizeAfterDisputeWindow msg tradeId
  | .cancelLockedTradeAfterTimeout tradeId => cancelLockedTradeAfterTimeout msg tradeId
  | .refundInTransitAfterTimeout tradeId => refundInTransitAfterTimeout msg tradeId
  | .proposeDisputeSolution tradeId decision => proposeDisputeSolution msg tradeId decision
  | .approveDisputeSolution proposalId => approveDisputeSolution msg proposalId
  | .cancelExpiredDisputeProposal proposalId => cancelExpiredDisputeProposal msg proposalId
  | .proposeOracleUpdate newOracle => proposeOracleUpdate msg newOracle
  | .approveOracleUpdate proposalId => approveOracleUpdate msg proposalId
  | .executeOracleUpdate proposalId => executeOracleUpdate msg proposalId
  | .cancelExpiredOracleUpdateProposal proposalId => cancelExpiredOracleUpdateProposal msg proposalId
  | .proposeAddAdmin newAdmin => proposeAddAdmin msg newAdmin
  | .approveAddAdmin proposalId => approveAddAdmin msg proposalId
  | .executeAddAdmin proposalId => executeAddAdmin msg proposalId
  | .cancelExpiredAddAdminProposal proposalId => cancelExpiredAddAdminProposal msg proposalId

/-- A transaction: a call of the escrow, or of the token contract by someone
else than the escrow. -/
inductive Action (Op : Type) where
  | escrow (msg : Message) (call : Call)
  | token (msg : Message) (op : Op)

def Action.message : Action Op → Message
  | .escrow msg _ => msg
  | .token msg _ => msg

/-- The block clock does not run backwards, and the escrow itself makes no token
calls besides those in its functions. -/
def Action.Valid (chain : Chain σ Op) (s : World σ) (action : Action Op) : Prop :=
  s.now ≤ action.message.timestamp ∧
    match action with
    | .escrow _ _ => True
    | .token msg _ => msg.sender ≠ chain.self

/-- One transaction; a transaction that reverts changes nothing. -/
def transact (chain : Chain σ Op) (action : Action Op) (s : World σ) : Except Revert (World σ) :=
  match action with
  | .escrow msg call =>
    match execute chain msg call s with
    | .ok s => .ok { s with now := msg.timestamp }
    | .error revert => .error revert
  | .token msg op =>
    match chain.token.call s.usdc msg.sender op with
    | .ok usdc => .ok { s with usdc := usdc, now := msg.timestamp }
    | .error error => .error (.token error)

def foundrySystem (chain : Chain σ Op) : System (World σ) (Action Op) where
  initial s := ∃ (config : Config) (usdc : σ) (timestamp : Nat), 0 < timestamp ∧
    deploy config usdc timestamp = .ok s
  step s action next := action.Valid chain s ∧ transact chain action s = .ok next

end Agroasys.Foundry
