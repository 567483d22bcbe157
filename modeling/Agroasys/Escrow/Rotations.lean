import Agroasys.Escrow.Storage

/-! The timelocked proposals: oracle updates, added admins and treasury payout
addresses. The three families share their approvals, executions and
cancellations, which are stated once over any proposal book. -/

namespace Agroasys.Escrow

open Function Agroasys.Foundation

variable {σ Matter : Type}

/-- The checks shared by every approval and execution. -/
def requireLive (msg : Message) (book : ProposalBook Address Matter) (proposalId : Nat) :
    Except Revert Unit := do
  require (proposalId < book.counter) "proposal not found"
  require (0 < (book.proposals proposalId).createdAt) "proposal not initialized"
  require ((book.proposals proposalId).executed = false) "already executed"
  require (book.cancelled proposalId = false) "proposal cancelled"
  require (msg.timestamp ≤ book.expiresAt proposalId) "proposal expired"

def approveProposal (msg : Message) (book : ProposalBook Address Matter) (proposalId : Nat) :
    Except Revert (ProposalBook Address Matter) := do
  requireLive msg book proposalId
  require (book.hasApproved proposalId msg.sender = false) "already approved"
  return book.approve proposalId msg.sender

/-- The checks of an execution, up to the timelock. -/
def requireExecutable (msg : Message) (governanceApprovals : Nat) (eta : Matter → Nat)
    (book : ProposalBook Address Matter) (proposalId : Nat) : Except Revert Unit := do
  requireLive msg book proposalId
  require (governanceApprovals ≤ (book.proposals proposalId).approvalCount) "not enough approvals"
  require (eta (book.proposals proposalId).matter ≤ msg.timestamp) "timelock not elapsed"

def cancelExpiredProposal (msg : Message) (book : ProposalBook Address Matter) (proposalId : Nat) :
    Except Revert (ProposalBook Address Matter) := do
  require (proposalId < book.counter) "proposal not found"
  require (0 < (book.proposals proposalId).createdAt) "proposal not initialized"
  require ((book.proposals proposalId).executed = false) "already executed"
  require (book.cancelled proposalId = false) "already cancelled"
  require (msg.timestamp > book.expiresAt proposalId) "proposal not expired"
  return book.cancel proposalId

/-- A new proposal with its proposer's approval, open for `governanceProposalTtl`. -/
def openProposal (msg : Message) (book : ProposalBook Address Matter) (matter : Matter) :
    ProposalBook Address Matter :=
  book.propose matter msg.timestamp (msg.timestamp + governanceProposalTtl) msg.sender

def proposeOracleUpdate (msg : Message) (newOracle : Address) (s : World σ) :
    Except Revert (World σ) := do
  onlyAdmin msg s
  require (newOracle ≠ .zero) "invalid oracle"
  require (newOracle ≠ s.oracleAddress) "same oracle"
  require (s.governanceApprovals ≤ s.admins.length) "insufficient admins"
  let proposalId := s.oracleUpdate.counter
  let emergencyFastTrack := !s.oracleActive
  let eta := if emergencyFastTrack then msg.timestamp else msg.timestamp + s.governanceTimelock
  return { s with
    oracleUpdate := openProposal msg s.oracleUpdate ⟨newOracle, eta, emergencyFastTrack⟩ }.emit
      [.oracleUpdateProposed proposalId msg.sender newOracle eta emergencyFastTrack,
       .oracleUpdateApproved proposalId msg.sender 1 s.governanceApprovals]

def approveOracleUpdate (msg : Message) (proposalId : Nat) (s : World σ) :
    Except Revert (World σ) := do
  onlyAdmin msg s
  let book ← approveProposal msg s.oracleUpdate proposalId
  return { s with oracleUpdate := book }.emit
    [.oracleUpdateApproved proposalId msg.sender (book.proposals proposalId).approvalCount
      s.governanceApprovals]

def executeOracleUpdate (msg : Message) (proposalId : Nat) (s : World σ) :
    Except Revert (World σ) := do
  onlyAdmin msg s
  requireExecutable msg s.governanceApprovals OracleUpdate.eta s.oracleUpdate proposalId
  let newOracle := (s.oracleUpdate.proposals proposalId).matter.newOracle
  return { s with
    oracleUpdate := s.oracleUpdate.execute proposalId
    oracleAddress := newOracle
    oracleActive := true }.emit [.oracleUpdated s.oracleAddress newOracle]

def cancelExpiredOracleUpdateProposal (msg : Message) (proposalId : Nat) (s : World σ) :
    Except Revert (World σ) := do
  onlyAdmin msg s
  let book ← cancelExpiredProposal msg s.oracleUpdate proposalId
  return { s with oracleUpdate := book }.emit
    [.oracleUpdateProposalExpiredCancelled proposalId msg.sender]

def proposeAddAdmin (msg : Message) (newAdmin : Address) (s : World σ) :
    Except Revert (World σ) := do
  onlyAdmin msg s
  require (newAdmin ≠ .zero) "invalid admin"
  require (s.isAdmin newAdmin = false) "already admin"
  require (s.governanceApprovals ≤ s.admins.length) "insufficient admins"
  let proposalId := s.adminAdd.counter
  let eta := msg.timestamp + s.governanceTimelock
  return { s with adminAdd := openProposal msg s.adminAdd ⟨newAdmin, eta⟩ }.emit
    [.adminAddProposed proposalId msg.sender newAdmin eta,
     .adminAddApproved proposalId msg.sender 1 s.governanceApprovals]

def approveAddAdmin (msg : Message) (proposalId : Nat) (s : World σ) : Except Revert (World σ) := do
  onlyAdmin msg s
  let book ← approveProposal msg s.adminAdd proposalId
  return { s with adminAdd := book }.emit
    [.adminAddApproved proposalId msg.sender (book.proposals proposalId).approvalCount
      s.governanceApprovals]

def executeAddAdmin (msg : Message) (proposalId : Nat) (s : World σ) : Except Revert (World σ) := do
  onlyAdmin msg s
  requireExecutable msg s.governanceApprovals AdminAdd.eta s.adminAdd proposalId
  let newAdmin := (s.adminAdd.proposals proposalId).matter.newAdmin
  -- Unlike the other two families, the target is checked again here.
  require (newAdmin ≠ .zero) "invalid admin"
  require (s.isAdmin newAdmin = false) "already admin"
  return { s with
    adminAdd := s.adminAdd.execute proposalId
    admins := s.admins ++ [newAdmin]
    isAdmin := update s.isAdmin newAdmin true }.emit [.adminAdded newAdmin]

def cancelExpiredAddAdminProposal (msg : Message) (proposalId : Nat) (s : World σ) :
    Except Revert (World σ) := do
  onlyAdmin msg s
  let book ← cancelExpiredProposal msg s.adminAdd proposalId
  return { s with adminAdd := book }.emit [.adminAddProposalExpiredCancelled proposalId msg.sender]

def proposeTreasuryPayoutAddressUpdate (msg : Message) (newPayoutReceiver : Address) (s : World σ) :
    Except Revert (World σ) := do
  onlyAdmin msg s
  require (newPayoutReceiver ≠ .zero) "invalid treasury payout receiver"
  require (newPayoutReceiver ≠ s.treasuryPayoutAddress) "same treasury payout receiver"
  require (s.governanceApprovals ≤ s.admins.length) "insufficient admins"
  let proposalId := s.treasuryPayoutAddressUpdate.counter
  let eta := msg.timestamp + s.governanceTimelock
  return { s with
    treasuryPayoutAddressUpdate :=
      openProposal msg s.treasuryPayoutAddressUpdate ⟨newPayoutReceiver, eta⟩ }.emit
    [.treasuryPayoutAddressUpdateProposed proposalId msg.sender newPayoutReceiver eta,
     .treasuryPayoutAddressUpdateApproved proposalId msg.sender 1 s.governanceApprovals]

def approveTreasuryPayoutAddressUpdate (msg : Message) (proposalId : Nat) (s : World σ) :
    Except Revert (World σ) := do
  onlyAdmin msg s
  let book ← approveProposal msg s.treasuryPayoutAddressUpdate proposalId
  return { s with treasuryPayoutAddressUpdate := book }.emit
    [.treasuryPayoutAddressUpdateApproved proposalId msg.sender
      (book.proposals proposalId).approvalCount s.governanceApprovals]

def executeTreasuryPayoutAddressUpdate (msg : Message) (proposalId : Nat) (s : World σ) :
    Except Revert (World σ) := do
  onlyAdmin msg s
  requireExecutable msg s.governanceApprovals TreasuryPayoutAddressUpdate.eta
    s.treasuryPayoutAddressUpdate proposalId
  let newPayoutReceiver := (s.treasuryPayoutAddressUpdate.proposals proposalId).matter.newPayoutReceiver
  require (newPayoutReceiver ≠ .zero) "invalid treasury payout receiver"
  return { s with
    treasuryPayoutAddressUpdate := s.treasuryPayoutAddressUpdate.execute proposalId
    treasuryPayoutAddress := newPayoutReceiver }.emit
      [.treasuryPayoutAddressUpdated s.treasuryPayoutAddress newPayoutReceiver]

def cancelExpiredTreasuryPayoutAddressUpdateProposal (msg : Message) (proposalId : Nat)
    (s : World σ) : Except Revert (World σ) := do
  onlyAdmin msg s
  let book ← cancelExpiredProposal msg s.treasuryPayoutAddressUpdate proposalId
  return { s with treasuryPayoutAddressUpdate := book }.emit
    [.treasuryPayoutAddressUpdateProposalExpiredCancelled proposalId msg.sender]

end Agroasys.Escrow
