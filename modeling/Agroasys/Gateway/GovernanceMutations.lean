import Agroasys.Gateway.GovernanceStatus
import Agroasys.Gateway.GovernanceStore

namespace Agroasys.Gateway

open Agroasys.Foundation Agroasys.Runtime Agroasys.Sdk

/-- The routes under `/governance`. -/
inductive GovernanceRoute where
  | pause
  | unpauseProposal
  | approveUnpause
  | cancelUnpause
  | claimsPause
  | claimsUnpause
  | treasurySweep
  | payoutReceiverProposals
  | approvePayoutReceiver
  | executePayoutReceiver
  | cancelExpiredPayoutReceiver
  | disableOracleEmergency
  | oracleProposals
  | approveOracle
  | executeOracle
  | cancelExpiredOracle
  deriving DecidableEq

/-- A request whose audit input is valid: the path parameter `proposalId`, the address in the body,
and the wallet of the session. -/
structure GovernanceRequest where
  proposalId : String
  address : String
  walletAddress : String

/-- What a route gives `queueAction`, which takes no trade. -/
structure QueuedAction where
  category : GovernanceActionCategory
  contractMethod : String
  proposalId : Option Nat
  targetAddress : Option String
  deriving DecidableEq

section Validation

def validationError (message : String) : GatewayError :=
  ⟨400, "VALIDATION_ERROR", message⟩

def conflictError (message : String) : GatewayError :=
  ⟨409, "CONFLICT", message⟩

/-- `if (condition) throw error`. -/
def refuseIf (condition : Prop) [Decidable condition] (error : GatewayError) : Except GatewayError Unit :=
  if condition then .error error else .ok ()

/-- `/^\d+$/`, and `Number.parseInt`. -/
def validateProposalId (raw : String) : Except GatewayError Nat :=
  if raw.toList ≠ [] ∧ raw.toList.all Char.isDigit then .ok (roundToDouble (Nat.ofDigitChars 10 raw.toList 0))
  else .error (validationError "Path parameter proposalId must be a non-negative integer")

variable (ethers : Ethers)

def validateAddressInput (value field : String) : Except GatewayError String := do
  refuseIf (ethers.isAddress value = false) (validationError (field ++ " must be a valid address"))
  refuseIf (value = zeroAddress) (validationError (field ++ " cannot be the zero address"))
  return value

end Validation

section Routes

variable (ethers : Ethers) (contract : GovernanceContract) (now : Nat) (request : GovernanceRequest)

def queuePause : Except GatewayError QueuedAction := do
  let status ← getGovernanceStatus contract
  refuseIf (status.paused = true) (conflictError "Protocol is already paused")
  return ⟨.pause, "pause", none, none⟩

def queueUnpauseProposal : Except GatewayError QueuedAction := do
  let status ← getGovernanceStatus contract
  refuseIf (status.paused = false) (conflictError "Protocol must be paused before creating an unpause proposal")
  refuseIf (status.oracleActive = false) (conflictError "Oracle must be active before creating an unpause proposal")
  return ⟨.unpause, "proposeUnpause", none, none⟩

def queueApproveUnpause : Except GatewayError QueuedAction := do
  let proposal ← getUnpauseProposalState contract
  refuseIf (proposal.hasActiveProposal = false) (conflictError "No active unpause proposal is available to approve")
  let approved ← hasApprovedUnpause contract request.walletAddress
  refuseIf (approved = true) (conflictError "Caller has already approved the active unpause proposal")
  return ⟨.unpause, "approveUnpause", none, none⟩

def queueCancelUnpause : Except GatewayError QueuedAction := do
  let proposal ← getUnpauseProposalState contract
  refuseIf (proposal.hasActiveProposal = false) (conflictError "No active unpause proposal is available to cancel")
  return ⟨.unpause, "cancelUnpauseProposal", none, none⟩

def queueClaimsPause : Except GatewayError QueuedAction := do
  let status ← getGovernanceStatus contract
  refuseIf (status.claimsPaused = true) (conflictError "Claims are already paused")
  return ⟨.claimsPause, "pauseClaims", none, none⟩

def queueClaimsUnpause : Except GatewayError QueuedAction := do
  let status ← getGovernanceStatus contract
  refuseIf (status.claimsPaused = false) (conflictError "Claims are not currently paused")
  return ⟨.claimsUnpause, "unpauseClaims", none, none⟩

def queueTreasurySweep : Except GatewayError QueuedAction := do
  let status ← getGovernanceStatus contract
  refuseIf (status.claimsPaused = true) (conflictError "Treasury sweep is unavailable while claims are paused")
  let claimableBalance ← getTreasuryClaimableBalance contract
  refuseIf (claimableBalance ≤ 0) (conflictError "Treasury claimable balance is zero")
  return ⟨.treasurySweep, "claimTreasury", none, none⟩

def queuePayoutReceiverProposal : Except GatewayError QueuedAction := do
  let status ← getGovernanceStatus contract
  let newPayoutReceiver ← validateAddressInput ethers request.address "newPayoutReceiver"
  refuseIf (toLowerCase newPayoutReceiver = toLowerCase status.treasuryPayoutAddress)
    (conflictError "New payout receiver matches the current treasury payout receiver")
  return ⟨.treasuryPayoutReceiverUpdate, "proposeTreasuryPayoutAddressUpdate", none, some newPayoutReceiver⟩

def queueDisableOracleEmergency : Except GatewayError QueuedAction := do
  let status ← getGovernanceStatus contract
  refuseIf (status.oracleActive = false) (conflictError "Oracle is already disabled")
  return ⟨.oracleDisableEmergency, "disableOracleEmergency", none, some status.oracleAddress⟩

def queueOracleProposal : Except GatewayError QueuedAction := do
  let status ← getGovernanceStatus contract
  let newOracleAddress ← validateAddressInput ethers request.address "newOracleAddress"
  refuseIf (toLowerCase newOracleAddress = toLowerCase status.oracleAddress)
    (conflictError "New oracle address matches the current oracle address")
  return ⟨.oracleUpdate, "proposeOracleUpdate", none, some newOracleAddress⟩

/-- `if (!proposal) throw`. -/
def foundProposal (texts : ProposalTexts) : Option GovernanceProposalState → Except GatewayError GovernanceProposalState
  | some proposal => .ok proposal
  | none => .error ⟨404, "NOT_FOUND", texts.title ++ " not found"⟩

/-! The routes of a family are given what the status service reads of its proposals. -/

/-- The route of a family that approves a proposal. -/
def queueApproval (texts : ProposalTexts)
    (getProposalState : Nat → Except GatewayError (Option GovernanceProposalState))
    (hasApproved : Nat → String → Except GatewayError Bool) (category : GovernanceActionCategory)
    (contractMethod : String) : Except GatewayError QueuedAction := do
  let proposalId ← validateProposalId request.proposalId
  let found ← getProposalState proposalId
  let proposal ← foundProposal texts found
  refuseIf (proposal.executed ∨ proposal.cancelled ∨ proposal.expired)
    (conflictError (texts.title ++ " is no longer approvable"))
  let approved ← hasApproved proposalId request.walletAddress
  refuseIf (approved = true) (conflictError texts.approved)
  return ⟨category, contractMethod, some proposalId, some proposal.targetAddress⟩

/-- The route of a family that executes a proposal. -/
def queueExecution (texts : ProposalTexts)
    (getProposalState : Nat → Except GatewayError (Option GovernanceProposalState))
    (category : GovernanceActionCategory) (contractMethod : String) : Except GatewayError QueuedAction := do
  let proposalId ← validateProposalId request.proposalId
  let found ← getProposalState proposalId
  let proposal ← foundProposal texts found
  refuseIf (proposal.executed ∨ proposal.cancelled ∨ proposal.expired)
    (conflictError (texts.title ++ " is not executable"))
  let status ← getGovernanceStatus contract
  refuseIf (proposal.approvalCount < status.governanceApprovalsRequired)
    (conflictError (texts.title ++ " does not have enough approvals"))
  refuseIf (proposal.etaSeconds > now) (conflictError (texts.title ++ " timelock has not elapsed"))
  return ⟨category, contractMethod, some proposalId, some proposal.targetAddress⟩

/-- The route of a family that cancels an expired proposal. -/
def queueCancellation (texts : ProposalTexts)
    (getProposalState : Nat → Except GatewayError (Option GovernanceProposalState))
    (category : GovernanceActionCategory) (contractMethod : String) : Except GatewayError QueuedAction := do
  let proposalId ← validateProposalId request.proposalId
  let found ← getProposalState proposalId
  let proposal ← foundProposal texts found
  refuseIf (proposal.executed ∨ proposal.cancelled ∨ ¬ proposal.expired)
    (conflictError (texts.title ++ " is not cancellable as expired"))
  return ⟨category, contractMethod, some proposalId, some proposal.targetAddress⟩

def queueApprovePayoutReceiver : Except GatewayError QueuedAction :=
  queueApproval request payoutReceiverTexts (getTreasuryPayoutReceiverProposalState contract now)
    (hasApprovedTreasuryPayoutReceiverProposal contract) .treasuryPayoutReceiverUpdate "approveTreasuryPayoutAddressUpdate"

def queueExecutePayoutReceiver : Except GatewayError QueuedAction :=
  queueExecution contract now request payoutReceiverTexts (getTreasuryPayoutReceiverProposalState contract now)
    .treasuryPayoutReceiverUpdate "executeTreasuryPayoutAddressUpdate"

def queueCancelExpiredPayoutReceiver : Except GatewayError QueuedAction :=
  queueCancellation request payoutReceiverTexts (getTreasuryPayoutReceiverProposalState contract now)
    .treasuryPayoutReceiverUpdate "cancelExpiredTreasuryPayoutAddressUpdateProposal"

def queueApproveOracle : Except GatewayError QueuedAction :=
  queueApproval request oracleTexts (getOracleProposalState contract now) (hasApprovedOracleProposal contract)
    .oracleUpdate "approveOracleUpdate"

def queueExecuteOracle : Except GatewayError QueuedAction :=
  queueExecution contract now request oracleTexts (getOracleProposalState contract now) .oracleUpdate
    "executeOracleUpdate"

def queueCancelExpiredOracle : Except GatewayError QueuedAction :=
  queueCancellation request oracleTexts (getOracleProposalState contract now) .oracleUpdate
    "cancelExpiredOracleUpdateProposal"

/-- What a route queues, or the error that it answers with. -/
def GovernanceRoute.queue : GovernanceRoute → Except GatewayError QueuedAction
  | .pause => queuePause contract
  | .unpauseProposal => queueUnpauseProposal contract
  | .approveUnpause => queueApproveUnpause contract request
  | .cancelUnpause => queueCancelUnpause contract
  | .claimsPause => queueClaimsPause contract
  | .claimsUnpause => queueClaimsUnpause contract
  | .treasurySweep => queueTreasurySweep contract
  | .payoutReceiverProposals => queuePayoutReceiverProposal ethers contract request
  | .approvePayoutReceiver => queueApprovePayoutReceiver contract now request
  | .executePayoutReceiver => queueExecutePayoutReceiver contract now request
  | .cancelExpiredPayoutReceiver => queueCancelExpiredPayoutReceiver contract now request
  | .disableOracleEmergency => queueDisableOracleEmergency contract
  | .oracleProposals => queueOracleProposal ethers contract request
  | .approveOracle => queueApproveOracle contract now request
  | .executeOracle => queueExecuteOracle contract now request
  | .cancelExpiredOracle => queueCancelExpiredOracle contract now request

end Routes

end Agroasys.Gateway
