import Agroasys.Escrow.Transactions
import Agroasys.Foundation.Outcomes
import Agroasys.Gateway.Principal
import Agroasys.Runtime.Integers
import Agroasys.Sdk.Addresses

namespace Agroasys.Gateway

open Agroasys.Foundation Agroasys.Runtime Agroasys.Sdk

/-- What a service throws when it cannot answer from the chain. -/
def unavailable (message : String) : GatewayError :=
  ⟨503, "UPSTREAM_UNAVAILABLE", message⟩

section Contract

/-- A stored proposal: `target` is its `newOracle`, or its `newPayoutReceiver`. -/
structure ProposalView where
  target : String
  approvalCount : Nat
  executed : Bool
  createdAt : Nat
  eta : Nat

/-- The getters of a family of proposals; an account that is no address fails the call. -/
structure ProposalGetters where
  counter : Nat
  hasApproved : Nat → String → Option Bool
  proposals : Nat → ProposalView
  expiresAt : Nat → Nat
  cancelled : Nat → Bool

/-- `GovernanceContractShape`, its calls answered. -/
structure GovernanceContract where
  paused : Bool
  claimsPaused : Bool
  oracleActive : Bool
  oracleAddress : String
  treasuryAddress : String
  treasuryPayoutAddress : String
  claimableUsdc : String → Option Nat
  governanceApprovals : Nat
  governanceTimelock : Nat
  requiredApprovals : Nat
  hasActiveUnpauseProposal : Bool
  unpauseHasApproved : String → Option Bool
  unpauseApprovalCount : Nat
  unpauseExecuted : Bool
  oracleUpdate : ProposalGetters
  treasuryPayoutAddressUpdate : ProposalGetters

variable (ethers : Ethers) {Matter σ : Type}

/-- The getters of a book of proposals, its addresses as ethers writes and reads them. -/
def proposalGetters (target : Matter → Escrow.Address) (eta : Matter → Nat)
    (book : ProposalBook Escrow.Address Matter) : ProposalGetters where
  counter := book.counter
  hasApproved proposalId account := (ethers.resolveAddress account).map (book.hasApproved proposalId)
  proposals proposalId :=
    let proposal := book.proposals proposalId
    ⟨ethers.format (target proposal.matter), proposal.approvalCount, proposal.executed, proposal.createdAt,
      eta proposal.matter⟩
  expiresAt := book.expiresAt
  cancelled := book.cancelled

/-- The escrow behind `ESCROW_GOVERNANCE_READ_ABI`. -/
def governanceContract (s : Escrow.World σ) : GovernanceContract where
  paused := s.paused
  claimsPaused := s.claimsPaused
  oracleActive := s.oracleActive
  oracleAddress := ethers.format s.oracleAddress
  treasuryAddress := ethers.format s.treasuryAddress
  treasuryPayoutAddress := ethers.format s.treasuryPayoutAddress
  claimableUsdc account := (ethers.resolveAddress account).map s.claimableUsdc
  governanceApprovals := s.governanceApprovals
  governanceTimelock := s.governanceTimelock
  requiredApprovals := s.requiredApprovals
  hasActiveUnpauseProposal := s.hasActiveUnpauseProposal
  unpauseHasApproved account := (ethers.resolveAddress account).map s.unpauseHasApproved
  unpauseApprovalCount := s.unpauseProposal.approvalCount
  unpauseExecuted := s.unpauseProposal.executed
  oracleUpdate := proposalGetters ethers (·.newOracle) (·.eta) s.oracleUpdate
  treasuryPayoutAddressUpdate := proposalGetters ethers (·.newPayoutReceiver) (·.eta) s.treasuryPayoutAddressUpdate

end Contract

section Service

structure GovernanceStatusSnapshot where
  paused : Bool
  claimsPaused : Bool
  oracleActive : Bool
  oracleAddress : String
  treasuryAddress : String
  treasuryPayoutAddress : String
  governanceApprovalsRequired : Nat
  governanceTimelockSeconds : Nat
  requiredAdminCount : Nat
  hasActiveUnpauseProposal : Bool
  activeUnpauseApprovals : Nat

structure UnpauseProposalState where
  hasActiveProposal : Bool
  approvalCount : Nat
  executed : Bool

structure GovernanceProposalState where
  proposalId : Nat
  approvalCount : Nat
  executed : Bool
  cancelled : Bool
  expired : Bool
  etaSeconds : Nat
  targetAddress : String

def toSafeInteger (value : Nat) (field : String) : Except GatewayError Nat :=
  let numeric := roundToDouble value
  if numeric < 2 ^ 53 then .ok numeric
  else .error (unavailable s!"On-chain field '{field}' exceeds safe integer range")

variable (contract : GovernanceContract)

/-- `hasActiveUnpauseProposal ? toSafeInteger(...) : 0`. -/
def activeUnpauseApprovals : Except GatewayError Nat :=
  if contract.hasActiveUnpauseProposal then
    toSafeInteger contract.unpauseApprovalCount "unpauseProposal.approvalCount"
  else .ok 0

/-- `getGovernanceStatus`, asked for no proposals. -/
def getGovernanceStatus : Except GatewayError GovernanceStatusSnapshot := do
  let governanceApprovalsRequired ← toSafeInteger contract.governanceApprovals "governanceApprovals"
  let governanceTimelockSeconds ← toSafeInteger contract.governanceTimelock "governanceTimelock"
  let requiredAdminCount ← toSafeInteger contract.requiredApprovals "requiredApprovals"
  let approvals ← activeUnpauseApprovals contract
  return {
    paused := contract.paused
    claimsPaused := contract.claimsPaused
    oracleActive := contract.oracleActive
    oracleAddress := contract.oracleAddress
    treasuryAddress := contract.treasuryAddress
    treasuryPayoutAddress := contract.treasuryPayoutAddress
    governanceApprovalsRequired := governanceApprovalsRequired
    governanceTimelockSeconds := governanceTimelockSeconds
    requiredAdminCount := requiredAdminCount
    hasActiveUnpauseProposal := contract.hasActiveUnpauseProposal
    activeUnpauseApprovals := approvals }

/-- A service's `catch`, which throws an error of its own for every other. -/
def orUnavailable (message : String) (result : Except GatewayError α) : Except GatewayError α :=
  result.mapError fun _ => unavailable message

/-- The answer of a call, or the error of a call that fails. -/
def answered (message : String) (answer : Option α) : Except GatewayError α :=
  match answer with
  | some value => .ok value
  | none => .error (unavailable message)

def getUnpauseProposalState : Except GatewayError UnpauseProposalState :=
  orUnavailable "Failed to read unpause proposal state" do
    let approvalCount ← activeUnpauseApprovals contract
    return ⟨contract.hasActiveUnpauseProposal, approvalCount, contract.unpauseExecuted⟩

/-- The texts in which the services and the routes of the two families of proposals differ. -/
structure ProposalTexts where
  counter : String
  expiresAt : String
  proposal : String
  failure : String
  approvalFailure : String
  title : String
  approved : String

/-- A family's `getOracleProposalState`, or `getTreasuryPayoutReceiverProposalState`. -/
def getProposalState (texts : ProposalTexts) (getters : ProposalGetters) (now proposalId : Nat) :
    Except GatewayError (Option GovernanceProposalState) :=
  orUnavailable texts.failure do
    let counter ← toSafeInteger getters.counter texts.counter
    if counter ≤ proposalId then return none
    let proposal := getters.proposals proposalId
    if proposal.createdAt ≤ 0 then return none
    let expirySeconds ← toSafeInteger (getters.expiresAt proposalId) texts.expiresAt
    let approvalCount ← toSafeInteger proposal.approvalCount (texts.proposal ++ ".approvalCount")
    let etaSeconds ← toSafeInteger proposal.eta (texts.proposal ++ ".eta")
    return some {
      proposalId := proposalId
      approvalCount := approvalCount
      executed := proposal.executed
      cancelled := getters.cancelled proposalId
      expired := expirySeconds < now
      etaSeconds := etaSeconds
      targetAddress := proposal.target }

/-- A family's `hasApprovedOracleProposal`, or `hasApprovedTreasuryPayoutReceiverProposal`. -/
def hasApprovedProposal (texts : ProposalTexts) (getters : ProposalGetters) (proposalId : Nat)
    (walletAddress : String) : Except GatewayError Bool :=
  answered texts.approvalFailure (getters.hasApproved proposalId walletAddress)

def oracleTexts : ProposalTexts where
  counter := "oracleUpdateCounter"
  expiresAt := "oracleUpdateProposalExpiresAt"
  proposal := "oracleUpdateProposal"
  failure := "Failed to read oracle proposal state"
  approvalFailure := "Failed to read oracle approval state"
  title := "Oracle update proposal"
  approved := "Caller has already approved this oracle update proposal"

def payoutReceiverTexts : ProposalTexts where
  counter := "treasuryPayoutAddressUpdateCounter"
  expiresAt := "treasuryPayoutAddressUpdateProposalExpiresAt"
  proposal := "treasuryPayoutAddressUpdateProposal"
  failure := "Failed to read treasury payout receiver proposal state"
  approvalFailure := "Failed to read treasury payout receiver approval state"
  title := "Treasury payout receiver proposal"
  approved := "Caller has already approved this treasury payout receiver proposal"

def getOracleProposalState (now proposalId : Nat) : Except GatewayError (Option GovernanceProposalState) :=
  getProposalState oracleTexts contract.oracleUpdate now proposalId

def getTreasuryPayoutReceiverProposalState (now proposalId : Nat) :
    Except GatewayError (Option GovernanceProposalState) :=
  getProposalState payoutReceiverTexts contract.treasuryPayoutAddressUpdate now proposalId

def getTreasuryClaimableBalance : Except GatewayError Nat :=
  answered "Failed to read treasury claimable balance" (contract.claimableUsdc contract.treasuryAddress)

def hasApprovedUnpause (walletAddress : String) : Except GatewayError Bool :=
  answered "Failed to read unpause approval state" (contract.unpauseHasApproved walletAddress)

def hasApprovedOracleProposal (proposalId : Nat) (walletAddress : String) : Except GatewayError Bool :=
  hasApprovedProposal oracleTexts contract.oracleUpdate proposalId walletAddress

def hasApprovedTreasuryPayoutReceiverProposal (proposalId : Nat) (walletAddress : String) : Except GatewayError Bool :=
  hasApprovedProposal payoutReceiverTexts contract.treasuryPayoutAddressUpdate proposalId walletAddress

end Service

end Agroasys.Gateway
