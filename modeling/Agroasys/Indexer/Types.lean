import Agroasys.Foundation.WriteBack
import Agroasys.Runtime.Text

/-! The indexer's entities, the rows of its event tables, the logs it gets from ethers and
the blocks it gets from the processor. Counts and timestamps are far below `2 ^ 53`, so
`Number` loses nothing. -/

namespace Agroasys.Indexer

open Agroasys.Foundation

/-- A number of a decoded log or of the code that reads it. -/
inductive JsValue where
  | bigint (value : Nat)
  | number (value : Nat)
  deriving DecidableEq

/-- `===`, which never holds between a bigint and a number. -/
def JsValue.strictEquals (first second : JsValue) : Bool := decide (first = second)

/-- `Number(value)`. -/
def JsValue.toNumber : JsValue → Nat
  | bigint value | number value => value

inductive TradeStatus where
  | locked
  | inTransit
  | arrivalConfirmed
  | frozen
  | closed
  deriving DecidableEq, Repr

inductive DisputeStatus where
  | refund
  | resolve
  deriving DecidableEq, Repr

inductive ClaimType where
  | stage1Supplier
  | stage1LogisticsFee
  | stage1PlatformFee
  | stage2Supplier
  | lockTimeoutBuyerRefund
  | inTransitTimeoutBuyerRefund
  | disputeRefundBuyer
  | disputeResolveSupplier
  deriving DecidableEq, Repr

/-- `Object.values(ClaimType)`. -/
def claimTypeValues : List ClaimType :=
  [.stage1Supplier, .stage1LogisticsFee, .stage1PlatformFee, .stage2Supplier, .lockTimeoutBuyerRefund,
    .inTransitTimeoutBuyerRefund, .disputeRefundBuyer, .disputeResolveSupplier]

/-- Dates are in milliseconds. -/
structure Trade where
  id : String
  tradeId : String
  buyer : String
  supplier : String
  status : TradeStatus
  totalAmountLocked : Nat
  logisticsAmount : Nat
  platformFeesAmount : Nat
  supplierFirstTranche : Nat
  supplierSecondTranche : Nat
  ricardianHash : String
  createdAt : Nat
  arrivalTimestamp : Option Nat
  deriving DecidableEq

/-- The columns that the three proposal entities share, with those of one family. -/
structure Proposal (Subject : Type) where
  id : String
  proposalId : String
  subject : Subject
  approvalCount : Nat
  executed : Bool
  createdAt : Nat
  proposer : String
  expiresAt : Nat
  cancelled : Bool
  deriving DecidableEq

/-- `trade` is the id of the related entity. -/
structure Dispute where
  trade : String
  disputeStatus : DisputeStatus
  deriving DecidableEq

structure OracleUpdate where
  newOracle : String
  eta : Nat
  emergencyFastTrack : Bool
  deriving DecidableEq

structure AdminAdd where
  newAdmin : String
  eta : Nat
  deriving DecidableEq

abbrev DisputeProposal := Proposal Dispute
abbrev OracleUpdateProposal := Proposal OracleUpdate
abbrev AdminAddProposal := Proposal AdminAdd

/-- The columns that every event table has. -/
structure EventRow where
  id : String
  eventName : String
  blockNumber : Nat
  timestamp : Nat
  txHash : Option String
  extrinsicHash : Option String
  extrinsicIndex : Nat
  deriving DecidableEq

structure TradeEvent extends EventRow where
  trade : String
  totalAmount : Option Nat := none
  logisticsAmount : Option Nat := none
  platformFeesAmount : Option Nat := none
  supplierFirstTranche : Option Nat := none
  supplierSecondTranche : Option Nat := none
  releasedFirstTranche : Option Nat := none
  releasedLogisticsAmount : Option Nat := none
  treasuryAddress : Option String := none
  paidPlatformFees : Option Nat := none
  arrivalTimestamp : Option Nat := none
  finalTranche : Option Nat := none
  finalRecipient : Option String := none
  refundedAmount : Option Nat := none
  refundedTo : Option String := none
  refundedBuyerPrincipal : Option Nat := none
  payoutRecipient : Option String := none
  payoutAmount : Option Nat := none
  payoutType : Option DisputeStatus := none
  relatedProposalId : Option String := none
  claimType : Option ClaimType := none
  claimRecipient : Option String := none
  claimAmount : Option Nat := none
  deriving DecidableEq

structure DisputeEvent extends EventRow where
  dispute : String
  proposedDisputeStatus : Option DisputeStatus := none
  proposer : Option String := none
  approver : Option String := none
  approvalCount : Option Nat := none
  requiredApprovals : Option Nat := none
  finalDisputeStatus : Option DisputeStatus := none
  cancelledBy : Option String := none
  deriving DecidableEq

structure OracleEvent extends EventRow where
  oracleUpdate : Option String
  proposedOracle : Option String := none
  eta : Option Nat := none
  proposer : Option String := none
  approver : Option String := none
  approvalCount : Option Nat := none
  requiredApprovals : Option Nat := none
  oldOracle : Option String := none
  newOracle : Option String := none
  cancelledBy : Option String := none
  disabledBy : Option String := none
  previousOracle : Option String := none
  deriving DecidableEq

structure AdminEvent extends EventRow where
  adminAddProposal : Option String
  proposedAdmin : Option String := none
  eta : Option Nat := none
  proposer : Option String := none
  approver : Option String := none
  approvalCount : Option Nat := none
  requiredApprovals : Option Nat := none
  addedAdmin : Option String := none
  cancelledBy : Option String := none
  deriving DecidableEq

structure SystemEvent extends EventRow where
  triggeredBy : Option String := none
  claimAmount : Option Nat := none
  proposalId : Option String := none
  treasuryIdentity : Option String := none
  payoutReceiver : Option String := none
  oldPayoutReceiver : Option String := none
  newPayoutReceiver : Option String := none
  approvalCount : Option Nat := none
  requiredApprovals : Option Nat := none
  eta : Option Nat := none
  deriving DecidableEq

/-- A decoded log: its name with its arguments. Every `uint` is a bigint; the small ones
that the code compares or converts are kept as values. -/
inductive Log where
  | tradeLocked (tradeId : Nat) (buyer supplier : String)
      (totalAmount logisticsAmount platformFeesAmount supplierFirstTranche supplierSecondTranche : Nat)
      (ricardianHash : String)
  | fundsReleasedStage1 (tradeId : Nat) (supplier : String) (supplierFirstTranche : Nat) (treasury : String)
      (logisticsAmount : Nat)
  | platformFeesPaidStage1 (tradeId : Nat) (treasury : String) (platformFeesAmount : Nat)
  | arrivalConfirmed (tradeId arrivalTimestamp : Nat)
  | finalTrancheReleased (tradeId : Nat) (supplier : String) (supplierSecondTranche : Nat)
  | disputeOpenedByBuyer (tradeId : Nat)
  | tradeCancelledAfterLockTimeout (tradeId : Nat) (buyer : String) (refundedAmount : Nat)
  | inTransitTimeoutRefunded (tradeId : Nat) (buyer : String) (refundedAmount : Nat)
  | disputeSolutionProposed (proposalId tradeId : Nat) (disputeStatus : JsValue) (proposer : String)
  | disputeApproved (proposalId : Nat) (approver : String) (approvalCount requiredApprovals : JsValue)
  | disputeFinalized (proposalId tradeId : Nat) (disputeStatus : JsValue)
  | disputeProposalExpiredCancelled (proposalId tradeId : Nat) (cancelledBy : String)
  | disputePayout (tradeId proposalId : Nat) (recipient : String) (amount : Nat) (payoutType : JsValue)
  | oracleUpdateProposed (proposalId : Nat) (proposer newOracle : String) (eta : Nat)
      (emergencyFastTrack : Bool)
  | oracleUpdateApproved (proposalId : Nat) (approver : String) (approvalCount requiredApprovals : JsValue)
  | oracleUpdated (oldOracle newOracle : String)
  | oracleUpdateProposalExpiredCancelled (proposalId : Nat) (cancelledBy : String)
  | oracleDisabledEmergency (disabledBy previousOracle : String)
  | adminAddProposed (proposalId : Nat) (proposer newAdmin : String) (eta : Nat)
  | adminAddApproved (proposalId : Nat) (approver : String) (approvalCount requiredApprovals : JsValue)
  | adminAdded (newAdmin : String)
  | adminAddProposalExpiredCancelled (proposalId : Nat) (cancelledBy : String)
  | paused (triggeredBy : String)
  | unpauseProposed (triggeredBy : String)
  | unpauseApproved (triggeredBy : String) (approvalCount requiredApprovals : JsValue)
  | unpauseProposalCancelled (triggeredBy : String)
  | unpaused (triggeredBy : String)
  | claimsPaused (triggeredBy : String)
  | claimsUnpaused (triggeredBy : String)
  | claimed (claimant : String) (amount : Nat)
  | treasuryClaimed (treasuryIdentity payoutReceiver : String) (amount : Nat) (triggeredBy : String)
  | treasuryPayoutAddressUpdateProposed (proposalId : Nat) (proposer newPayoutReceiver : String) (eta : Nat)
  | treasuryPayoutAddressUpdateApproved (proposalId : Nat) (approver : String)
      (approvalCount requiredApprovals : JsValue)
  | treasuryPayoutAddressUpdated (oldPayoutReceiver newPayoutReceiver : String)
  | treasuryPayoutAddressUpdateProposalExpiredCancelled (proposalId : Nat) (cancelledBy : String)
  | claimableAccrued (tradeId : Nat) (recipient : String) (amount : Nat) (claimType : JsValue)
  /-- A name that the switch does not list, such as `FundsReleasedStage2`. -/
  | other

/-- What the processor gives of an extrinsic. -/
structure Extrinsic where
  index : Nat
  hash : Option String
  callName : Option String
  payload : Option String

/-- An event of a block; `Raw` is what `topics` and `data` hold. -/
structure ChainEvent (Raw : Type) where
  id : String
  name : String
  extrinsicIndex : Option Nat
  contract : String
  raw : Raw

structure Block (Raw : Type) where
  height : Nat
  timestamp : Option Nat
  events : List (ChainEvent Raw)
  extrinsics : List Extrinsic

/-- The functions of ethers that the indexer calls. `none` is a log that does not parse and
a payload that `keccak256` rejects. -/
structure Ethers (Raw : Type) where
  parseLog : Raw → Option Log
  keccak256 : String → Option String

/-- The tables and what a batch holds of them. -/
structure Tables where
  trades : WriteBack String Trade
  tradeEvents : Journal TradeEvent
  disputeProposals : WriteBack String DisputeProposal
  disputeEvents : Journal DisputeEvent
  oracleUpdateProposals : WriteBack String OracleUpdateProposal
  oracleEvents : Journal OracleEvent
  adminAddProposals : WriteBack String AdminAddProposal
  adminEvents : Journal AdminEvent
  systemEvents : Journal SystemEvent

def Tables.empty : Tables where
  trades := .empty
  tradeEvents := .empty
  disputeProposals := .empty
  disputeEvents := .empty
  oracleUpdateProposals := .empty
  oracleEvents := .empty
  adminAddProposals := .empty
  adminEvents := .empty
  systemEvents := .empty

end Agroasys.Indexer
