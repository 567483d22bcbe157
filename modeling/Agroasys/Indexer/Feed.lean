import Agroasys.Escrow.Types
import Agroasys.Indexer.Handlers

namespace Agroasys.Indexer

open Function Agroasys.Foundation Agroasys.Runtime

variable {Raw : Type}

section Decoding

/-- The lowercase hexadecimal text of a number, with leading zeros. -/
def hexText (digits value : Nat) : String :=
  "0x" ++ String.ofList ((List.range digits).reverse.map fun place => Nat.digitChar (value / 16 ^ place % 16))

def addressText (address : Escrow.Address) : String := hexText 40 address.bits.toNat

def TradeStatus.of : Escrow.TradeStatus → TradeStatus
  | .locked => .locked
  | .inTransit => .inTransit
  | .arrivalConfirmed => .arrivalConfirmed
  | .frozen => .frozen
  | .closed => .closed

def DisputeStatus.of : Escrow.DisputeStatus → DisputeStatus
  | .refund => .refund
  | .resolve => .resolve

/-- The `uint8` of an enumeration of the contract. -/
def disputeStatusCode : Escrow.DisputeStatus → JsValue
  | .refund => .bigint 0
  | .resolve => .bigint 1

def claimTypeCode : Escrow.ClaimType → JsValue
  | .stage1Supplier => .bigint 0
  | .stage1LogisticsFee => .bigint 1
  | .stage1PlatformFee => .bigint 2
  | .stage2Supplier => .bigint 3
  | .lockTimeoutBuyerRefund => .bigint 4
  | .inTransitTimeoutBuyerRefund => .bigint 5
  | .disputeRefundBuyer => .bigint 6
  | .disputeResolveSupplier => .bigint 7

/-- What `Interface.parseLog` of ethers v6 makes of an event: bigints, checksummed addresses
and hexadecimal texts, in the order of the ABI. -/
def decode (getAddress : Escrow.Address → String) : Escrow.Event → Log
  | .tradeLocked tradeId buyer supplier totalAmount logisticsAmount platformFeesAmount
      supplierFirstTranche supplierSecondTranche ricardianHash =>
    .tradeLocked tradeId (getAddress buyer) (getAddress supplier) totalAmount logisticsAmount
      platformFeesAmount supplierFirstTranche supplierSecondTranche (hexText 64 ricardianHash.toNat)
  | .fundsReleasedStage1 tradeId supplier supplierFirstTranche treasury logisticsAmount =>
    .fundsReleasedStage1 tradeId (getAddress supplier) supplierFirstTranche (getAddress treasury)
      logisticsAmount
  | .platformFeesPaidStage1 tradeId treasury platformFeesAmount =>
    .platformFeesPaidStage1 tradeId (getAddress treasury) platformFeesAmount
  | .arrivalConfirmed tradeId arrivalTimestamp => .arrivalConfirmed tradeId arrivalTimestamp
  | .finalTrancheReleased tradeId supplier supplierSecondTranche =>
    .finalTrancheReleased tradeId (getAddress supplier) supplierSecondTranche
  | .disputeOpenedByBuyer tradeId => .disputeOpenedByBuyer tradeId
  | .disputeSolutionProposed proposalId tradeId disputeStatus proposer =>
    .disputeSolutionProposed proposalId tradeId (disputeStatusCode disputeStatus) (getAddress proposer)
  | .disputeApproved proposalId approver approvalCount requiredApprovals =>
    .disputeApproved proposalId (getAddress approver) (.bigint approvalCount) (.bigint requiredApprovals)
  | .disputeFinalized proposalId tradeId disputeStatus =>
    .disputeFinalized proposalId tradeId (disputeStatusCode disputeStatus)
  | .unpauseProposed proposer => .unpauseProposed (getAddress proposer)
  | .unpauseApproved approver approvalCount requiredApprovals =>
    .unpauseApproved (getAddress approver) (.bigint approvalCount) (.bigint requiredApprovals)
  | .unpauseProposalCancelled cancelledBy => .unpauseProposalCancelled (getAddress cancelledBy)
  | .oracleUpdateProposed proposalId proposer newOracle eta emergencyFastTrack =>
    .oracleUpdateProposed proposalId (getAddress proposer) (getAddress newOracle) eta emergencyFastTrack
  | .oracleUpdateApproved proposalId approver approvalCount requiredApprovals =>
    .oracleUpdateApproved proposalId (getAddress approver) (.bigint approvalCount) (.bigint requiredApprovals)
  | .oracleUpdated oldOracle newOracle => .oracleUpdated (getAddress oldOracle) (getAddress newOracle)
  | .adminAddProposed proposalId proposer newAdmin eta =>
    .adminAddProposed proposalId (getAddress proposer) (getAddress newAdmin) eta
  | .adminAddApproved proposalId approver approvalCount requiredApprovals =>
    .adminAddApproved proposalId (getAddress approver) (.bigint approvalCount) (.bigint requiredApprovals)
  | .adminAdded newAdmin => .adminAdded (getAddress newAdmin)
  | .treasuryPayoutAddressUpdateProposed proposalId proposer newPayoutReceiver eta =>
    .treasuryPayoutAddressUpdateProposed proposalId (getAddress proposer) (getAddress newPayoutReceiver) eta
  | .treasuryPayoutAddressUpdateApproved proposalId approver approvalCount requiredApprovals =>
    .treasuryPayoutAddressUpdateApproved proposalId (getAddress approver) (.bigint approvalCount)
      (.bigint requiredApprovals)
  | .treasuryPayoutAddressUpdated oldPayoutReceiver newPayoutReceiver =>
    .treasuryPayoutAddressUpdated (getAddress oldPayoutReceiver) (getAddress newPayoutReceiver)
  | .treasuryPayoutAddressUpdateProposalExpiredCancelled proposalId cancelledBy =>
    .treasuryPayoutAddressUpdateProposalExpiredCancelled proposalId (getAddress cancelledBy)
  | .treasuryClaimed treasuryIdentity payoutReceiver amount triggeredBy =>
    .treasuryClaimed (getAddress treasuryIdentity) (getAddress payoutReceiver) amount (getAddress triggeredBy)
  | .oracleDisabledEmergency disabledBy previousOracle =>
    .oracleDisabledEmergency (getAddress disabledBy) (getAddress previousOracle)
  | .tradeCancelledAfterLockTimeout tradeId buyer refundedAmount =>
    .tradeCancelledAfterLockTimeout tradeId (getAddress buyer) refundedAmount
  | .inTransitTimeoutRefunded tradeId buyer refundedAmount =>
    .inTransitTimeoutRefunded tradeId (getAddress buyer) refundedAmount
  | .disputeProposalExpiredCancelled proposalId tradeId cancelledBy =>
    .disputeProposalExpiredCancelled proposalId tradeId (getAddress cancelledBy)
  | .disputePayout tradeId proposalId recipient amount payoutType =>
    .disputePayout tradeId proposalId (getAddress recipient) amount (disputeStatusCode payoutType)
  | .claimableAccrued tradeId recipient amount claimType =>
    .claimableAccrued tradeId (getAddress recipient) amount (claimTypeCode claimType)
  | .claimed claimant amount => .claimed (getAddress claimant) amount
  | .claimsPaused triggeredBy => .claimsPaused (getAddress triggeredBy)
  | .claimsUnpaused triggeredBy => .claimsUnpaused (getAddress triggeredBy)
  | .oracleUpdateProposalExpiredCancelled proposalId cancelledBy =>
    .oracleUpdateProposalExpiredCancelled proposalId (getAddress cancelledBy)
  | .adminAddProposalExpiredCancelled proposalId cancelledBy =>
    .adminAddProposalExpiredCancelled proposalId (getAddress cancelledBy)
  | .paused account => .paused (getAddress account)
  | .unpaused account => .unpaused (getAddress account)

/-- Ethers decodes what the contract encodes, and a checksum only changes the case of an
address. -/
structure Ethers.Decodes (ethers : Ethers Raw) (encode : Escrow.Event → Raw)
    (getAddress : Escrow.Address → String) : Prop where
  parses : ∀ event, ethers.parseLog (encode event) = some (decode getAddress event)
  checksum : ∀ address, toLowerCase (getAddress address) = addressText address

/-- No decision is read as a refund: a bigint is never the number `0`. -/
theorem disputeStatusEnum_code (decision : Escrow.DisputeStatus) :
    disputeStatusEnum (disputeStatusCode decision) = .resolve := by
  cases decision <;> rfl

end Decoding

section Feed

/-- The logs of the escrow contract in a feed, in order. -/
def emissions (escrowAddress : String) (batches : List (List (Block Raw))) : List Raw :=
  batches.flatMap fun batch =>
    batch.flatMap fun block => (block.events.filter (·.escrow escrowAddress)).map (·.raw)

/-- A feed brings the given events of the contract, in batches of any size and among
anything else, and no hash of an extrinsic is also the hash of its payload. -/
structure Brings (ethers : Ethers Raw) (escrowAddress : String) (encode : Escrow.Event → Raw)
    (batches : List (List (Block Raw))) (events : List Escrow.Event) : Prop where
  emitted : emissions escrowAddress batches = events.map encode
  distinguished : ∀ batch ∈ batches, ∀ block ∈ batch, ∀ event ∈ block.events,
    hashesClash (block.hashes ethers event) = false

/-- What the indexer does one after the other. -/
inductive Moment (Raw : Type) where
  | arrival (block : Block Raw) (event : ChainEvent Raw)
  | endOfBatch

def batchMoments (batch : List (Block Raw)) : List (Moment Raw) :=
  batch.flatMap (fun block => block.events.map (.arrival block)) ++ [.endOfBatch]

def Moment.act (ethers : Ethers Raw) (escrowAddress : String) (s : Tables) : Moment Raw → Tables
  | .arrival block event => processEvent ethers escrowAddress block event s
  | .endOfBatch => s.flush

/-- The log that a moment brings. -/
def Moment.log? (ethers : Ethers Raw) (escrowAddress : String) : Moment Raw → Option Log
  | .arrival _ event => if event.escrow escrowAddress then ethers.parseLog event.raw else none
  | .endOfBatch => none

theorem index_moments (ethers : Ethers Raw) (escrowAddress : String) (batches : List (List (Block Raw))) :
    index ethers escrowAddress batches =
      (batches.flatMap batchMoments).foldl (Moment.act ethers escrowAddress) .empty := by
  rw [index, List.foldl_flatMap]
  congr
  funext s batch
  rw [batchMoments, List.foldl_append, List.foldl_flatMap]
  simp only [List.foldl_map, List.foldl_cons, List.foldl_nil]
  rfl

theorem moments_logs {ethers : Ethers Raw} {events : List Escrow.Event}
    (decodes : ethers.Decodes encode getAddress)
    (emitted : emissions escrowAddress batches = events.map encode) :
    (batches.flatMap batchMoments).filterMap (Moment.log? ethers escrowAddress) =
      events.map (decode getAddress) := by
  have parsed : (emissions escrowAddress batches).filterMap ethers.parseLog = events.map (decode getAddress) := by
    rw [emitted, List.filterMap_map]
    simp [decodes.parses]
  rw [← parsed, emissions, List.filterMap_flatMap, List.filterMap_flatMap]
  congr
  funext batch
  rw [batchMoments, List.filterMap_append, List.filterMap_flatMap, List.filterMap_flatMap]
  simp [List.filterMap_filter, Function.comp_def, Moment.log?]

end Feed

end Agroasys.Indexer
