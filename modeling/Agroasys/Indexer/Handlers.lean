import Agroasys.Indexer.Types

namespace Agroasys.Indexer

open Agroasys.Foundation Agroasys.Runtime

variable {Raw : Type}

/-- What every handler is told about the event it handles. -/
structure Origin where
  eventId : String
  blockNumber : Nat
  timestamp : Nat
  txHash : Option String
  extrinsicHash : Option String
  extrinsicIndex : Nat

def Origin.row (origin : Origin) (eventName : String) : EventRow where
  id := origin.eventId
  eventName := eventName
  blockNumber := origin.blockNumber
  timestamp := origin.timestamp
  txHash := origin.txHash
  extrinsicHash := origin.extrinsicHash
  extrinsicIndex := origin.extrinsicIndex

/-- `getOrLoadTrade`, and what the handler does with the trade it finds; without one the
handler gives up. -/
def withTrade (tradeId : Nat) (s : Tables) (handle : Trade → Tables → Tables) : Tables :=
  match s.trades.load (toString tradeId) with
  | (some trade, trades) => handle trade { s with trades := trades }
  | (none, _) => s

/-- The handlers that move a trade to another status. -/
def moveTrade (tradeId : Nat) (change : Trade → Trade) (event : Trade → TradeEvent) (s : Tables) : Tables :=
  withTrade tradeId s fun trade s =>
    { s with
      trades := s.trades.set (toString tradeId) (change trade)
      tradeEvents := s.tradeEvents.push (event trade) }

/-- The handlers that only add a row about a trade. -/
def noteTrade (tradeId : Nat) (event : Trade → TradeEvent) (s : Tables) : Tables :=
  withTrade tradeId s fun trade s => { s with tradeEvents := s.tradeEvents.push (event trade) }

section Trades

def handleTradeLocked (tradeId : Nat) (buyer supplier : String)
    (totalAmount logisticsAmount platformFeesAmount supplierFirstTranche supplierSecondTranche : Nat)
    (ricardianHash : String) (origin : Origin) (s : Tables) : Tables :=
  let trade : Trade :=
    { id := toString tradeId
      tradeId := toString tradeId
      buyer := toLowerCase buyer
      supplier := toLowerCase supplier
      status := .locked
      totalAmountLocked := totalAmount
      logisticsAmount := logisticsAmount
      platformFeesAmount := platformFeesAmount
      supplierFirstTranche := supplierFirstTranche
      supplierSecondTranche := supplierSecondTranche
      ricardianHash := ricardianHash
      createdAt := origin.timestamp
      arrivalTimestamp := none }
  { s with
    trades := s.trades.set (toString tradeId) trade
    tradeEvents := s.tradeEvents.push
      { origin.row "TradeLocked" with
        trade := trade.id
        totalAmount := totalAmount
        logisticsAmount := logisticsAmount
        platformFeesAmount := platformFeesAmount
        supplierFirstTranche := supplierFirstTranche
        supplierSecondTranche := supplierSecondTranche } }

def handleFundsReleasedStage1 (tradeId : Nat) (supplierFirstTranche : Nat) (treasury : String)
    (logisticsAmount : Nat) (origin : Origin) : Tables → Tables :=
  moveTrade tradeId ({ · with status := .inTransit }) fun trade =>
    { origin.row "FundsReleasedStage1" with
      trade := trade.id
      releasedFirstTranche := supplierFirstTranche
      releasedLogisticsAmount := logisticsAmount
      treasuryAddress := toLowerCase treasury }

def handlePlatformFeesPaidStage1 (tradeId : Nat) (treasury : String) (platformFeesAmount : Nat)
    (origin : Origin) : Tables → Tables :=
  noteTrade tradeId fun trade =>
    { origin.row "PlatformFeesPaidStage1" with
      trade := trade.id
      paidPlatformFees := platformFeesAmount
      treasuryAddress := toLowerCase treasury }

def handleArrivalConfirmed (tradeId arrivalTimestamp : Nat) (origin : Origin) : Tables → Tables :=
  moveTrade tradeId ({ · with status := .arrivalConfirmed, arrivalTimestamp := some (arrivalTimestamp * 1000) })
    fun trade =>
      { origin.row "ArrivalConfirmed" with trade := trade.id, arrivalTimestamp := arrivalTimestamp }

def handleFinalTrancheReleased (tradeId : Nat) (supplier : String) (supplierSecondTranche : Nat)
    (origin : Origin) : Tables → Tables :=
  moveTrade tradeId ({ · with status := .closed }) fun trade =>
    { origin.row "FinalTrancheReleased" with
      trade := trade.id
      finalTranche := supplierSecondTranche
      finalRecipient := toLowerCase supplier }

def handleDisputeOpenedByBuyer (tradeId : Nat) (origin : Origin) : Tables → Tables :=
  moveTrade tradeId ({ · with status := .frozen }) fun trade =>
    { origin.row "DisputeOpenedByBuyer" with trade := trade.id }

def handleTradeCancelledAfterLockTimeout (tradeId : Nat) (buyer : String) (refundedAmount : Nat)
    (origin : Origin) : Tables → Tables :=
  moveTrade tradeId ({ · with status := .closed }) fun trade =>
    { origin.row "TradeCancelledAfterLockTimeout" with
      trade := trade.id
      refundedAmount := refundedAmount
      refundedTo := toLowerCase buyer }

def handleInTransitTimeoutRefunded (tradeId : Nat) (buyer : String) (refundedAmount : Nat)
    (origin : Origin) : Tables → Tables :=
  moveTrade tradeId ({ · with status := .closed }) fun trade =>
    { origin.row "InTransitTimeoutRefunded" with
      trade := trade.id
      refundedBuyerPrincipal := refundedAmount
      refundedTo := toLowerCase buyer }

def handleClaimableAccrued (tradeId : Nat) (recipient : String) (amount : Nat) (claimType : JsValue)
    (origin : Origin) : Tables → Tables :=
  noteTrade tradeId fun trade =>
    { origin.row "ClaimableAccrued" with
      trade := trade.id
      claimType := claimTypeValues[claimType.toNumber]?
      claimRecipient := toLowerCase recipient
      claimAmount := amount }

end Trades

/-- `disputeStatus === 0 ? DisputeStatus.REFUND : DisputeStatus.RESOLVE`. -/
def disputeStatusEnum (disputeStatus : JsValue) : DisputeStatus :=
  if disputeStatus.strictEquals (.number 0) then .refund else .resolve

/-- The time to live of a proposal, in milliseconds. -/
def proposalTtl : Nat := 7 * 24 * 60 * 60 * 1000

/-- Loads a proposal and writes it changed; `none` where there is none to change. -/
def amend {Subject : Type} (table : WriteBack String (Proposal Subject)) (proposalId : Nat)
    (change : Proposal Subject → Proposal Subject) :
    Option (Proposal Subject × WriteBack String (Proposal Subject)) :=
  match table.load (toString proposalId) with
  | (some proposal, table) => some (change proposal, table.set (toString proposalId) (change proposal))
  | (none, _) => none

section Disputes

def handleDisputeSolutionProposed (proposalId tradeId : Nat) (disputeStatus : JsValue) (proposer : String)
    (origin : Origin) (s : Tables) : Tables :=
  withTrade tradeId s fun trade s =>
    let proposal : DisputeProposal :=
      { id := toString proposalId
        proposalId := toString proposalId
        subject := ⟨trade.id, disputeStatusEnum disputeStatus⟩
        approvalCount := 1
        executed := false
        createdAt := origin.timestamp
        proposer := toLowerCase proposer
        expiresAt := origin.timestamp + proposalTtl
        cancelled := false }
    { s with
      disputeProposals := s.disputeProposals.set (toString proposalId) proposal
      disputeEvents := s.disputeEvents.push
        { origin.row "DisputeSolutionProposed" with
          dispute := proposal.id
          proposedDisputeStatus := disputeStatusEnum disputeStatus
          proposer := toLowerCase proposer } }

/-- The handlers that change a dispute proposal and add a row about it. -/
def amendDispute (proposalId : Nat) (change : DisputeProposal → DisputeProposal)
    (event : DisputeProposal → DisputeEvent) (s : Tables) : Tables :=
  match amend s.disputeProposals proposalId change with
  | some (proposal, disputeProposals) =>
    { s with
      disputeProposals := disputeProposals
      disputeEvents := s.disputeEvents.push (event proposal) }
  | none => s

def handleDisputeApproved (proposalId : Nat) (approver : String) (approvalCount requiredApprovals : JsValue)
    (origin : Origin) : Tables → Tables :=
  amendDispute proposalId ({ · with approvalCount := approvalCount.toNumber }) fun proposal =>
    { origin.row "DisputeApproved" with
      dispute := proposal.id
      approver := toLowerCase approver
      approvalCount := approvalCount.toNumber
      requiredApprovals := requiredApprovals.toNumber }

/-- The trade of the proposal is left alone. -/
def handleDisputeFinalized (proposalId : Nat) (disputeStatus : JsValue) (origin : Origin) : Tables → Tables :=
  amendDispute proposalId ({ · with executed := true }) fun proposal =>
    { origin.row "DisputeFinalized" with
      dispute := proposal.id
      finalDisputeStatus := disputeStatusEnum disputeStatus }

def handleDisputeProposalExpiredCancelled (proposalId : Nat) (cancelledBy : String) (origin : Origin) :
    Tables → Tables :=
  amendDispute proposalId ({ · with cancelled := true }) fun proposal =>
    { origin.row "DisputeProposalExpiredCancelled" with
      dispute := proposal.id
      cancelledBy := toLowerCase cancelledBy }

def handleDisputePayout (tradeId proposalId : Nat) (recipient : String) (amount : Nat) (payoutType : JsValue)
    (origin : Origin) : Tables → Tables :=
  noteTrade tradeId fun trade =>
    { origin.row "DisputePayout" with
      trade := trade.id
      payoutRecipient := toLowerCase recipient
      payoutAmount := amount
      payoutType := disputeStatusEnum payoutType
      relatedProposalId := toString proposalId }

end Disputes

section Oracle

/-- The handlers that change an oracle proposal and add a row about it. -/
def amendOracleUpdate (proposalId : Nat) (change : OracleUpdateProposal → OracleUpdateProposal)
    (event : OracleUpdateProposal → OracleEvent) (s : Tables) : Tables :=
  match amend s.oracleUpdateProposals proposalId change with
  | some (proposal, oracleUpdateProposals) =>
    { s with
      oracleUpdateProposals := oracleUpdateProposals
      oracleEvents := s.oracleEvents.push (event proposal) }
  | none => s

def handleOracleUpdateProposed (proposalId : Nat) (proposer newOracle : String) (eta : Nat)
    (emergencyFastTrack : Bool) (origin : Origin) (s : Tables) : Tables :=
  let proposal : OracleUpdateProposal :=
    { id := toString proposalId
      proposalId := toString proposalId
      subject := ⟨toLowerCase newOracle, eta, emergencyFastTrack⟩
      approvalCount := 1
      executed := false
      createdAt := origin.timestamp
      proposer := toLowerCase proposer
      expiresAt := origin.timestamp + proposalTtl
      cancelled := false }
  { s with
    oracleUpdateProposals := s.oracleUpdateProposals.set (toString proposalId) proposal
    oracleEvents := s.oracleEvents.push
      { origin.row "OracleUpdateProposed" with
        oracleUpdate := proposal.id
        proposedOracle := toLowerCase newOracle
        eta := eta
        proposer := toLowerCase proposer } }

def handleOracleUpdateApproved (proposalId : Nat) (approver : String)
    (approvalCount requiredApprovals : JsValue) (origin : Origin) : Tables → Tables :=
  amendOracleUpdate proposalId ({ · with approvalCount := approvalCount.toNumber }) fun proposal =>
    { origin.row "OracleUpdateApproved" with
      oracleUpdate := proposal.id
      approver := toLowerCase approver
      approvalCount := approvalCount.toNumber
      requiredApprovals := requiredApprovals.toNumber }

/-- No proposal is looked up. -/
def handleOracleUpdated (oldOracle newOracle : String) (origin : Origin) (s : Tables) : Tables :=
  { s with
    oracleEvents := s.oracleEvents.push
      { origin.row "OracleUpdated" with
        oracleUpdate := none
        oldOracle := toLowerCase oldOracle
        newOracle := toLowerCase newOracle } }

def handleOracleUpdateProposalExpiredCancelled (proposalId : Nat) (cancelledBy : String) (origin : Origin) :
    Tables → Tables :=
  amendOracleUpdate proposalId ({ · with cancelled := true }) fun proposal =>
    { origin.row "OracleUpdateProposalExpiredCancelled" with
      oracleUpdate := proposal.id
      cancelledBy := toLowerCase cancelledBy }

def handleOracleDisabledEmergency (disabledBy previousOracle : String) (origin : Origin) (s : Tables) : Tables :=
  { s with
    oracleEvents := s.oracleEvents.push
      { origin.row "OracleDisabledEmergency" with
        oracleUpdate := none
        disabledBy := toLowerCase disabledBy
        previousOracle := toLowerCase previousOracle } }

end Oracle

section Admins

/-- The handlers that change an admin proposal and add a row about it. -/
def amendAdminAdd (proposalId : Nat) (change : AdminAddProposal → AdminAddProposal)
    (event : AdminAddProposal → AdminEvent) (s : Tables) : Tables :=
  match amend s.adminAddProposals proposalId change with
  | some (proposal, adminAddProposals) =>
    { s with
      adminAddProposals := adminAddProposals
      adminEvents := s.adminEvents.push (event proposal) }
  | none => s

def handleAdminAddProposed (proposalId : Nat) (proposer newAdmin : String) (eta : Nat) (origin : Origin)
    (s : Tables) : Tables :=
  let proposal : AdminAddProposal :=
    { id := toString proposalId
      proposalId := toString proposalId
      subject := ⟨toLowerCase newAdmin, eta⟩
      approvalCount := 1
      executed := false
      createdAt := origin.timestamp
      proposer := toLowerCase proposer
      expiresAt := origin.timestamp + proposalTtl
      cancelled := false }
  { s with
    adminAddProposals := s.adminAddProposals.set (toString proposalId) proposal
    adminEvents := s.adminEvents.push
      { origin.row "AdminAddProposed" with
        adminAddProposal := proposal.id
        proposedAdmin := toLowerCase newAdmin
        eta := eta
        proposer := toLowerCase proposer } }

def handleAdminAddApproved (proposalId : Nat) (approver : String) (approvalCount requiredApprovals : JsValue)
    (origin : Origin) : Tables → Tables :=
  amendAdminAdd proposalId ({ · with approvalCount := approvalCount.toNumber }) fun proposal =>
    { origin.row "AdminAddApproved" with
      adminAddProposal := proposal.id
      approver := toLowerCase approver
      approvalCount := approvalCount.toNumber
      requiredApprovals := requiredApprovals.toNumber }

/-- No proposal is looked up. -/
def handleAdminAdded (newAdmin : String) (origin : Origin) (s : Tables) : Tables :=
  { s with
    adminEvents := s.adminEvents.push
      { origin.row "AdminAdded" with
        adminAddProposal := none
        addedAdmin := toLowerCase newAdmin } }

def handleAdminAddProposalExpiredCancelled (proposalId : Nat) (cancelledBy : String) (origin : Origin) :
    Tables → Tables :=
  amendAdminAdd proposalId ({ · with cancelled := true }) fun proposal =>
    { origin.row "AdminAddProposalExpiredCancelled" with
      adminAddProposal := proposal.id
      cancelledBy := toLowerCase cancelledBy }

end Admins

section System

/-- Adds a row about the contract as a whole. -/
def noteSystem (event : SystemEvent) (s : Tables) : Tables :=
  { s with systemEvents := s.systemEvents.push event }

/-- The seven handlers that keep only who triggered the event. -/
def handleTriggered (eventName triggeredBy : String) (origin : Origin) : Tables → Tables :=
  noteSystem { origin.row eventName with triggeredBy := toLowerCase triggeredBy }

def handlePaused := handleTriggered "Paused"
def handleUnpauseProposed := handleTriggered "UnpauseProposed"
def handleUnpauseApproved := handleTriggered "UnpauseApproved"
def handleUnpauseProposalCancelled := handleTriggered "UnpauseProposalCancelled"
def handleUnpaused := handleTriggered "Unpaused"
def handleClaimsPaused := handleTriggered "ClaimsPaused"
def handleClaimsUnpaused := handleTriggered "ClaimsUnpaused"

def handleClaimed (claimant : String) (amount : Nat) (origin : Origin) : Tables → Tables :=
  noteSystem { origin.row "Claimed" with triggeredBy := toLowerCase claimant, claimAmount := amount }

def handleTreasuryClaimed (treasuryIdentity payoutReceiver : String) (amount : Nat) (triggeredBy : String)
    (origin : Origin) : Tables → Tables :=
  noteSystem
    { origin.row "TreasuryClaimed" with
      triggeredBy := toLowerCase triggeredBy
      claimAmount := amount
      treasuryIdentity := toLowerCase treasuryIdentity
      payoutReceiver := toLowerCase payoutReceiver }

def handleTreasuryPayoutAddressUpdateProposed (proposalId : Nat) (proposer newPayoutReceiver : String)
    (eta : Nat) (origin : Origin) : Tables → Tables :=
  noteSystem
    { origin.row "TreasuryPayoutAddressUpdateProposed" with
      proposalId := toString proposalId
      triggeredBy := toLowerCase proposer
      newPayoutReceiver := toLowerCase newPayoutReceiver
      payoutReceiver := toLowerCase newPayoutReceiver
      eta := eta }

def handleTreasuryPayoutAddressUpdateApproved (proposalId : Nat) (approver : String)
    (approvalCount requiredApprovals : JsValue) (origin : Origin) : Tables → Tables :=
  noteSystem
    { origin.row "TreasuryPayoutAddressUpdateApproved" with
      proposalId := toString proposalId
      triggeredBy := toLowerCase approver
      approvalCount := approvalCount.toNumber
      requiredApprovals := requiredApprovals.toNumber }

def handleTreasuryPayoutAddressUpdated (oldPayoutReceiver newPayoutReceiver : String) (origin : Origin) :
    Tables → Tables :=
  noteSystem
    { origin.row "TreasuryPayoutAddressUpdated" with
      oldPayoutReceiver := toLowerCase oldPayoutReceiver
      newPayoutReceiver := toLowerCase newPayoutReceiver
      payoutReceiver := toLowerCase newPayoutReceiver }

def handleTreasuryPayoutAddressUpdateProposalExpiredCancelled (proposalId : Nat) (cancelledBy : String)
    (origin : Origin) : Tables → Tables :=
  noteSystem
    { origin.row "TreasuryPayoutAddressUpdateProposalExpiredCancelled" with
      proposalId := toString proposalId
      triggeredBy := toLowerCase cancelledBy }

end System

/-- The switch over `decoded.name`. -/
def handle : Log → Origin → Tables → Tables
  | .tradeLocked tradeId buyer supplier totalAmount logisticsAmount platformFeesAmount
      supplierFirstTranche supplierSecondTranche ricardianHash =>
    handleTradeLocked tradeId buyer supplier totalAmount logisticsAmount platformFeesAmount
      supplierFirstTranche supplierSecondTranche ricardianHash
  | .fundsReleasedStage1 tradeId _ supplierFirstTranche treasury logisticsAmount =>
    handleFundsReleasedStage1 tradeId supplierFirstTranche treasury logisticsAmount
  | .platformFeesPaidStage1 tradeId treasury platformFeesAmount =>
    handlePlatformFeesPaidStage1 tradeId treasury platformFeesAmount
  | .arrivalConfirmed tradeId arrivalTimestamp => handleArrivalConfirmed tradeId arrivalTimestamp
  | .finalTrancheReleased tradeId supplier supplierSecondTranche =>
    handleFinalTrancheReleased tradeId supplier supplierSecondTranche
  | .disputeOpenedByBuyer tradeId => handleDisputeOpenedByBuyer tradeId
  | .tradeCancelledAfterLockTimeout tradeId buyer refundedAmount =>
    handleTradeCancelledAfterLockTimeout tradeId buyer refundedAmount
  | .inTransitTimeoutRefunded tradeId buyer refundedAmount =>
    handleInTransitTimeoutRefunded tradeId buyer refundedAmount
  | .disputeSolutionProposed proposalId tradeId disputeStatus proposer =>
    handleDisputeSolutionProposed proposalId tradeId disputeStatus proposer
  | .disputeApproved proposalId approver approvalCount requiredApprovals =>
    handleDisputeApproved proposalId approver approvalCount requiredApprovals
  | .disputeFinalized proposalId _ disputeStatus => handleDisputeFinalized proposalId disputeStatus
  | .disputeProposalExpiredCancelled proposalId _ cancelledBy =>
    handleDisputeProposalExpiredCancelled proposalId cancelledBy
  | .disputePayout tradeId proposalId recipient amount payoutType =>
    handleDisputePayout tradeId proposalId recipient amount payoutType
  | .oracleUpdateProposed proposalId proposer newOracle eta emergencyFastTrack =>
    handleOracleUpdateProposed proposalId proposer newOracle eta emergencyFastTrack
  | .oracleUpdateApproved proposalId approver approvalCount requiredApprovals =>
    handleOracleUpdateApproved proposalId approver approvalCount requiredApprovals
  | .oracleUpdated oldOracle newOracle => handleOracleUpdated oldOracle newOracle
  | .oracleUpdateProposalExpiredCancelled proposalId cancelledBy =>
    handleOracleUpdateProposalExpiredCancelled proposalId cancelledBy
  | .oracleDisabledEmergency disabledBy previousOracle =>
    handleOracleDisabledEmergency disabledBy previousOracle
  | .adminAddProposed proposalId proposer newAdmin eta =>
    handleAdminAddProposed proposalId proposer newAdmin eta
  | .adminAddApproved proposalId approver approvalCount requiredApprovals =>
    handleAdminAddApproved proposalId approver approvalCount requiredApprovals
  | .adminAdded newAdmin => handleAdminAdded newAdmin
  | .adminAddProposalExpiredCancelled proposalId cancelledBy =>
    handleAdminAddProposalExpiredCancelled proposalId cancelledBy
  | .paused triggeredBy => handlePaused triggeredBy
  | .unpauseProposed triggeredBy => handleUnpauseProposed triggeredBy
  | .unpauseApproved triggeredBy _ _ => handleUnpauseApproved triggeredBy
  | .unpauseProposalCancelled triggeredBy => handleUnpauseProposalCancelled triggeredBy
  | .unpaused triggeredBy => handleUnpaused triggeredBy
  | .claimsPaused triggeredBy => handleClaimsPaused triggeredBy
  | .claimsUnpaused triggeredBy => handleClaimsUnpaused triggeredBy
  | .claimed claimant amount => handleClaimed claimant amount
  | .treasuryClaimed treasuryIdentity payoutReceiver amount triggeredBy =>
    handleTreasuryClaimed treasuryIdentity payoutReceiver amount triggeredBy
  | .treasuryPayoutAddressUpdateProposed proposalId proposer newPayoutReceiver eta =>
    handleTreasuryPayoutAddressUpdateProposed proposalId proposer newPayoutReceiver eta
  | .treasuryPayoutAddressUpdateApproved proposalId approver approvalCount requiredApprovals =>
    handleTreasuryPayoutAddressUpdateApproved proposalId approver approvalCount requiredApprovals
  | .treasuryPayoutAddressUpdated oldPayoutReceiver newPayoutReceiver =>
    handleTreasuryPayoutAddressUpdated oldPayoutReceiver newPayoutReceiver
  | .treasuryPayoutAddressUpdateProposalExpiredCancelled proposalId cancelledBy =>
    handleTreasuryPayoutAddressUpdateProposalExpiredCancelled proposalId cancelledBy
  | .claimableAccrued tradeId recipient amount claimType =>
    handleClaimableAccrued tradeId recipient amount claimType
  | .other => fun _ s => s

/-- An empty string is falsy. -/
def truthy (text : Option String) : Option String := text.filter (· ≠ "")

def extractEvmTxHash (ethers : Ethers Raw) (extrinsic : Option Extrinsic) : Option String := do
  let extrinsic ← extrinsic
  if extrinsic.callName = some "Revive.eth_transact" then
    let payload ← truthy extrinsic.payload
    ethers.keccak256 payload
  else none

/-- The `txHash` and `extrinsicHash` of `resolveEventHashes`. -/
def resolveEventHashes (ethers : Ethers Raw) (extrinsic : Option Extrinsic) : Option String × Option String :=
  (extractEvmTxHash ethers extrinsic,
    (extrinsic.bind fun extrinsic => truthy extrinsic.hash).filter (· ≠ "unknown"))

/-- Whether `assertNoExtrinsicFallbackAsTxHash` throws. -/
def hashesClash (hashes : Option String × Option String) : Bool :=
  (truthy hashes.1).isSome && (truthy hashes.2).isSome && decide (hashes.1 = hashes.2)

def Block.hashes (ethers : Ethers Raw) (block : Block Raw) (event : ChainEvent Raw) :
    Option String × Option String :=
  resolveEventHashes ethers (block.extrinsics.find? fun extrinsic => event.extrinsicIndex = some extrinsic.index)

/-- An event the loop does not skip before decoding it. -/
def ChainEvent.escrow (escrowAddress : String) (event : ChainEvent Raw) : Bool :=
  decide (event.name = "Revive.ContractEmitted") && decide (toLowerCase event.contract = escrowAddress)

/-- The body of the loop over `block.events`. What throws is caught and logged. -/
def processEvent (ethers : Ethers Raw) (escrowAddress : String) (block : Block Raw) (event : ChainEvent Raw)
    (s : Tables) : Tables :=
  if event.escrow escrowAddress then
    match ethers.parseLog event.raw with
    | none => s
    | some decoded =>
      let hashes := block.hashes ethers event
      if hashesClash hashes then s
      else
        handle decoded
          { eventId := event.id
            blockNumber := block.height
            timestamp := block.timestamp.getD 0
            txHash := hashes.1
            extrinsicHash := hashes.2
            extrinsicIndex := event.extrinsicIndex.getD 0 } s
  else s

/-- The writes that end a batch, in one transaction. -/
def Tables.flush (s : Tables) : Tables where
  trades := s.trades.flush
  tradeEvents := s.tradeEvents.flush
  disputeProposals := s.disputeProposals.flush
  disputeEvents := s.disputeEvents.flush
  oracleUpdateProposals := s.oracleUpdateProposals.flush
  oracleEvents := s.oracleEvents.flush
  adminAddProposals := s.adminAddProposals.flush
  adminEvents := s.adminEvents.flush
  systemEvents := s.systemEvents.flush

def processBatch (ethers : Ethers Raw) (escrowAddress : String) (s : Tables) (batch : List (Block Raw)) : Tables :=
  (batch.foldl (fun s block =>
    block.events.foldl (fun s event => processEvent ethers escrowAddress block event s) s) s).flush

/-- The tables after all batches of a feed. -/
def index (ethers : Ethers Raw) (escrowAddress : String) (batches : List (List (Block Raw))) : Tables :=
  batches.foldl (processBatch ethers escrowAddress) .empty

end Agroasys.Indexer
