import Agroasys.Gateway.Audit
import Agroasys.Runtime.Dates
import Agroasys.Runtime.Integers

namespace Agroasys.Gateway

open Agroasys.Auth Agroasys.Runtime

inductive GovernanceActionCategory where
  | pause
  | unpause
  | claimsPause
  | claimsUnpause
  | treasurySweep
  | treasuryPayoutReceiverUpdate
  | oracleDisableEmergency
  | oracleUpdate
  deriving DecidableEq, Repr

def GovernanceActionCategory.value : GovernanceActionCategory → String
  | .pause => "pause"
  | .unpause => "unpause"
  | .claimsPause => "claims_pause"
  | .claimsUnpause => "claims_unpause"
  | .treasurySweep => "treasury_sweep"
  | .treasuryPayoutReceiverUpdate => "treasury_payout_receiver_update"
  | .oracleDisableEmergency => "oracle_disable_emergency"
  | .oracleUpdate => "oracle_update"

inductive GovernanceActionStatus where
  | requested
  | submitted
  | pendingApprovals
  | approved
  | executed
  | cancelled
  | expired
  | stale
  | failed
  deriving DecidableEq, Repr

def governanceApprovalContractMethods : List String :=
  ["approveUnpause", "approveTreasuryPayoutAddressUpdate", "approveOracleUpdate"]

/-- The audit of an action; the roles are texts in the table. -/
structure GovernanceActionAuditRecord where
  reason : String
  evidenceLinks : List EvidenceLink
  ticketRef : String
  actorSessionId : String
  actorWallet : String
  actorRole : String
  createdAt : String
  requestedBy : String
  approvedBy : Option (List String)
  deriving DecidableEq

structure GovernanceActionRecord where
  actionId : String
  intentKey : String
  proposalId : Option Int
  category : GovernanceActionCategory
  status : GovernanceActionStatus
  contractMethod : String
  txHash : Option String
  extrinsicHash : Option String
  blockNumber : Option Int
  tradeId : Option String
  chainId : Option String
  targetAddress : Option String
  createdAt : String
  expiresAt : Option String
  executedAt : Option String
  requestId : String
  correlationId : Option String
  errorCode : Option String
  errorMessage : Option String
  audit : GovernanceActionAuditRecord
  deriving DecidableEq

/-- A row of `governance_actions`. Numbers are `BIGINT`; a `TIMESTAMP` is the instant that the
process reads it as. -/
structure GovernanceActionRow where
  actionId : String
  intentKey : Option String
  proposalId : Option Int
  category : GovernanceActionCategory
  status : GovernanceActionStatus
  contractMethod : String
  txHash : Option String
  extrinsicHash : Option String
  blockNumber : Option Int
  tradeId : Option String
  chainId : Option String
  targetAddress : Option String
  requestId : String
  correlationId : Option String
  reason : String
  evidenceLinks : List EvidenceLink
  ticketRef : String
  actorSessionId : String
  actorWallet : String
  actorRole : String
  requestedBy : String
  approvedBy : List String
  errorCode : Option String
  errorMessage : Option String
  createdAt : Int
  expiresAt : Option Int
  executedAt : Option Int
  deriving DecidableEq

section IntentKeys

/-- A part of a key before it is a text. -/
inductive IntentValue where
  | text (value : String)
  | number (value : Int)
  deriving DecidableEq

/-- `String(value)`. -/
def IntentValue.write : IntentValue → String
  | .text value => value
  | .number value => writeNumber value

def normalizeIntentFragment : Option IntentValue → String
  | none => ""
  | some value => toLowerCase (trim value.write)

def isApprovalGovernanceContractMethod (contractMethod : String) : Bool :=
  governanceApprovalContractMethods.contains contractMethod

/-- What a key is built of. -/
structure GovernanceIntent where
  category : GovernanceActionCategory
  contractMethod : String
  proposalId : Option Int
  targetAddress : Option String
  tradeId : Option String
  chainId : Option IntentValue
  approverWallet : Option String
  deriving DecidableEq

def GovernanceIntent.fragments (input : GovernanceIntent) : List String :=
  ["v1",
    normalizeIntentFragment (some (.text input.category.value)),
    normalizeIntentFragment (some (.text input.contractMethod)),
    normalizeIntentFragment (input.proposalId.map .number),
    normalizeIntentFragment (input.targetAddress.map .text),
    normalizeIntentFragment (input.tradeId.map .text),
    normalizeIntentFragment input.chainId,
    normalizeIntentFragment
      (if isApprovalGovernanceContractMethod input.contractMethod then input.approverWallet.map .text else none)]

def buildGovernanceIntentKey (input : GovernanceIntent) : String :=
  "|".intercalate input.fragments

/-- `CONCAT_WS`, which leaves out what is null. -/
def concatWs (separator : String) (parts : List (Option String)) : String :=
  separator.intercalate (parts.filterMap id)

/-- The value that the schema's `UPDATE` gives to the key of a row, by the `LOWER` of the database. -/
def backfillIntentKey (lower : String → String) (row : GovernanceActionRow) : String :=
  concatWs "|"
    [some "v1",
      some (lower row.category.value),
      some (lower row.contractMethod),
      some ((row.proposalId.map toString).getD ""),
      some (lower (row.targetAddress.getD "")),
      some (lower (row.tradeId.getD "")),
      some (lower (row.chainId.getD ""))]

end IntentKeys

/-- `numericOrNull`: a `BIGINT` is read as a double. -/
def numericOrNull (value : Option Int) : Option Int :=
  value.map nearestDouble

def mapRow (row : GovernanceActionRow) : GovernanceActionRecord where
  actionId := row.actionId
  intentKey := row.intentKey.getD (buildGovernanceIntentKey {
    category := row.category
    contractMethod := row.contractMethod
    proposalId := numericOrNull row.proposalId
    targetAddress := row.targetAddress
    tradeId := row.tradeId
    chainId := row.chainId.map .text
    approverWallet := some row.actorWallet })
  proposalId := numericOrNull row.proposalId
  category := row.category
  status := row.status
  contractMethod := row.contractMethod
  txHash := row.txHash
  extrinsicHash := row.extrinsicHash
  blockNumber := numericOrNull row.blockNumber
  tradeId := row.tradeId
  chainId := row.chainId
  targetAddress := row.targetAddress
  createdAt := toISOString row.createdAt
  expiresAt := row.expiresAt.map toISOString
  executedAt := row.executedAt.map toISOString
  requestId := row.requestId
  correlationId := row.correlationId
  errorCode := row.errorCode
  errorMessage := row.errorMessage
  audit := {
    reason := row.reason
    evidenceLinks := row.evidenceLinks
    ticketRef := row.ticketRef
    actorSessionId := row.actorSessionId
    actorWallet := row.actorWallet
    actorRole := row.actorRole
    createdAt := toISOString row.createdAt
    requestedBy := row.requestedBy
    approvedBy := if row.approvedBy = [] then none else some row.approvedBy }

end Agroasys.Gateway
