import Agroasys.Gateway.Principal

namespace Agroasys.Gateway

open Agroasys.Auth

/-- The kinds of `VALID_EVIDENCE_KINDS`. -/
inductive EvidenceKind where
  | runbook
  | incident
  | ticket
  | tx
  | event
  | document
  | log
  | dashboard
  | other
  deriving DecidableEq, Repr

structure EvidenceLink where
  kind : EvidenceKind
  uri : String
  note : Option String
  deriving DecidableEq

/-- `GovernanceMutationAuditInput`, of compliance mutations too. -/
structure MutationAuditInput where
  reason : String
  evidenceLinks : List EvidenceLink
  ticketRef : String
  deriving DecidableEq

/-- The audit columns of a row. Nothing sets `approvedBy`. -/
structure AuditRecord where
  reason : String
  evidenceLinks : List EvidenceLink
  ticketRef : String
  actorSessionId : String
  actorWallet : String
  actorRole : UserRole
  createdAt : Int
  requestedBy : String
  deriving DecidableEq

structure RequestContext where
  requestId : String
  correlationId : String
  deriving DecidableEq

/-- What a mutation knows of its caller and its request. -/
structure MutationContext where
  principal : GatewayPrincipal
  sessionReference : String
  requestContext : RequestContext
  routePath : String
  idempotencyKey : String
  deriving DecidableEq

def buildAuditRecord (audit : MutationAuditInput) (context : MutationContext) (createdAt : Int) : AuditRecord where
  reason := audit.reason
  evidenceLinks := audit.evidenceLinks
  ticketRef := audit.ticketRef
  actorSessionId := context.sessionReference
  actorWallet := context.principal.session.walletAddress
  actorRole := context.principal.session.role
  createdAt := createdAt
  requestedBy := context.principal.session.userId

/-- A value of an entry's metadata. -/
inductive MetadataValue where
  | text (value : String)
  | number (value : Nat)
  | null
  deriving DecidableEq

def MetadataValue.ofOption : Option String → MetadataValue
  | some value => .text value
  | none => .null

structure AuditLogEntry where
  eventType : String
  route : String
  method : String
  requestId : String
  correlationId : Option String
  actorUserId : String
  actorWalletAddress : String
  actorRole : String
  status : String
  metadata : List (String × MetadataValue)
  deriving DecidableEq

/-- The entry a mutation writes. -/
def auditLogEntry (eventType status : String) (context : MutationContext)
    (metadata : List (String × MetadataValue)) : AuditLogEntry where
  eventType := eventType
  route := context.routePath
  method := "POST"
  requestId := context.requestContext.requestId
  correlationId := some context.requestContext.correlationId
  actorUserId := context.principal.session.userId
  actorWalletAddress := context.principal.session.walletAddress
  actorRole := context.principal.session.role.value
  status := status
  metadata := metadata

end Agroasys.Gateway
