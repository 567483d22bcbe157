import Agroasys.Gateway.Compliance
import Agroasys.Gateway.Idempotency
import Agroasys.Runtime.Json

namespace Agroasys.Gateway

open Agroasys.Foundation Agroasys.Runtime

def invalid (message : String) : Failure :=
  .gateway ⟨400, "VALIDATION_ERROR", message⟩

section Validation

def validateStringField (value : Option Json) (field : String) (minLength maxLength : Nat) :
    Except Failure String :=
  let normalized := Json.trimmed value
  if utf16Length normalized < minLength ∨ maxLength < utf16Length normalized then
    .error (invalid s!"{field} must be between {minLength} and {maxLength} characters")
  else .ok normalized

/-- `value` gives the strings of the enumeration. -/
def validateEnum {α : Type} (raw : Option Json) (allowed : List α) (value : α → String) (field : String) :
    Except Failure α :=
  match raw with
  | some (.string text) =>
    match allowed.find? (value · = text) with
    | some member => .ok member
    | none => .error (invalid s!"{field} is invalid")
  | _ => .error (invalid s!"{field} is invalid")

def EvidenceKind.value : EvidenceKind → String
  | .runbook => "runbook"
  | .incident => "incident"
  | .ticket => "ticket"
  | .tx => "tx"
  | .event => "event"
  | .document => "document"
  | .log => "log"
  | .dashboard => "dashboard"
  | .other => "other"

def validEvidenceKinds : List EvidenceKind :=
  [.runbook, .incident, .ticket, .tx, .event, .document, .log, .dashboard, .other]

/-- A link as it is stored. A `null` item has no members to read. -/
def validateEvidenceLink (link : Json) (index : Nat) : Except Failure EvidenceLink :=
  match link with
  | .null => .error (.unexpected "Cannot read properties of null (reading 'kind')")
  | link =>
    match validateEnum (link.member "kind") validEvidenceKinds EvidenceKind.value "kind" with
    | .error _ => .error (invalid s!"audit.evidenceLinks[{index}].kind is invalid")
    | .ok kind =>
      let uri := Json.trimmed (link.member "uri")
      if utf16Length uri < 3 then .error (invalid s!"audit.evidenceLinks[{index}].uri is required")
      else
        match link.member "note" with
        | none => .ok ⟨kind, uri, none⟩
        | some note =>
          let text := Json.trimmed (some note)
          if text = "" then
            .error (invalid s!"audit.evidenceLinks[{index}].note must be a non-empty string when provided")
          else .ok ⟨kind, uri, some text⟩

def validateEvidenceLinks (index : Nat) : List Json → Except Failure (List EvidenceLink)
  | [] => .ok []
  | link :: links => do
    let first ← validateEvidenceLink link index
    return first :: (← validateEvidenceLinks (index + 1) links)

def validateAuditInput (raw : Option Json) : Except Failure MutationAuditInput :=
  if Json.isObject raw then do
    let audit := raw.bind (Json.member "audit")
    if Json.isObject audit then
      let reason ← validateStringField (audit.bind (Json.member "reason")) "audit.reason" 8 2000
      let ticketRef ← validateStringField (audit.bind (Json.member "ticketRef")) "audit.ticketRef" 2 128
      match Json.itemsOf (audit.bind (Json.member "evidenceLinks")) with
      | [] => .error (invalid "audit.evidenceLinks must contain at least one item")
      | links =>
        let evidenceLinks ← validateEvidenceLinks 0 links
        return ⟨reason, evidenceLinks, ticketRef⟩
    else .error (invalid "Request body must include audit metadata")
  else .error (invalid "Request body must be a JSON object")

def RiskLevel.value : RiskLevel → String
  | .low => "low"
  | .medium => "medium"
  | .high => "high"
  | .critical => "critical"

def validateOptionalRiskLevel (value : Option Json) : Except Failure (Option RiskLevel) :=
  if Json.isAbsent value then .ok none
  else some <$> validateEnum value [.low, .medium, .high, .critical] RiskLevel.value "riskLevel"

/-- `dateParse` is `Date.parse`, without a value where that is NaN. -/
def validateOptionalTimestamp (dateParse : String → Option Int) (value : Option Json) (field : String) :
    Except Failure (Option String) :=
  if Json.isAbsent value then .ok none
  else do
    let normalized ← validateStringField value field 10 64
    if dateParse normalized = none then .error (invalid s!"{field} must be a valid ISO timestamp")
    else .ok (some normalized)

def denyOnlyReasonCodes : List String :=
  ["CMP_KYB_FAILED", "CMP_KYT_FAILED", "CMP_SANCTIONS_MATCH", "CMP_PROVIDER_UNAVAILABLE", "CMP_PROVIDER_TIMEOUT",
    "CMP_AUDIT_WRITE_FAILED"]

/-- The checks that tie the override window to the reason code. -/
def checkReasonCode (dateParse : String → Option Int) (result : DecisionResult) (reasonCode : String)
    (overrideWindowEndsAt : Option String) : ComplianceTask Unit := do
  if reasonCode ∈ denyOnlyReasonCodes ∧ result ≠ .deny then
    throw (invalid s!"{reasonCode} requires result=DENY")
  if reasonCode = "CMP_OVERRIDE_ACTIVE" then
    if result ≠ .allow then throw (invalid "CMP_OVERRIDE_ACTIVE requires result=ALLOW")
    match overrideWindowEndsAt with
    | none => throw (invalid "overrideWindowEndsAt is required when reasonCode=CMP_OVERRIDE_ACTIVE")
    | some text =>
      let now ← askCompliance .now
      if (dateParse text).any (· ≤ now) then throw (invalid "overrideWindowEndsAt must be in the future")
  else if overrideWindowEndsAt.isSome then
    throw (invalid "overrideWindowEndsAt is allowed only when reasonCode=CMP_OVERRIDE_ACTIVE")

/-- The fields after the reason code, in the order they are checked. -/
def validateDecisionFields (raw : Option Json) (result : DecisionResult) (reasonCode : String)
    (overrideWindowEndsAt : Option String) (context : MutationContext) : Except Failure DecisionCreateInput := do
  let field := fun name => raw.bind (Json.member name)
  return {
    tradeId := ← validateStringField (field "tradeId") "tradeId" 1 128
    decisionType := ← validateEnum (field "decisionType") [.kyb, .kyt, .sanctions] DecisionType.value "decisionType"
    result := result
    reasonCode := reasonCode
    provider := ← validateStringField (field "provider") "provider" 2 128
    providerRef := ← validateStringField (field "providerRef") "providerRef" 2 256
    subjectId := ← validateStringField (field "subjectId") "subjectId" 1 256
    subjectType := ← validateStringField (field "subjectType") "subjectType" 1 128
    riskLevel := ← validateOptionalRiskLevel (field "riskLevel")
    overrideWindowEndsAt := overrideWindowEndsAt
    correlationId := ← validateStringField (field "correlationId") "correlationId" 3 128
    audit := ← validateAuditInput raw
    context := context }

def validateComplianceDecisionCreateRequest (dateParse : String → Option Int) (raw : Option Json)
    (context : MutationContext) : ComplianceTask DecisionCreateInput :=
  if Json.isObject raw then do
    let field := fun name => raw.bind (Json.member name)
    let result ← Task.ofExcept (validateEnum (field "result") [.allow, .deny] DecisionResult.value "result")
    let reasonCode ← Task.ofExcept (validateStringField (field "reasonCode") "reasonCode" 3 128)
    let overrideWindowEndsAt ← Task.ofExcept
      (validateOptionalTimestamp dateParse (field "overrideWindowEndsAt") "overrideWindowEndsAt")
    checkReasonCode dateParse result reasonCode overrideWindowEndsAt
    Task.ofExcept (validateDecisionFields raw result reasonCode overrideWindowEndsAt context)
  else throw (invalid "Request body must be a JSON object")

end Validation

section Routes

inductive ComplianceRoute where
  | decisions
  | blockOracleProgression (tradeId : String)
  | resumeOracleProgression (tradeId : String)

/-- What a handler reads of its request besides its key. `turns` is the order in which
its parallel reads come to their statements. -/
structure ComplianceContext where
  route : ComplianceRoute
  payload : Option Json
  principal : GatewayPrincipal
  sessionReference : String
  correlationId : String
  turns : List Bool

inductive ComplianceBody where
  | success (data : ComplianceReply) (timestamp : Int)
  | failure (error : GatewayError) (requestId traceId : String) (timestamp : Int)
  deriving DecidableEq

def ComplianceRoute.status : ComplianceRoute → Nat
  | .decisions => 201
  | .blockOracleProgression _ | .resumeOracleProgression _ => 202

end Routes

end Agroasys.Gateway
