import Agroasys.Foundation.Faults
import Agroasys.Gateway.Audit

namespace Agroasys.Gateway

open Function Agroasys.Foundation

inductive DecisionType where
  | kyb
  | kyt
  | sanctions
  deriving DecidableEq, Repr

def DecisionType.value : DecisionType → String
  | .kyb => "KYB"
  | .kyt => "KYT"
  | .sanctions => "SANCTIONS"

inductive DecisionResult where
  | allow
  | deny
  deriving DecidableEq, Repr

def DecisionResult.value : DecisionResult → String
  | .allow => "ALLOW"
  | .deny => "DENY"

inductive BlockState where
  | notBlocked
  | blocked
  | resumePending
  deriving DecidableEq, Repr

def BlockState.value : BlockState → String
  | .notBlocked => "not_blocked"
  | .blocked => "blocked"
  | .resumePending => "resume_pending"

inductive RiskLevel where
  | low
  | medium
  | high
  | critical
  deriving DecidableEq, Repr

/-- A row of `compliance_decisions`. The override window is a text until the column
takes it, and an instant when it is read back. -/
structure DecisionRow (Window : Type) where
  decisionId : String
  tradeId : String
  decisionType : DecisionType
  result : DecisionResult
  reasonCode : String
  provider : String
  providerRef : String
  subjectId : String
  subjectType : String
  riskLevel : Option RiskLevel
  correlationId : String
  decidedAt : Int
  overrideWindowEndsAt : Option Window
  audit : AuditRecord
  deriving DecidableEq

/-- A decision with the block state of its trade. -/
structure ComplianceDecision (Window : Type) extends DecisionRow Window where
  blockState : BlockState
  deriving DecidableEq

/-- A row of `oracle_progression_blocks`. -/
structure ProgressionBlock where
  tradeId : String
  latestDecisionId : String
  blockState : BlockState
  reasonCode : String
  requestId : String
  correlationId : Option String
  audit : AuditRecord
  blockedAt : Option Int
  resumedAt : Option Int
  updatedAt : Int
  deriving DecidableEq

structure TradeStatus where
  tradeId : String
  currentResult : DecisionResult
  oracleProgressionBlocked : Bool
  blockState : BlockState
  latestDecisionId : String
  latestReasonCode : String
  latestProvider : String
  latestCorrelationId : String
  updatedAt : Int
  deriving DecidableEq

/-- `ORDER BY decided_at DESC, decision_id DESC`: the first comes before the second. -/
def DecisionRow.outranks (decision other : DecisionRow Int) : Bool :=
  other.decidedAt < decision.decidedAt ||
    (decision.decidedAt = other.decidedAt && other.decisionId < decision.decisionId)

def latestDecision (tradeId : String) : List (DecisionRow Int) → Option (DecisionRow Int)
  | [] => none
  | row :: rows =>
    if row.tradeId = tradeId then
      match latestDecision tradeId rows with
      | some latest => if latest.outranks row then some latest else some row
      | none => some row
    else latestDecision tradeId rows

/-- The statements and transactions of the stores, the clock and the random ids. -/
inductive ComplianceEffect where
  | now
  | randomUUID
  | selectLatestDecision (tradeId : String)
  | selectDecision (decisionId : String)
  | loadBlockState (tradeId : String)
  | saveDecision (decision : ComplianceDecision String) (auditEntry : AuditLogEntry)
  | saveBlockState (block : ProgressionBlock) (auditEntry : AuditLogEntry)

abbrev ComplianceAnswer : ComplianceEffect → Type
  | .now => Int
  | .randomUUID => String
  | .selectLatestDecision _ | .selectDecision _ => Except Failure (Option (DecisionRow Int))
  | .loadBlockState _ => Except Failure (Option ProgressionBlock)
  | .saveDecision _ _ | .saveBlockState _ _ => Except Failure Unit

structure ComplianceWorld where
  decisions : List (DecisionRow Int)
  blocks : String → Option ProgressionBlock
  auditLog : List AuditLogEntry
  now : Int

/-- What a lost connection raises. -/
def connectionLost : Failure :=
  .unexpected "Connection terminated unexpectedly"

/-- The row as the table takes it, `timestampOf` reading a text as its column does. -/
def DecisionRow.stored (timestampOf : String → Option Int) (row : DecisionRow String) :
    Except Failure (DecisionRow Int) :=
  match row.overrideWindowEndsAt with
  | none => .ok { row with overrideWindowEndsAt := none }
  | some text =>
    match timestampOf text with
    | some instant => .ok { row with overrideWindowEndsAt := some instant }
    | none => .error (.unexpected ("invalid input syntax for type timestamp: " ++ text))

/-- The transaction of `saveDecisionWithAudit`. -/
def ComplianceWorld.insertDecision (timestampOf : String → Option Int) (world : ComplianceWorld)
    (decision : DecisionRow String) (auditEntry : AuditLogEntry) : Except Failure (Unit × ComplianceWorld) := do
  let row ← decision.stored timestampOf
  if world.decisions.any (·.decisionId = row.decisionId) then
    throw (.unexpected "duplicate key value violates unique constraint \"compliance_decisions_pkey\"")
  return ((), { world with decisions := row :: world.decisions, auditLog := auditEntry :: world.auditLog })

private theorem insertDecision_ok {world next : ComplianceWorld}
    (done : world.insertDecision timestampOf decision auditEntry = .ok (value, next)) :
    ∃ row, decision.stored timestampOf = .ok row ∧ (∀ other ∈ world.decisions, other.decisionId ≠ row.decisionId) ∧
      next = { world with decisions := row :: world.decisions, auditLog := auditEntry :: world.auditLog } := by
  unfold ComplianceWorld.insertDecision at done
  cases stored : decision.stored timestampOf with
  | error failure =>
    rw [stored] at done
    cases done
  | ok row =>
    rw [stored] at done
    by_cases taken : world.decisions.any (·.decisionId = row.decisionId) = true
    · simp only [bind, Except.bind, taken, if_true] at done
      cases done
    · simp only [bind, Except.bind, taken] at done
      cases done
      exact ⟨row, rfl, by simpa using taken, rfl⟩

/-- The transaction of `saveBlockStateWithAudit`. -/
def ComplianceWorld.upsertBlock (world : ComplianceWorld) (block : ProgressionBlock) (auditEntry : AuditLogEntry) :
    Except Failure (Unit × ComplianceWorld) :=
  if world.decisions.any (·.decisionId = block.latestDecisionId) then
    .ok ((), { world with
      blocks := update world.blocks block.tradeId (some block), auditLog := auditEntry :: world.auditLog })
  else .error (.unexpected
    "insert or update on table \"oracle_progression_blocks\" violates foreign key constraint")

/-- The database at READ COMMITTED, statement by statement; the choice is how a
statement ends and which id is drawn. -/
def complianceServing (timestampOf : String → Option Int) :
    Serving (Fate × String) ComplianceEffect ComplianceAnswer ComplianceWorld :=
  fun choice world effect =>
    match effect with
    | .now => (world.now, world)
    | .randomUUID => (choice.2, world)
    | .selectLatestDecision tradeId =>
      choice.1.execute connectionLost (.ok (latestDecision tradeId world.decisions, world)) world
    | .selectDecision decisionId =>
      choice.1.execute connectionLost (.ok (world.decisions.find? (·.decisionId = decisionId), world)) world
    | .loadBlockState tradeId => choice.1.execute connectionLost (.ok (world.blocks tradeId, world)) world
    | .saveDecision decision auditEntry =>
      choice.1.execute connectionLost (world.insertDecision timestampOf decision.toDecisionRow auditEntry) world
    | .saveBlockState block auditEntry =>
      choice.1.execute connectionLost (world.upsertBlock block auditEntry) world

abbrev ComplianceTask := Task ComplianceEffect ComplianceAnswer Failure

def askCompliance (effect : ComplianceEffect) : ComplianceTask (ComplianceAnswer effect) :=
  monadLift (Program.perform effect : Program ComplianceEffect ComplianceAnswer (ComplianceAnswer effect))

section Stores

/-- `createdAt` is read from the column that has it. -/
def mapDecisionRow (row : DecisionRow Int) (blockState : BlockState) : ComplianceDecision Int where
  toDecisionRow := { row with audit := { row.audit with createdAt := row.decidedAt } }
  blockState := blockState

def mapBlockRow (row : ProgressionBlock) : ProgressionBlock :=
  { row with audit := { row.audit with createdAt := row.updatedAt } }

/-- The state of a trade without a block is `not_blocked`. -/
def blockStateOf (block : Option ProgressionBlock) : BlockState :=
  (block.map ProgressionBlock.blockState).getD .notBlocked

def getOracleProgressionBlock (tradeId : String) : ComplianceTask (Option ProgressionBlock) := do
  let row ← Task.ofExcept (← askCompliance (.loadBlockState tradeId))
  return row.map mapBlockRow

def mapFoundRow (row : Option (DecisionRow Int)) : ComplianceTask (Option (ComplianceDecision Int)) := do
  match row with
  | none => return none
  | some row =>
    let block ← getOracleProgressionBlock row.tradeId
    return some (mapDecisionRow row (blockStateOf block))

def getDecision (decisionId : String) : ComplianceTask (Option (ComplianceDecision Int)) := do
  mapFoundRow (← Task.ofExcept (← askCompliance (.selectDecision decisionId)))

def getLatestDecision (tradeId : String) : ComplianceTask (Option (ComplianceDecision Int)) := do
  mapFoundRow (← Task.ofExcept (← askCompliance (.selectLatestDecision tradeId)))

def blockedFlag (state : BlockState) : Bool :=
  state = .blocked || state = .resumePending

def getTradeStatus (tradeId : String) : ComplianceTask (Option TradeStatus) := do
  match ← getLatestDecision tradeId with
  | none => return none
  | some latestDecision =>
    let block ← getOracleProgressionBlock tradeId
    let blockState := blockStateOf block
    return some {
      tradeId := tradeId
      currentResult := latestDecision.result
      oracleProgressionBlocked := blockedFlag blockState
      blockState := blockState
      latestDecisionId := latestDecision.decisionId
      latestReasonCode := latestDecision.reasonCode
      latestProvider := latestDecision.provider
      latestCorrelationId := latestDecision.correlationId
      updatedAt := (block.map fun block => max block.updatedAt latestDecision.decidedAt).getD latestDecision.decidedAt }

def saveDecisionWithAudit (decision : ComplianceDecision String) (auditEntry : AuditLogEntry) :
    ComplianceTask (ComplianceDecision Int) := do
  Task.ofExcept (← askCompliance (.saveDecision decision auditEntry))
  match ← getDecision decision.decisionId with
  | some stored => return stored
  | none => throw (.unexpected ("Failed to persist compliance decision " ++ decision.decisionId))

def saveBlockStateWithAudit (block : ProgressionBlock) (auditEntry : AuditLogEntry) :
    ComplianceTask ProgressionBlock := do
  Task.ofExcept (← askCompliance (.saveBlockState block auditEntry))
  match ← getOracleProgressionBlock block.tradeId with
  | some stored => return stored
  | none =>
    throw (.unexpected ("Failed to persist oracle progression block state for trade " ++ block.tradeId))

end Stores

section Service

structure DecisionCreateInput where
  tradeId : String
  decisionType : DecisionType
  result : DecisionResult
  reasonCode : String
  provider : String
  providerRef : String
  subjectId : String
  subjectType : String
  riskLevel : Option RiskLevel
  overrideWindowEndsAt : Option String
  correlationId : String
  audit : MutationAuditInput
  context : MutationContext
  deriving DecidableEq

structure OperationalControlInput where
  tradeId : String
  reasonCode : String
  decisionId : Option String
  audit : MutationAuditInput
  context : MutationContext
  deriving DecidableEq

def conflict (message : String) : Failure :=
  .gateway ⟨409, "CONFLICT", message⟩

def decisionAuditMetadata (decision : ComplianceDecision String) (idempotencyKey : String) :
    List (String × MetadataValue) :=
  [("decisionId", .text decision.decisionId), ("tradeId", .text decision.tradeId),
    ("decisionType", .text decision.decisionType.value), ("result", .text decision.result.value),
    ("reasonCode", .text decision.reasonCode), ("provider", .text decision.provider),
    ("idempotencyKey", .text idempotencyKey)]

def blockAuditMetadata (block : ProgressionBlock) (idempotencyKey : String) : List (String × MetadataValue) :=
  [("tradeId", .text block.tradeId), ("latestDecisionId", .text block.latestDecisionId),
    ("blockState", .text block.blockState.value), ("reasonCode", .text block.reasonCode),
    ("idempotencyKey", .text idempotencyKey)]

def nextDecisionTimestamp (tradeId : String) : ComplianceTask Int := do
  let latestDecision ← getLatestDecision tradeId
  let now ← askCompliance .now
  match latestDecision with
  | none => return now
  | some latest => return max now (latest.decidedAt + 1)

def DecisionCreateInput.decision (input : DecisionCreateInput) (decisionId : String) (decidedAt : Int)
    (existingBlock : Option ProgressionBlock) : ComplianceDecision String where
  decisionId := decisionId
  tradeId := input.tradeId
  decisionType := input.decisionType
  result := input.result
  reasonCode := input.reasonCode
  provider := input.provider
  providerRef := input.providerRef
  subjectId := input.subjectId
  subjectType := input.subjectType
  riskLevel := input.riskLevel
  correlationId := input.correlationId
  decidedAt := decidedAt
  overrideWindowEndsAt := input.overrideWindowEndsAt
  audit := buildAuditRecord input.audit input.context decidedAt
  blockState := blockStateOf existingBlock

/-- `turns` is the order in which the two reads of `Promise.all` come to their statements. -/
def createDecision (turns : List Bool) (input : DecisionCreateInput) : ComplianceTask (ComplianceDecision Int) := do
  let (decidedAt, existingBlock) ← Task.both turns (nextDecisionTimestamp input.tradeId)
    (getOracleProgressionBlock input.tradeId)
  let decisionId ← askCompliance .randomUUID
  let decision := input.decision decisionId decidedAt existingBlock
  saveDecisionWithAudit decision (auditLogEntry "compliance.decision.recorded" "recorded" input.context
    (decisionAuditMetadata decision input.context.idempotencyKey))

def requireTradeStatus (tradeId : String) : ComplianceTask TradeStatus := do
  match ← getTradeStatus tradeId with
  | some status => return status
  | none => throw (.gateway
      ⟨500, "INTERNAL_ERROR", "Failed to assemble compliance trade status after mutation"⟩)

/-- An empty id counts as none. -/
def resolveDecisionForTrade (tradeId : String) (decisionId : Option String) :
    ComplianceTask (Option (ComplianceDecision Int)) := do
  match decisionId.filter (· ≠ "") with
  | none => getLatestDecision tradeId
  | some decisionId =>
    match ← getDecision decisionId with
    | none => throw (.gateway ⟨404, "NOT_FOUND", "Compliance decision not found"⟩)
    | some decision =>
      if decision.tradeId ≠ tradeId then
        throw (conflict "Compliance decision does not belong to the requested trade")
      return some decision

def OperationalControlInput.block (input : OperationalControlInput) (decisionId : String) (updatedAt : Int) :
    ProgressionBlock where
  tradeId := input.tradeId
  latestDecisionId := decisionId
  blockState := .blocked
  reasonCode := input.reasonCode
  requestId := input.context.requestContext.requestId
  correlationId := some input.context.requestContext.correlationId
  audit := buildAuditRecord input.audit input.context updatedAt
  blockedAt := some updatedAt
  resumedAt := none
  updatedAt := updatedAt

def OperationalControlInput.resumed (input : OperationalControlInput) (existingBlock : ProgressionBlock)
    (decisionId : String) (updatedAt : Int) : ProgressionBlock :=
  { existingBlock with
    latestDecisionId := decisionId
    blockState := .notBlocked
    reasonCode := input.reasonCode
    requestId := input.context.requestContext.requestId
    correlationId := some input.context.requestContext.correlationId
    audit := buildAuditRecord input.audit input.context updatedAt
    resumedAt := some updatedAt
    updatedAt := updatedAt }

def blockOracleProgression (input : OperationalControlInput) : ComplianceTask TradeStatus := do
  let existingBlock ← getOracleProgressionBlock input.tradeId
  if blockStateOf existingBlock = .blocked then
    throw (conflict "Oracle progression is already blocked for this trade")
  match ← resolveDecisionForTrade input.tradeId input.decisionId with
  | none => throw (conflict "A compliance decision must exist before blocking oracle progression")
  | some decision =>
    let updatedAt ← askCompliance .now
    let block := input.block decision.decisionId updatedAt
    let _ ← saveBlockStateWithAudit block (auditLogEntry "compliance.oracle_progression.blocked" "blocked"
      input.context (blockAuditMetadata block input.context.idempotencyKey))
    requireTradeStatus input.tradeId

/-- The override window is read against the clock only where there is one. -/
def checkOverrideWindow (latestDecision : ComplianceDecision Int) : ComplianceTask Unit := do
  let expired := conflict "The active override window has expired; oracle progression cannot be resumed"
  if latestDecision.reasonCode = "CMP_OVERRIDE_ACTIVE" then
    match latestDecision.overrideWindowEndsAt with
    | none => throw expired
    | some overrideWindowEndsAt =>
      let now ← askCompliance .now
      if overrideWindowEndsAt ≤ now then throw expired

def checkResume (requestedDecision latestDecision : Option (ComplianceDecision Int)) :
    ComplianceTask (ComplianceDecision Int) := do
  match latestDecision with
  | none => throw (conflict "An ALLOW compliance decision is required before resuming oracle progression")
  | some latestDecision =>
    if requestedDecision.any (·.decisionId ≠ latestDecision.decisionId) then
      throw (conflict "The latest effective compliance decision must be used when resuming oracle progression")
    if latestDecision.result ≠ .allow then
      throw (conflict
        "The latest effective compliance decision must be ALLOW before resuming oracle progression")
    checkOverrideWindow latestDecision
    return latestDecision

def resumeOracleProgression (turns : List Bool) (input : OperationalControlInput) : ComplianceTask TradeStatus := do
  match ← getOracleProgressionBlock input.tradeId with
  | none => throw (conflict "Oracle progression is not currently blocked for this trade")
  | some existingBlock =>
    if existingBlock.blockState = .notBlocked then
      throw (conflict "Oracle progression is not currently blocked for this trade")
    let (requestedDecision, latestDecision) ← Task.both turns
      (resolveDecisionForTrade input.tradeId input.decisionId) (getLatestDecision input.tradeId)
    let decision ← checkResume requestedDecision latestDecision
    let updatedAt ← askCompliance .now
    let block := input.resumed existingBlock decision.decisionId updatedAt
    let _ ← saveBlockStateWithAudit block (auditLogEntry "compliance.oracle_progression.resumed" "not_blocked"
      input.context (blockAuditMetadata block input.context.idempotencyKey))
    requireTradeStatus input.tradeId

inductive ComplianceCall where
  | createDecision (turns : List Bool) (input : DecisionCreateInput)
  | blockOracleProgression (input : OperationalControlInput)
  | resumeOracleProgression (turns : List Bool) (input : OperationalControlInput)
  deriving DecidableEq

inductive ComplianceReply where
  | decision (decision : ComplianceDecision Int)
  | status (status : TradeStatus)
  deriving DecidableEq

def answerCompliance : ComplianceCall → ComplianceTask ComplianceReply
  | .createDecision turns input => do return .decision (← createDecision turns input)
  | .blockOracleProgression input => do return .status (← blockOracleProgression input)
  | .resumeOracleProgression turns input => do return .status (← resumeOracleProgression turns input)

end Service

/-- The service over tables that were empty when they were made. Between its statements
only the clock moves, in either direction. -/
def complianceServer (timestampOf : String → Option Int) :
    Server ComplianceCall ComplianceEffect ComplianceAnswer (Except Failure ComplianceReply) ComplianceWorld where
  initial world := world.decisions = [] ∧ ∀ tradeId, world.blocks tradeId = none
  program call := (answerCompliance call).run
  serves := (complianceServing timestampOf).serves
  drifts before after := after = { before with now := after.now }

def ComplianceEffect.Reads : ComplianceEffect → Prop
  | .saveDecision _ _ | .saveBlockState _ _ => False
  | _ => True

section Statements

variable {timestampOf : String → Option Int} {before after : ComplianceWorld}

/-- Every statement leaves the clock, and the latest decision of a trade is only ever
replaced. -/
structure Moderate (before after : ComplianceWorld) : Prop where
  now : after.now = before.now
  decided : ∀ tradeId, latestDecision tradeId before.decisions ≠ none →
    latestDecision tradeId after.decisions ≠ none

private theorem latestDecision_cons_ne (tradeId : String) (row : DecisionRow Int)
    (present : latestDecision tradeId rows ≠ none) : latestDecision tradeId (row :: rows) ≠ none := by
  unfold latestDecision
  split
  · split
    · split <;> simp
    · simp
  · exact present

theorem served_read {effect : ComplianceEffect} {answer : ComplianceAnswer effect} (reads : effect.Reads)
    (served : (complianceServing timestampOf).serves before ⟨effect, answer⟩ after) : after = before := by
  obtain ⟨choice, served⟩ := served
  cases effect with
  | now => exact (congrArg Prod.snd served).symm
  | randomUUID => exact (congrArg Prod.snd served).symm
  | selectLatestDecision => exact (Fate.executed_read served).1
  | selectDecision => exact (Fate.executed_read served).1
  | loadBlockState => exact (Fate.executed_read served).1
  | saveDecision => cases reads
  | saveBlockState => cases reads

private theorem served_saveDecision
    (served : (complianceServing timestampOf).serves before ⟨.saveDecision decision auditEntry, answer⟩ after) :
    Moderate before after ∧ after.blocks = before.blocks := by
  obtain ⟨choice, served⟩ := served
  rcases Fate.executed served with ⟨_, done, _⟩ | ⟨rfl, _⟩
  · obtain ⟨row, _, _, rfl⟩ := insertDecision_ok done
    exact ⟨⟨rfl, fun tradeId => latestDecision_cons_ne tradeId row⟩, rfl⟩
  · exact ⟨⟨rfl, fun _ => id⟩, rfl⟩

private theorem served_saveBlock
    (served : (complianceServing timestampOf).serves before ⟨.saveBlockState block auditEntry, answer⟩ after) :
    after.now = before.now ∧ after.decisions = before.decisions ∧
      (after.blocks = before.blocks ∨ after.blocks = update before.blocks block.tradeId (some block)) := by
  obtain ⟨choice, served⟩ := served
  rcases Fate.executed served with ⟨_, done, _⟩ | ⟨rfl, _⟩
  · unfold ComplianceWorld.upsertBlock at done
    split at done
    · cases done
      exact ⟨rfl, rfl, .inr rfl⟩
    · cases done
  · exact ⟨rfl, rfl, .inl rfl⟩

/-- What a statement does to the block rows. -/
theorem served_blocks {event : Event ComplianceEffect ComplianceAnswer}
    (served : (complianceServing timestampOf).serves before event after) : Moderate before after ∧
      ((after.blocks = before.blocks ∧ ∀ block auditEntry answer, event ≠ ⟨.saveBlockState block auditEntry, answer⟩) ∨
        ∃ block auditEntry answer, event = ⟨.saveBlockState block auditEntry, answer⟩ ∧
          (after.blocks = before.blocks ∨ after.blocks = update before.blocks block.tradeId (some block))) := by
  obtain ⟨effect, answer⟩ := event
  cases effect with
  | saveDecision decision auditEntry =>
    obtain ⟨moderate, same⟩ := served_saveDecision served
    exact ⟨moderate, .inl ⟨same, by simp⟩⟩
  | saveBlockState block auditEntry =>
    obtain ⟨now, same, changed⟩ := served_saveBlock served
    have moderate : Moderate before after := ⟨now, fun tradeId => same ▸ id⟩
    exact ⟨moderate, .inr ⟨block, auditEntry, answer, rfl, changed⟩⟩
  | _ =>
    have same : after = before := served_read (by trivial) served
    exact same ▸ ⟨⟨rfl, fun _ => id⟩, .inl ⟨rfl, by simp⟩⟩

theorem served_latest
    (served : (complianceServing timestampOf).serves before ⟨.selectLatestDecision tradeId, .ok row⟩ after) :
    row = latestDecision tradeId before.decisions := by
  obtain ⟨choice, served⟩ := served
  rcases (Fate.executed_read served).2 with same | lost
  · exact Except.ok.inj same
  · cases lost

theorem served_block
    (served : (complianceServing timestampOf).serves before ⟨.loadBlockState tradeId, .ok row⟩ after) :
    row = before.blocks tradeId := by
  obtain ⟨choice, served⟩ := served
  rcases (Fate.executed_read served).2 with same | lost
  · exact Except.ok.inj same
  · cases lost

theorem served_now (served : (complianceServing timestampOf).serves before ⟨.now, now⟩ after) : now = before.now := by
  obtain ⟨choice, served⟩ := served
  exact (congrArg Prod.fst served).symm

end Statements

abbrev CompliancePool := Pool ComplianceEffect ComplianceAnswer (Except Failure ComplianceReply) ComplianceWorld
abbrev ComplianceMove := Move ComplianceCall ComplianceEffect ComplianceAnswer
abbrev ComplianceEntry := Transition CompliancePool ComplianceMove
abbrev ComplianceHistory := History CompliancePool ComplianceMove

end Agroasys.Gateway
