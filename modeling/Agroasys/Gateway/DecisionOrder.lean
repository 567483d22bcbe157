import Agroasys.Foundation.Outcomes
import Agroasys.Foundation.Transition
import Agroasys.Gateway.Pagination
import Agroasys.Gateway.Progression

namespace Agroasys.Gateway

open Agroasys.Foundation Agroasys.Runtime

section Stores

/-- A store of decisions, as far as recording one uses it, and the decisions it holds, oldest first. -/
structure ComplianceStore (State : Type) where
  getDecision : String → State → Option ComplianceDecisionRecord
  getLatestDecision : String → State → Option ComplianceDecisionRecord
  getOracleProgressionBlock : String → State → Option ProgressionBlock
  saveDecisionWithAudit : ComplianceDecisionRecord → AuditLogEntry → State →
    Except Failure (ComplianceDecisionRecord × State)
  held : State → List ComplianceDecisionRecord

/-- `mapDecisionRow`, with the texts of the times. -/
def DecisionRow.record (row : DecisionRow Int) (blockState : BlockState) : ComplianceDecisionRecord where
  decisionId := row.decisionId
  tradeId := row.tradeId
  decisionType := row.decisionType
  result := row.result
  reasonCode := row.reasonCode
  provider := row.provider
  providerRef := row.providerRef
  subjectId := row.subjectId
  subjectType := row.subjectType
  riskLevel := row.riskLevel
  correlationId := row.correlationId
  decidedAt := toISOString row.decidedAt
  overrideWindowEndsAt := row.overrideWindowEndsAt.map toISOString
  blockState := blockState
  audit := {
    reason := row.audit.reason
    evidenceLinks := row.audit.evidenceLinks
    ticketRef := row.audit.ticketRef
    actorSessionId := row.audit.actorSessionId
    actorWallet := row.audit.actorWallet
    actorRole := row.audit.actorRole
    createdAt := toISOString row.decidedAt
    requestedBy := row.audit.requestedBy }

/-- A `TIMESTAMP` column takes a text, or refuses it. -/
def takeTimestamp (timestampOf : String → Option Int) (text : String) : Except Failure Int :=
  match timestampOf text with
  | some instant => .ok instant
  | none => .error (.unexpected ("invalid input syntax for type timestamp: " ++ text))

/-- The row that `insertComplianceDecision` inserts: the time of the audit is that of the decision. -/
def ComplianceDecisionRecord.row (timestampOf : String → Option Int) (decision : ComplianceDecisionRecord) :
    Except Failure (DecisionRow Int) := do
  let decidedAt ← takeTimestamp timestampOf decision.decidedAt
  let overrideWindowEndsAt ← decision.overrideWindowEndsAt.mapM (takeTimestamp timestampOf)
  return {
    decisionId := decision.decisionId
    tradeId := decision.tradeId
    decisionType := decision.decisionType
    result := decision.result
    reasonCode := decision.reasonCode
    provider := decision.provider
    providerRef := decision.providerRef
    subjectId := decision.subjectId
    subjectType := decision.subjectType
    riskLevel := decision.riskLevel
    correlationId := decision.correlationId
    decidedAt := decidedAt
    overrideWindowEndsAt := overrideWindowEndsAt
    audit := {
      reason := decision.audit.reason
      evidenceLinks := decision.audit.evidenceLinks
      ticketRef := decision.audit.ticketRef
      actorSessionId := decision.audit.actorSessionId
      actorWallet := decision.audit.actorWallet
      actorRole := decision.audit.actorRole
      createdAt := decidedAt
      requestedBy := decision.audit.requestedBy } }

/-- `createPostgresComplianceStore` and `createPostgresComplianceWriteStore`, each statement done. -/
def postgresStore (timestampOf : String → Option Int) : ComplianceStore ComplianceWorld where
  getDecision decisionId world :=
    (world.decisions.find? fun row => row.decisionId = decisionId).map fun row =>
      row.record (blockStateOf (world.blocks row.tradeId))
  getLatestDecision tradeId world :=
    (latestDecision tradeId world.decisions).map fun row => row.record (blockStateOf (world.blocks tradeId))
  getOracleProgressionBlock tradeId world := world.blocks tradeId
  saveDecisionWithAudit decision auditEntry world := do
    let row ← decision.row timestampOf
    if world.decisions.any (·.decisionId = row.decisionId) then
      throw (.unexpected "duplicate key value violates unique constraint \"compliance_decisions_pkey\"")
    return (row.record (blockStateOf (world.blocks row.tradeId)),
      { world with decisions := row :: world.decisions, auditLog := auditEntry :: world.auditLog })
  held world := world.decisions.reverse.map fun row => row.record (blockStateOf (world.blocks row.tradeId))

end Stores

section Calls

variable {State : Type} (store : ComplianceStore State) (engine : DateEngine)

/-- `new Date(time).toISOString()`. -/
def dateIso (time : Int) : Except Failure String :=
  match dateTime (some time) with
  | some time => .ok (toISOString time)
  | none => .error (.unexpected "Invalid time value")

/-- A call of `createDecision`, with the reading of the clock and the id that it draws. -/
structure DecisionCall where
  input : DecisionCreateInput
  nowMs : Int
  decisionId : String

namespace ComplianceStore

def nextDecisionTimestamp (tradeId : String) (nowMs : Int) (state : State) : Except Failure String :=
  match store.getLatestDecision tradeId state with
  | none => dateIso nowMs
  | some latestDecision =>
    match dateParse engine latestDecision.decidedAt with
    | none => dateIso nowMs
    | some latestMs => dateIso (max nowMs (latestMs + 1))

end ComplianceStore

/-- The decision that a call records. -/
def DecisionCall.record (call : DecisionCall) (decidedAt : String) (existingBlock : Option ProgressionBlock) :
    ComplianceDecisionRecord where
  decisionId := call.decisionId
  tradeId := call.input.tradeId
  decisionType := call.input.decisionType
  result := call.input.result
  reasonCode := call.input.reasonCode
  provider := call.input.provider
  providerRef := call.input.providerRef
  subjectId := call.input.subjectId
  subjectType := call.input.subjectType
  riskLevel := call.input.riskLevel
  correlationId := call.input.correlationId
  decidedAt := decidedAt
  overrideWindowEndsAt := call.input.overrideWindowEndsAt
  blockState := blockStateOf existingBlock
  audit := {
    reason := call.input.audit.reason
    evidenceLinks := call.input.audit.evidenceLinks
    ticketRef := call.input.audit.ticketRef
    actorSessionId := call.input.context.sessionReference
    actorWallet := call.input.context.principal.session.walletAddress
    actorRole := call.input.context.principal.session.role
    createdAt := decidedAt
    requestedBy := call.input.context.principal.session.userId }

/-- `decisionAuditMetadata` and the entry of the audit log. -/
def DecisionCall.auditEntry (call : DecisionCall) : AuditLogEntry :=
  auditLogEntry "compliance.decision.recorded" "recorded" call.input.context
    [("decisionId", .text call.decisionId), ("tradeId", .text call.input.tradeId),
      ("decisionType", .text call.input.decisionType.value), ("result", .text call.input.result.value),
      ("reasonCode", .text call.input.reasonCode), ("provider", .text call.input.provider),
      ("idempotencyKey", .text call.input.context.idempotencyKey)]

namespace ComplianceStore

def createDecision (call : DecisionCall) (state : State) : Except Failure (ComplianceDecisionRecord × State) := do
  let decidedAt ← store.nextDecisionTimestamp engine call.input.tradeId call.nowMs state
  let existingBlock := store.getOracleProgressionBlock call.input.tradeId state
  store.saveDecisionWithAudit (call.record decidedAt existingBlock) call.auditEntry state

/-- Calls that follow one another on a store without decisions; `randomUUID` draws new ids. A call that
throws leaves the store as it was. -/
def calls : System State (DecisionCall × Except Failure ComplianceDecisionRecord) where
  initial state := store.held state = []
  step state label next :=
    (∀ decision ∈ store.held state, decision.decisionId ≠ label.1.decisionId) ∧
      match store.createDecision engine label.1 state with
      | .ok (decision, after) => label.2 = .ok decision ∧ next = after
      | .error failure => label.2 = .error failure ∧ next = state

end ComplianceStore

/-- The decisions of a trade are at later and later instants. -/
def Increasing (engine : DateEngine) (decisions : List ComplianceDecisionRecord) : Prop :=
  decisions.Pairwise fun earlier later => ∃ first second, dateParse engine earlier.decidedAt = some first ∧
    dateParse engine later.decidedAt = some second ∧ first < second

/-- The decisions of each trade are increasing, and the latest one is the one that was recorded last. -/
structure InOrder (history : History State (DecisionCall × Except Failure ComplianceDecisionRecord)) (state : State) :
    Prop where
  increasing : ∀ tradeId, Increasing engine ((store.held state).filter fun decision => decision.tradeId = tradeId)
  latest : ∀ entry ∈ history, ∀ decision, entry.label.2 = .ok decision →
    store.getLatestDecision entry.label.1.input.tradeId entry.after = some decision

end Calls

section Order

/-- Decisions at times of a kind, those of each trade at later and later ones. -/
structure Chronicled (kind : Int → Prop) (decisions : List ComplianceDecisionRecord) : Prop where
  dated : ∀ decision ∈ decisions, ∃ time, (-maxDate ≤ time ∧ time ≤ maxDate) ∧ kind time ∧
    decision.decidedAt = toISOString time
  ordered : decisions.Pairwise fun earlier later => earlier.tradeId = later.tradeId →
    isoInstant earlier.decidedAt < isoInstant later.decidedAt

theorem isoInstant_range (range : -maxDate ≤ time ∧ time ≤ maxDate) : isoInstant (toISOString time) = time := by
  rw [isoInstant, readIso_toISOString range]
  exact DateTime.time_ofTime time

private theorem Chronicled.increasing (recorded : Chronicled kind decisions) (engine : DateEngine) (tradeId : String) :
    Increasing engine (decisions.filter fun decision => decision.tradeId = tradeId) := by
  refine (recorded.ordered.filter _).imp_of_mem ?_
  intro earlier later member member' less
  obtain ⟨among, trade⟩ := List.mem_filter.mp member
  obtain ⟨among', trade'⟩ := List.mem_filter.mp member'
  obtain ⟨first, range, _, same⟩ := recorded.dated earlier among
  obtain ⟨second, range', _, same'⟩ := recorded.dated later among'
  have before := less ((of_decide_eq_true trade).trans (of_decide_eq_true trade').symm)
  rw [same, same', isoInstant_range range, isoInstant_range range'] at before
  exact ⟨first, second, same ▸ dateParse_toISOString engine range, same' ▸ dateParse_toISOString engine range', before⟩

private theorem Chronicled.append {decision : ComplianceDecisionRecord} (recorded : Chronicled kind decisions)
    (range : -maxDate ≤ time ∧ time ≤ maxDate) (timely : kind time) (same : decision.decidedAt = toISOString time)
    (later : ∀ other ∈ decisions, other.tradeId = decision.tradeId → isoInstant other.decidedAt < time) :
    Chronicled kind (decisions ++ [decision]) := by
  constructor
  · intro other member
    rcases List.mem_append.mp member with among | last
    · exact recorded.dated other among
    · rw [List.mem_singleton.mp last]
      exact ⟨time, range, timely, same⟩
  · rw [List.pairwise_append]
    refine ⟨recorded.ordered, List.pairwise_singleton .., ?_⟩
    intro other among last member trade
    rw [List.mem_singleton.mp member] at trade ⊢
    rw [same, isoInstant_range range]
    exact later other among trade

/-- The decision is one of a trade, and none of the trade is later. -/
structure Latest (tradeId : String) (decisions : List ComplianceDecisionRecord) (latest : ComplianceDecisionRecord) :
    Prop where
  member : latest ∈ decisions
  trade : latest.tradeId = tradeId
  greatest : ∀ other ∈ decisions, other.tradeId = tradeId → isoInstant other.decidedAt ≤ isoInstant latest.decidedAt

/-- A store that gives the latest decision and takes later ones, where the times are of a kind. -/
structure ComplianceStore.Dated {State : Type} (store : ComplianceStore State) (sound : State → Prop)
    (kind : Int → Prop) : Prop where
  empty : ∀ state, store.held state = [] → sound state
  none_latest : ∀ tradeId state, sound state → Chronicled kind (store.held state) →
    store.getLatestDecision tradeId state = none → ∀ decision ∈ store.held state, decision.tradeId ≠ tradeId
  some_latest : ∀ tradeId state latest, sound state → Chronicled kind (store.held state) →
    store.getLatestDecision tradeId state = some latest → ∃ decision, Latest tradeId (store.held state) decision ∧
      latest.decidedAt = decision.decidedAt
  saves : ∀ call block time auditEntry state decision next, sound state → Chronicled kind (store.held state) →
    (∀ other ∈ store.held state, other.decisionId ≠ call.decisionId) → (-maxDate ≤ time ∧ time ≤ maxDate) → kind time →
    (∀ other ∈ store.held state, other.tradeId = call.input.tradeId → isoInstant other.decidedAt < time) →
    store.saveDecisionWithAudit (DecisionCall.record call (toISOString time) block) auditEntry state = .ok (decision, next) →
      sound next ∧ Chronicled kind (store.held next) ∧ store.getLatestDecision call.input.tradeId next = some decision

variable {State : Type} {store : ComplianceStore State} {engine : DateEngine} {sound : State → Prop} {kind : Int → Prop}

/-- Every time that a call can take is of the kind. -/
def ComplianceStore.Timely (store : ComplianceStore State) (kind : Int → Prop)
    (entry : Transition State (DecisionCall × Except Failure ComplianceDecisionRecord)) : Prop :=
  Chronicled kind (store.held entry.before) → kind entry.label.1.nowMs ∧
    ∀ decision ∈ store.held entry.before, decision.tradeId = entry.label.1.input.tradeId →
      kind (isoInstant decision.decidedAt + 1)

/-- The latest decision after a call is the one that it answered with. -/
def ComplianceStore.Told (store : ComplianceStore State)
    (entry : Transition State (DecisionCall × Except Failure ComplianceDecisionRecord)) : Prop :=
  ∀ decision, entry.label.2 = .ok decision →
    store.getLatestDecision entry.label.1.input.tradeId entry.after = some decision

end Order

section Memory

end Memory

section Postgres

theorem latestDecision_none (absent : latestDecision tradeId rows = none) : ∀ row ∈ rows, row.tradeId ≠ tradeId := by
  induction rows with
  | nil => exact fun _ none => nomatch none
  | cons first rest ih =>
    unfold latestDecision at absent
    by_cases own : first.tradeId = tradeId
    · rw [if_pos own] at absent
      split at absent
      · split at absent <;> cases absent
      · cases absent
    · rw [if_neg own] at absent
      intro row member
      rcases List.mem_cons.mp member with rfl | later
      · exact own
      · exact ih absent row later

theorem latestDecision_some (found : latestDecision tradeId rows = some latest) :
    latest ∈ rows ∧ latest.tradeId = tradeId ∧ ∀ row ∈ rows, row.tradeId = tradeId → row.decidedAt ≤ latest.decidedAt := by
  induction rows generalizing latest with
  | nil => cases found
  | cons first rest ih =>
    unfold latestDecision at found
    by_cases own : first.tradeId = tradeId
    · rw [if_pos own] at found
      cases before : latestDecision tradeId rest with
      | none =>
        rw [before] at found
        cases found
        refine ⟨List.mem_cons_self, own, ?_⟩
        intro row member trade
        rcases List.mem_cons.mp member with rfl | later
        · exact le_rfl
        · exact absurd trade (latestDecision_none before row later)
      | some other =>
        obtain ⟨member, trade, greatest⟩ := ih before
        rw [before] at found
        dsimp only at found
        unfold DecisionRow.outranks at found
        simp only [Bool.or_eq_true, Bool.and_eq_true, decide_eq_true_eq] at found
        split at found
        · rename_i ahead
          cases found
          refine ⟨List.mem_cons_of_mem _ member, trade, ?_⟩
          intro row among trade'
          rcases List.mem_cons.mp among with rfl | later
          · omega
          · exact greatest row later trade'
        · rename_i behind
          cases found
          refine ⟨List.mem_cons_self, own, ?_⟩
          intro row among trade'
          rcases List.mem_cons.mp among with rfl | later
          · exact le_rfl
          · have bound := greatest row later trade'
            omega
    · rw [if_neg own] at found
      obtain ⟨member, trade, greatest⟩ := ih found
      refine ⟨List.mem_cons_of_mem _ member, trade, ?_⟩
      intro row among trade'
      rcases List.mem_cons.mp among with rfl | later
      · exact absurd trade' own
      · exact greatest row later trade'

end Postgres

section Runs

variable {State : Type} (store : ComplianceStore State) (engine : DateEngine)

/-- What a call answers, and the store after it. -/
def ComplianceStore.answer (call : DecisionCall) (state : State) : Except Failure ComplianceDecisionRecord × State :=
  match store.createDecision engine call state with
  | .ok (decision, next) => (.ok decision, next)
  | .error failure => (.error failure, state)

variable {store engine}

def utcEngine : DateEngine := ⟨fun wall => wall, fun _ => none⟩

end Runs

end Agroasys.Gateway
