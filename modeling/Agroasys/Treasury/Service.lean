import Agroasys.Runtime.Number
import Agroasys.Treasury.Store

namespace Agroasys.Treasury

open Agroasys.Foundation Agroasys.Runtime

abbrev TreasuryTask := Task TreasuryEffect TreasuryAnswer String

def askTreasury (effect : TreasuryEffect) : TreasuryTask (TreasuryAnswer effect) :=
  monadLift (Program.perform effect : Program TreasuryEffect TreasuryAnswer (TreasuryAnswer effect))

section Payouts

/-- `ALLOWED_TRANSITIONS`. -/
def allowedTransitions : PayoutState → List PayoutState
  | .pendingReview => [.readyForPayout, .cancelled]
  | .readyForPayout => [.processing, .cancelled]
  | .processing => [.paid, .cancelled]
  | .paid => []
  | .cancelled => []

def assertValidTransition (current next : PayoutState) : Except String Unit :=
  if next ∈ allowedTransitions current then .ok ()
  else .error s!"Invalid payout state transition: {current.value} -> {next.value}"

def payoutStates : List PayoutState :=
  [.pendingReview, .readyForPayout, .processing, .paid, .cancelled]

def assertPayoutState (value : String) : Except String PayoutState :=
  match payoutStates.find? (·.value = value) with
  | some state => .ok state
  | none => .error "Invalid payout state"

/-- `latest?.state || 'PENDING_REVIEW'`. -/
def currentState (latest : Option PayoutLifecycleEvent) : PayoutState :=
  (latest.map (·.state)).getD .pendingReview

structure AppendStateRequest where
  entryId : String
  state : String
  note : Option String
  actor : Option String
  deriving DecidableEq

inductive TreasuryResponse where
  | ingested (fetched inserted : Nat)
  | appended (event : PayoutLifecycleEvent)
  | failed (status : Nat) (error : String)
  deriving DecidableEq

def appendPayoutState (entryId : Int) (state : PayoutState) (note actor : Option String) :
    TreasuryTask PayoutLifecycleEvent := do
  Task.ofExcept (← askTreasury (.insertPayout entryId state (truthy note) (truthy actor)))

/-- The body of the request, from the lookup of the entry on. -/
def appendToEntry (entryId : Int) (request : AppendStateRequest) : TreasuryTask TreasuryResponse := do
  match ← Task.ofExcept (← askTreasury (.selectEntry entryId)) with
  | none => return .failed 404 "Ledger entry not found"
  | some _ =>
    let requestedState ← Task.ofExcept (assertPayoutState request.state)
    let latest ← Task.ofExcept (← askTreasury (.selectLatestPayout entryId))
    Task.ofExcept (assertValidTransition (currentState latest) requestedState)
    let event ← appendPayoutState entryId requestedState request.note request.actor
    return .appended event

def appendState (request : AppendStateRequest) : TreasuryTask TreasuryResponse :=
  match parseDecimal request.entryId with
  | none => return .failed 400 "Invalid entryId"
  | some entryId => tryCatch (appendToEntry entryId request) fun error => return .failed 400 error

end Payouts

section Ingestion

def getIngestionOffset : TreasuryTask Nat := do
  match ← Task.ofExcept (← askTreasury .selectOffset) with
  | some nextOffset => return nextOffset
  | none =>
    Task.ofExcept (← askTreasury .insertOffset)
    return 0

def setIngestionOffset (nextOffset : Nat) : TreasuryTask Unit := do
  Task.ofExcept (← askTreasury (.setOffset nextOffset))

def upsertLedgerEntryWithInitialState (data : LedgerEntryData) : TreasuryTask (LedgerEntry × Bool) := do
  Task.ofExcept (← askTreasury (.upsertEntry data))

def toTradeEvent (event : IndexerTradeEvent) : IndexerTradeEvent :=
  { event with
    releasedLogisticsAmount := truthy event.releasedLogisticsAmount
    paidPlatformFees := truthy event.paidPlatformFees }

def fetchTreasuryEvents (limit offset : Nat) : TreasuryTask (List IndexerTradeEvent) := do
  let events ← Task.ofExcept (← askTreasury (.tradeEvents limit offset))
  return events.map toTradeEvent

def buildEntryKey (eventId : String) (component : TreasuryComponent) : String :=
  eventId ++ ":" ++ component.lowered

/-- The event a component is ingested from. -/
def TreasuryComponent.eventName : TreasuryComponent → String
  | .logistics => "FundsReleasedStage1"
  | .platformFee => "PlatformFeesPaidStage1"

/-- The amount a component is ingested with. -/
def IndexerTradeEvent.amount (event : IndexerTradeEvent) : TreasuryComponent → Option String
  | .logistics => event.releasedLogisticsAmount
  | .platformFee => event.paidPlatformFees

/-- The fee an event pays to a component: the test of the component's branch. -/
def IndexerTradeEvent.fee (event : IndexerTradeEvent) (component : TreasuryComponent) : Option String :=
  if event.eventName = component.eventName then truthy (event.amount component) else none

def IndexerTradeEvent.entryData (event : IndexerTradeEvent) (component : TreasuryComponent)
    (amountRaw txHash : String) : LedgerEntryData where
  entryKey := buildEntryKey event.id component
  tradeId := event.tradeId
  txHash := txHash
  blockNumber := event.blockNumber
  eventName := event.eventName
  componentType := component
  amountRaw := amountRaw
  sourceTimestamp := event.timestamp
  sourceEventId := event.id

/-- A component's branch of the loop body: `none` is its `continue`, taken where the
event has no transaction hash. -/
def ingestComponent (event : IndexerTradeEvent) (component : TreasuryComponent) (inserted : Nat) :
    TreasuryTask (Option Nat) := do
  match event.fee component with
  | none => return some inserted
  | some amountRaw =>
    match truthy event.txHash with
    | none => return none
    | some txHash =>
      let (_, initialStateCreated) ←
        upsertLedgerEntryWithInitialState (event.entryData component amountRaw txHash)
      return some (if initialStateCreated then inserted + 1 else inserted)

def ingestEvent (event : IndexerTradeEvent) (inserted : Nat) : TreasuryTask Nat := do
  match ← ingestComponent event .logistics inserted with
  | none => return inserted
  | some inserted =>
    match ← ingestComponent event .platformFee inserted with
    | none => return inserted
    | some inserted => return inserted

def ingestEvents : List IndexerTradeEvent → Nat → TreasuryTask Nat
  | [], inserted => return inserted
  | event :: events, inserted => do
    let inserted ← ingestEvent event inserted
    ingestEvents events inserted

structure IngestConfig where
  ingestBatchSize : Nat
  ingestMaxEvents : Nat

/-- Where the loop stands. -/
structure IngestProgress where
  offset : Nat
  fetched : Nat
  inserted : Nat

/-- The loop; `fuel` bounds its turns. -/
def ingestPages (config : IngestConfig) : Nat → IngestProgress → TreasuryTask IngestProgress
  | 0, progress => return progress
  | fuel + 1, progress => do
    if progress.fetched < config.ingestMaxEvents then
      let limit := min config.ingestBatchSize (config.ingestMaxEvents - progress.fetched)
      let events ← fetchTreasuryEvents limit progress.offset
      if events.length = 0 then return progress
      let inserted ← ingestEvents events progress.inserted
      let progress := ⟨progress.offset + events.length, progress.fetched + events.length, inserted⟩
      if events.length < limit then return progress
      ingestPages config fuel progress
    else return progress

/-- Every turn of the loop fetches an event, so that it takes no more turns than this. -/
def ingestOnce (config : IngestConfig) : TreasuryTask TreasuryResponse := do
  let offset ← getIngestionOffset
  let progress ← ingestPages config config.ingestMaxEvents ⟨offset, 0, 0⟩
  setIngestionOffset progress.offset
  return .ingested progress.fetched progress.inserted

/-- More fuel changes nothing: the loop ends by itself. -/
theorem ingestPages_fuel (enough : config.ingestMaxEvents - progress.fetched ≤ fuel) (more : Nat) :
    ingestPages config (fuel + more) progress = ingestPages config fuel progress := by
  induction fuel generalizing progress with
  | zero =>
    cases more with
    | zero => rfl
    | succ more =>
      have ended : ¬ progress.fetched < config.ingestMaxEvents := by omega
      rw [Nat.zero_add]
      simp only [ingestPages, ended, if_false]
  | succ fuel ih =>
    rw [Nat.succ_add]
    simp only [ingestPages]
    split
    · congr 1
      funext events
      by_cases empty : events.length = 0
      · simp only [empty, if_true]
      · simp only [empty, if_false]
        congr 1
        funext inserted
        split
        · rfl
        · apply ih
          dsimp only
          omega
    · rfl

end Ingestion

inductive TreasuryCall where
  | ingest
  | appendState (request : AppendStateRequest)

def ingest (config : IngestConfig) : TreasuryTask TreasuryResponse :=
  tryCatch (ingestOnce config) fun error => return .failed 500 error

def TreasuryCall.task (config : IngestConfig) : TreasuryCall → TreasuryTask TreasuryResponse
  | .ingest => Treasury.ingest config
  | .appendState request => Treasury.appendState request

/-- The indexer appends events with fresh ids and changes nothing else. -/
def TreasuryWorld.indexes (before after : TreasuryWorld) : Prop :=
  ∃ event, (∀ other ∈ before.tradeEvents, other.id ≠ event.id) ∧
    after = { before with tradeEvents := before.tradeEvents ++ [event] }

def treasuryServer (config : IngestConfig) :
    Server TreasuryCall TreasuryEffect TreasuryAnswer (Except String TreasuryResponse) TreasuryWorld where
  initial world := (world.tradeEvents.map (·.id)).Nodup ∧ world.entries = [] ∧ world.payouts = [] ∧
    world.nextOffset.getD 0 = 0
  program call := (call.task config).run
  serves := treasuryServing.serves
  drifts := TreasuryWorld.indexes

end Agroasys.Treasury
