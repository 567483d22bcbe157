import Agroasys.Foundation.Faults
import Agroasys.Foundation.Paging
import Agroasys.Reconciliation.Classifier

namespace Agroasys.Reconciliation

open Function Agroasys.Foundation

inductive ReconcileMode where
  | once
  | daemon
  deriving DecidableEq, Repr

inductive ReconcileRunStatus where
  | running
  | completed
  | failed
  | skipped
  deriving DecidableEq, Repr

structure SeverityCounts where
  critical : Nat
  high : Nat
  medium : Nat
  low : Nat
  deriving DecidableEq, Repr

def SeverityCounts.of (counts : SeverityCounts) : DriftSeverity → Nat
  | .critical => counts.critical
  | .high => counts.high
  | .medium => counts.medium
  | .low => counts.low

def SeverityCounts.increment (counts : SeverityCounts) : DriftSeverity → SeverityCounts
  | .critical => { counts with critical := counts.critical + 1 }
  | .high => { counts with high := counts.high + 1 }
  | .medium => { counts with medium := counts.medium + 1 }
  | .low => { counts with low := counts.low + 1 }

def noCounts : SeverityCounts :=
  ⟨0, 0, 0, 0⟩

structure RunStats where
  runKey : String
  mode : ReconcileMode
  status : ReconcileRunStatus
  totalTrades : Nat
  driftCount : Nat
  severityCounts : SeverityCounts
  skippedReason : Option String
  deriving DecidableEq

/-- A row of `reconcile_runs`. -/
structure ReconcileRunRow where
  id : Nat
  runKey : String
  mode : ReconcileMode
  status : ReconcileRunStatus
  totalTrades : Nat
  driftCount : Nat
  severityCounts : SeverityCounts
  errorMessage : Option String
  deriving DecidableEq

/-- A row of `reconcile_drifts`. -/
structure DriftRow where
  runId : Nat
  runKey : String
  finding : DriftFinding
  occurrences : Nat
  deriving DecidableEq

/-- A row of `reconcile_run_trades`. -/
structure RunTradeRow where
  runId : Nat
  runKey : String
  tradeId : String
  deriving DecidableEq

/-- The indexer's trades. A query is answered in some order by `createdAt`; trades created
at one time may stand in another order for another query. -/
structure IndexerState where
  records : List IndexedTradeRecord
  order : Nat → Nat → List IndexedTradeRecord
  complete : ∀ limit offset, (order limit offset).Perm records
  sorted : ∀ limit offset, (order limit offset).Pairwise fun record later => record.createdAt ≤ later.createdAt

def IndexerState.trades (indexer : IndexerState) (limit offset : Nat) : List IndexedTradeRecord :=
  page limit offset (indexer.order limit offset)

/-- The escrow, as the SDK reads it. -/
structure ChainState where
  tradeCounter : Nat
  getTrade : String → Except String Trade

/-- Drifts and run trades are listed newest first. -/
structure ReconcileWorld where
  indexer : IndexerState
  chain : ChainState
  runs : String → Option ReconcileRunRow
  drifts : List DriftRow
  runTrades : List RunTradeRow
  nextRunId : Nat

section Statements

/-- What a lost connection raises. -/
def connectionLost : String :=
  "Connection terminated unexpectedly"

/-- `INSERT INTO reconcile_runs ... ON CONFLICT DO NOTHING RETURNING *`. -/
def ReconcileWorld.insertRun (world : ReconcileWorld) (runKey : String) (mode : ReconcileMode) :
    Option ReconcileRunRow × ReconcileWorld :=
  match world.runs runKey with
  | some _ => (none, { world with nextRunId := world.nextRunId + 1 })
  | none =>
    let row := ⟨world.nextRunId, runKey, mode, .running, 0, 0, noCounts, none⟩
    (some row, { world with runs := update world.runs runKey (some row), nextRunId := world.nextRunId + 1 })

/-- The unique key of `reconcile_drifts`. -/
def DriftRow.clashes (runKey : String) (finding : DriftFinding) (row : DriftRow) : Bool :=
  row.runKey = runKey && row.finding.tradeId = finding.tradeId && row.finding.place = finding.place

def ReconcileWorld.upsertDrift (world : ReconcileWorld) (runId : Nat) (runKey : String) (finding : DriftFinding) :
    ReconcileWorld :=
  if world.drifts.any (DriftRow.clashes runKey finding) then
    { world with drifts := world.drifts.map fun row =>
        if row.clashes runKey finding then ⟨runId, runKey, finding, row.occurrences + 1⟩ else row }
  else { world with drifts := ⟨runId, runKey, finding, 1⟩ :: world.drifts }

def ReconcileWorld.upsertRunTradeScope (world : ReconcileWorld) (runId : Nat) (runKey tradeId : String) :
    ReconcileWorld :=
  if world.runTrades.any fun row => row.runKey = runKey && row.tradeId = tradeId then world
  else { world with runTrades := ⟨runId, runKey, tradeId⟩ :: world.runTrades }

def ReconcileWorld.completeRun (world : ReconcileWorld) (stats : RunStats) : ReconcileWorld :=
  { world with runs := update world.runs stats.runKey ((world.runs stats.runKey).map fun row =>
      { row with
        status := stats.status
        totalTrades := stats.totalTrades
        driftCount := stats.driftCount
        severityCounts := stats.severityCounts }) }

def ReconcileWorld.failRun (world : ReconcileWorld) (runKey errorMessage : String) : ReconcileWorld :=
  { world with runs := update world.runs runKey ((world.runs runKey).map fun row =>
      { row with status := .failed, errorMessage := some errorMessage }) }

end Statements

/-- The statements on the tables, the queries to the indexer and the chain, the generated
run keys and the notifications. -/
inductive ReconcileEffect where
  | generateRunKey (mode : ReconcileMode)
  | insertRun (runKey : String) (mode : ReconcileMode)
  | selectRun (runKey : String)
  | fetchTrades (limit offset : Nat)
  | upsertRunTradeScope (runId : Nat) (runKey tradeId : String)
  | getTrade (tradeId : String)
  | upsertDrift (runId : Nat) (runKey : String) (finding : DriftFinding)
  | notify (runKey : String) (finding : DriftFinding)
  | completeRun (stats : RunStats)
  | failRun (runKey errorMessage : String)

abbrev ReconcileAnswer : ReconcileEffect → Type
  | .generateRunKey _ => String
  | .insertRun _ _ | .selectRun _ => Except String (Option ReconcileRunRow)
  | .fetchTrades _ _ => Except String (List IndexedTradeRecord)
  | .getTrade _ => Except String Trade
  | .notify _ _ => Except String Bool
  | .upsertRunTradeScope _ _ _ | .upsertDrift _ _ _ | .completeRun _ | .failRun _ _ => Except String Unit

/-- How a call ends, and the text of the clock in a generated key. -/
structure ReconcileChoice where
  fate : Fate
  clock : String
  sent : Bool

def runKeyOf (mode : ReconcileMode) (clock : String) : String :=
  match mode with
  | .daemon => "daemon-" ++ clock
  | .once => "once-" ++ clock

def reconcileServing : Serving ReconcileChoice ReconcileEffect ReconcileAnswer ReconcileWorld :=
  fun choice world effect =>
    match effect with
    | .generateRunKey mode => (runKeyOf mode choice.clock, world)
    | .insertRun runKey mode => choice.fate.execute connectionLost (.ok (world.insertRun runKey mode)) world
    | .selectRun runKey => choice.fate.execute connectionLost (.ok (world.runs runKey, world)) world
    | .fetchTrades limit offset =>
      choice.fate.execute connectionLost (.ok (world.indexer.trades limit offset, world)) world
    | .getTrade tradeId =>
      choice.fate.execute connectionLost ((world.chain.getTrade tradeId).map fun trade => (trade, world)) world
    | .notify _ _ => choice.fate.execute connectionLost (.ok (choice.sent, world)) world
    | .upsertRunTradeScope runId runKey tradeId =>
      choice.fate.execute connectionLost (.ok ((), world.upsertRunTradeScope runId runKey tradeId)) world
    | .upsertDrift runId runKey finding =>
      choice.fate.execute connectionLost (.ok ((), world.upsertDrift runId runKey finding)) world
    | .completeRun stats => choice.fate.execute connectionLost (.ok ((), world.completeRun stats)) world
    | .failRun runKey message => choice.fate.execute connectionLost (.ok ((), world.failRun runKey message)) world

abbrev ReconcileTask := Task ReconcileEffect ReconcileAnswer String

def askReconcile (effect : ReconcileEffect) : ReconcileTask (ReconcileAnswer effect) :=
  monadLift (Program.perform effect : Program ReconcileEffect ReconcileAnswer (ReconcileAnswer effect))

section Queries

def createRun (runKey : String) (mode : ReconcileMode) : ReconcileTask (Option ReconcileRunRow × Bool) := do
  match ← Task.ofExcept (← askReconcile (.insertRun runKey mode)) with
  | some row => return (some row, true)
  | none => return (← Task.ofExcept (← askReconcile (.selectRun runKey)), false)

def upsertDrift (runId : Nat) (runKey : String) (finding : DriftFinding) : ReconcileTask Unit := do
  Task.ofExcept (← askReconcile (.upsertDrift runId runKey finding))

def upsertRunTradeScope (runId : Nat) (runKey tradeId : String) : ReconcileTask Unit := do
  Task.ofExcept (← askReconcile (.upsertRunTradeScope runId runKey tradeId))

def completeRun (stats : RunStats) : ReconcileTask Unit := do
  Task.ofExcept (← askReconcile (.completeRun stats))

def failRun (runKey message : String) : ReconcileTask Unit := do
  Task.ofExcept (← askReconcile (.failRun runKey message))

def fetchTrades (limit offset : Nat) : ReconcileTask (List IndexedTradeRecord) := do
  Task.ofExcept (← askReconcile (.fetchTrades limit offset))

def getTrade (tradeId : String) : ReconcileTask Trade := do
  Task.ofExcept (← askReconcile (.getTrade tradeId))

def notifyCriticalDrift (runKey : String) (finding : DriftFinding) : ReconcileTask Unit := do
  if finding.severity ≠ .critical then return ()
  let _ ← Task.ofExcept (← askReconcile (.notify runKey finding))

end Queries

structure ReconcileSettings where
  batchSize : Nat
  maxTradesPerRun : Nat
  getAddress : String → Option String

section Reconciler

variable (settings : ReconcileSettings)

/-- The trade on chain, or why it could not be read. -/
def readTrade (tradeId : String) : ReconcileTask (Except String Trade) :=
  tryCatch (do return .ok (← getTrade tradeId))
    fun error => return .error (if error = "" then "Unknown on-chain read error" else error)

def recordFindings (runId : Nat) : List DriftFinding → RunStats → ReconcileTask RunStats
  | [], stats => return stats
  | finding :: findings, stats => do
    upsertDrift runId stats.runKey finding
    notifyCriticalDrift stats.runKey finding
    recordFindings runId findings { stats with
      driftCount := stats.driftCount + 1
      severityCounts := stats.severityCounts.increment finding.severity }

def reconcileTrade (runId : Nat) (indexedTrade : IndexedTradeRecord) (stats : RunStats) : ReconcileTask RunStats := do
  let stats := { stats with totalTrades := stats.totalTrades + 1 }
  upsertRunTradeScope runId stats.runKey indexedTrade.tradeId
  let findings ← Task.ofExcept (match ← readTrade indexedTrade.tradeId with
    | .ok onchainTrade => classifyDrifts settings.getAddress indexedTrade (some onchainTrade) none
    | .error error => classifyDrifts settings.getAddress indexedTrade none (some error))
  recordFindings runId findings stats

def reconcileTrades (runId : Nat) : List IndexedTradeRecord → RunStats → ReconcileTask RunStats
  | [], stats => return stats
  | indexedTrade :: indexedTrades, stats => do
    reconcileTrades runId indexedTrades (← reconcileTrade settings runId indexedTrade stats)

/-- The loop; every turn that goes on counts a trade, so that `fuel` need not be more
than the trades of a run. -/
def reconcilePages (runId : Nat) : Nat → Nat → RunStats → ReconcileTask RunStats
  | 0, _, stats => return stats
  | fuel + 1, offset, stats => do
    if stats.totalTrades < settings.maxTradesPerRun then
      let limit := min settings.batchSize (settings.maxTradesPerRun - stats.totalTrades)
      let indexedTrades ← fetchTrades limit offset
      if indexedTrades.length = 0 then return stats
      let stats ← reconcileTrades settings runId indexedTrades stats
      if indexedTrades.length < limit then return stats
      reconcilePages runId fuel (offset + indexedTrades.length) stats
    else return stats

def skipped (runKey : String) (mode : ReconcileMode) (row : ReconcileRunRow) (reason : String) : RunStats :=
  ⟨runKey, mode, .skipped, row.totalTrades, row.driftCount, row.severityCounts, some reason⟩

/-- A run under way: its pages, its completion, and its failure. -/
def executeRun (runKey : String) (mode : ReconcileMode) (runId : Nat) : ReconcileTask RunStats :=
  tryCatch
    (do
      let stats ← reconcilePages settings runId settings.maxTradesPerRun 0
        ⟨runKey, mode, .completed, 0, 0, noCounts, none⟩
      completeRun stats
      return stats)
    fun error => do
      failRun runKey (if error = "" then "Unknown reconciliation failure" else error)
      throw error

/-- What becomes of a run key once its row is known. -/
def continueRun (runKey : String) (mode : ReconcileMode) :
    Option ReconcileRunRow × Bool → ReconcileTask RunStats
  | (none, _) => throw "Cannot read properties of undefined (reading 'status')"
  | (some row, created) =>
    if !created && row.status = .completed then
      return skipped runKey mode row "run_key already completed"
    else if !created && row.status = .running then
      return skipped runKey mode row "run_key currently running"
    else executeRun settings runKey mode row.id

def resolveRunKey (mode : ReconcileMode) (runKeyOverride : Option String) : ReconcileTask String :=
  match runKeyOverride.filter (· ≠ "") with
  | some runKey => return runKey
  | none => askReconcile (.generateRunKey mode)

def reconcileOnce (mode : ReconcileMode) (runKeyOverride : Option String) : ReconcileTask RunStats := do
  let runKey ← resolveRunKey mode runKeyOverride
  continueRun settings runKey mode (← createRun runKey mode)

/-- A call of `reconcileOnce`. -/
structure ReconcileCall where
  mode : ReconcileMode
  runKeyOverride : Option String

/-- The indexer and the chain move on; the tables are the service's own. -/
def ReconcileWorld.advances (before after : ReconcileWorld) : Prop :=
  ∃ indexer chain, after = { before with indexer := indexer, chain := chain }

def reconcileServer : Server ReconcileCall ReconcileEffect ReconcileAnswer (Except String RunStats) ReconcileWorld where
  initial world := (∀ runKey, world.runs runKey = none) ∧ world.drifts = [] ∧ world.runTrades = []
  program call := (reconcileOnce settings call.mode call.runKeyOverride).run
  serves := reconcileServing.serves
  drifts := ReconcileWorld.advances

end Reconciler

end Agroasys.Reconciliation
