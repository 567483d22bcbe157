import Agroasys.Foundation.Contracts
import Agroasys.Foundation.OffsetPaging
import Agroasys.Reconciliation.Service
import Agroasys.Treasury.Traversal

namespace Agroasys.Reconciliation

open Agroasys.Foundation Agroasys.Treasury

section Traversal

/-- The calls of a run, newest first. -/
abbrev ReconcileLog :=
  List (Event ReconcileEffect ReconcileAnswer)

/-- The trades that an answer brings. -/
def queriedTrades : Event ReconcileEffect ReconcileAnswer → List IndexedTradeRecord
  | ⟨.fetchTrades _ _, .ok indexedTrades⟩ => indexedTrades
  | _ => []

/-- The trades on the pages of a record, newest call first. -/
def fetchedTrades (log : ReconcileLog) : List IndexedTradeRecord :=
  log.reverse.flatMap queriedTrades

variable {rows : List IndexedTradeRecord}

/-- The indexer answers with pages of the trades. -/
def Pages (backend : Backend IndexedTradeRecord.createdAt rows) : Event ReconcileEffect ReconcileAnswer → Prop
  | ⟨.fetchTrades limit offset, .ok indexedTrades⟩ => indexedTrades = backend.page limit offset
  | _ => True

/-- The calls of a new run that do not fail, over an escrow that cannot be read. -/
def Unhindered : Event ReconcileEffect ReconcileAnswer → Prop
  | ⟨.insertRun _ _, answer⟩ => ∃ row, answer = .ok (some row)
  | ⟨.fetchTrades _ _, answer⟩ => ∃ indexedTrades, answer = .ok indexedTrades
  | ⟨.getTrade _, answer⟩ => ∃ error, answer = .error error
  | ⟨.notify _ _, answer⟩ => ∃ sent, answer = .ok sent
  | ⟨.upsertRunTradeScope _ _ _, answer⟩ => answer = .ok ()
  | ⟨.upsertDrift _ _ _, answer⟩ => answer = .ok ()
  | ⟨.completeRun _, answer⟩ => answer = .ok ()
  | _ => True

/-- What is answered to a run, and `certain` where nothing hinders it. -/
def Replies (backend : Backend IndexedTradeRecord.createdAt rows) (certain : Prop)
    (event : Event ReconcileEffect ReconcileAnswer) : Prop :=
  Pages backend event ∧ (certain → Unhindered event)

variable {backend : Backend IndexedTradeRecord.createdAt rows} {certain : Prop}
  {log : ReconcileLog}

/-- The contract of a part of a run. -/
abbrev Reads (backend : Backend IndexedTradeRecord.createdAt rows) (certain : Prop) (task : ReconcileTask α)
    (returns : α → ReconcileLog → Prop) (log : ReconcileLog) :
    Prop :=
  Task.wp (recording (Replies backend certain)) task returns (fun _ _ => ¬ certain) log

private theorem fetchedTrades_cons (event : Event ReconcileEffect ReconcileAnswer)
    (log : ReconcileLog) :
    fetchedTrades (event :: log) = fetchedTrades log ++ queriedTrades event := by
  rw [fetchedTrades, List.reverse_cons, List.flatMap_append, List.flatMap_singleton]
  rfl

/-- A call that asks for no page. -/
theorem fetchedTrades_other (other : queriedTrades event = []) : fetchedTrades (event :: log) = fetchedTrades log := by
  rw [fetchedTrades_cons, other, List.append_nil]

/-- A call that asks for no page, and fails where its answer does. -/
theorem reads_call (effect : ReconcileEffect) (next : ReconcileAnswer effect → Except String α)
    (other : ∀ answer, queriedTrades ⟨effect, answer⟩ = [])
    (succeeds : ∀ answer, Unhindered ⟨effect, answer⟩ → ∃ value, next answer = .ok value) :
    Reads backend certain (do Task.ofExcept (next (← askReconcile effect)))
      (fun _ after => fetchedTrades after = fetchedTrades log) log := by
  apply Task.wp_bind
  apply Task.wp_perform
  rintro answer after ⟨⟨_, unhindered⟩, rfl⟩
  apply Task.wp_ofExcept
  · intro _ _
    exact fetchedTrades_other (other answer)
  · intro error failed sure
    obtain ⟨value, done⟩ := succeeds answer (unhindered sure)
    cases failed.symm.trans done

private theorem reads_scope : Reads backend certain (upsertRunTradeScope runId runKey tradeId)
    (fun _ after => fetchedTrades after = fetchedTrades log) log :=
  reads_call (.upsertRunTradeScope runId runKey tradeId) id (fun _ => rfl) fun _ done => ⟨(), done⟩

private theorem reads_drift : Reads backend certain (upsertDrift runId runKey finding)
    (fun _ after => fetchedTrades after = fetchedTrades log) log :=
  reads_call (.upsertDrift runId runKey finding) id (fun _ => rfl) fun _ done => ⟨(), done⟩

private theorem reads_complete : Reads backend certain (completeRun stats)
    (fun _ after => fetchedTrades after = fetchedTrades log) log :=
  reads_call (.completeRun stats) id (fun _ => rfl) fun _ done => ⟨(), done⟩

private theorem reads_notify : Reads backend certain (notifyCriticalDrift runKey finding)
    (fun _ after => fetchedTrades after = fetchedTrades log) log := by
  unfold notifyCriticalDrift
  split
  · exact rfl
  · apply Task.wp_bind
    apply Task.wp_perform
    rintro answer after ⟨⟨_, unhindered⟩, rfl⟩
    apply Task.wp_bind
    apply Task.wp_ofExcept
    · intro _ _
      exact fetchedTrades_other rfl
    · intro error failed sure
      obtain ⟨sent, done⟩ := unhindered sure
      cases failed.symm.trans done

/-- Where nothing hinders the run, the escrow gives an error with a message. -/
theorem reads_trade : Reads backend certain (readTrade tradeId)
    (fun result after => fetchedTrades after = fetchedTrades log ∧ (certain → ∃ error, error ≠ "" ∧ result = .error error))
    log := by
  apply Task.wp_tryCatch
  apply Task.wp_bind
  apply Task.wp_bind
  apply Task.wp_perform
  rintro answer after ⟨⟨_, unhindered⟩, rfl⟩
  apply Task.wp_ofExcept
  · intro trade found
    refine ⟨fetchedTrades_other rfl, ?_⟩
    intro sure
    obtain ⟨error, failed⟩ := unhindered sure
    cases found.symm.trans failed
  · intro error _
    refine ⟨fetchedTrades_other rfl, ?_⟩
    intro _
    refine ⟨_, ?_, rfl⟩
    split
    · simp
    · assumption

/-- What a part of a run has counted. -/
def Tallied (stats next : RunStats) (count : Nat) : Prop :=
  next.totalTrades = stats.totalTrades + count ∧ next.status = stats.status

private theorem reads_findings (findings : List DriftFinding) (stats : RunStats) :
    Reads backend certain (recordFindings runId findings stats)
      (fun next after => fetchedTrades after = fetchedTrades log ∧ Tallied stats next 0) log := by
  induction findings generalizing stats log with
  | nil => exact ⟨rfl, rfl, rfl⟩
  | cons finding findings ih =>
    apply Task.wp_bind
    apply Task.wp_mono reads_drift
    · intro _ drifted first
      apply Task.wp_bind
      apply Task.wp_mono reads_notify
      · intro _ notified second
        apply Task.wp_mono (ih _)
        · rintro next after ⟨rest, total⟩
          exact ⟨(rest.trans second).trans first, total⟩
        · exact fun _ _ failed => failed
      · exact fun _ _ failed => failed
    · exact fun _ _ failed => failed

private theorem reads_comparison (settings : ReconcileSettings) (record : IndexedTradeRecord) (stats : RunStats) :
    Reads backend certain (reconcileTrade settings runId record stats)
      (fun next after => fetchedTrades after = fetchedTrades log ∧ Tallied stats next 1) log := by
  apply Task.wp_bind
  apply Task.wp_mono reads_scope
  · intro _ listed first
    apply Task.wp_bind
    apply Task.wp_mono reads_trade
    · rintro result read ⟨second, unreadable⟩
      apply Task.wp_bind
      apply Task.wp_ofExcept
      · intro findings _
        apply Task.wp_mono (reads_findings findings _)
        · rintro next after ⟨rest, total⟩
          exact ⟨(rest.trans second).trans first, total⟩
        · exact fun _ _ failed => failed
      · intro error thrown sure
        obtain ⟨message, present, rfl⟩ := unreadable sure
        dsimp only at thrown
        rw [classifyDrifts_error present] at thrown
        cases thrown
    · exact fun _ _ failed => failed
  · exact fun _ _ failed => failed

theorem reads_comparisons (settings : ReconcileSettings) (records : List IndexedTradeRecord) (stats : RunStats) :
    Reads backend certain (reconcileTrades settings runId records stats)
      (fun next after => fetchedTrades after = fetchedTrades log ∧ Tallied stats next records.length) log := by
  induction records generalizing stats log with
  | nil => exact ⟨rfl, rfl, rfl⟩
  | cons record records ih =>
    apply Task.wp_bind
    apply Task.wp_mono (reads_comparison settings record stats)
    · rintro middle between ⟨same, counted⟩
      apply Task.wp_mono (ih middle)
      · rintro next after ⟨rest, total, status⟩
        refine ⟨rest.trans same, ?_, status.trans counted.2⟩
        rw [total, counted.1, List.length_cons]
        omega
      · exact fun _ _ failed => failed
    · exact fun _ _ failed => failed

private theorem reads_fetch (limit offset : Nat) : Reads backend certain (fetchTrades limit offset)
    (fun records after => records = backend.page limit offset ∧
      fetchedTrades after = fetchedTrades log ++ backend.page limit offset) log := by
  apply Task.wp_bind
  apply Task.wp_perform
  rintro answer after ⟨⟨paged, unhindered⟩, rfl⟩
  apply Task.wp_ofExcept
  · rintro records rfl
    have same : records = backend.page limit offset := paged
    refine ⟨same, ?_⟩
    rw [fetchedTrades_cons, ← same]
    rfl
  · intro error failed sure
    obtain ⟨records, read⟩ := unhindered sure
    cases failed.symm.trans read

private theorem reads_pages (positive : 1 ≤ settings.batchSize) (stats : RunStats) (offset : Nat)
    (place : stats.totalTrades = offset) :
    Reads backend certain (reconcilePages settings runId fuel offset stats)
      (fun next after => fetchedTrades after = fetchedTrades log ++
        backend.visitedFrom settings.batchSize settings.maxTradesPerRun fuel offset ∧ next.status = stats.status) log := by
  induction fuel generalizing offset stats log with
  | zero => exact ⟨(List.append_nil _).symm, rfl⟩
  | succ fuel ih =>
    subst place
    unfold reconcilePages
    by_cases room : stats.totalTrades < settings.maxTradesPerRun
    · rw [if_pos room]
      apply Task.wp_bind
      generalize limited : min settings.batchSize (settings.maxTradesPerRun - stats.totalTrades) = limit
      have pages : backend.visitedFrom settings.batchSize settings.maxTradesPerRun (fuel + 1) stats.totalTrades =
          backend.page limit stats.totalTrades ++ backend.visitedFrom settings.batchSize settings.maxTradesPerRun fuel
            (stats.totalTrades + (backend.page limit stats.totalTrades).length) := by
        rw [Backend.visitedFrom, limited]
      have asked : 0 < limit := by omega
      apply Task.wp_mono (reads_fetch limit stats.totalTrades)
      · rintro records between ⟨rfl, fetched⟩
        rw [pages]
        split
        · rename_i empty
          rw [Backend.visited_short (empty ▸ asked), List.append_nil]
          exact ⟨fetched, rfl⟩
        · apply Task.wp_bind
          apply Task.wp_mono (reads_comparisons settings _ stats)
          · rintro middle compared ⟨same, total, status⟩
            split
            · rename_i short
              rw [Backend.visited_short short, List.append_nil]
              exact ⟨same.trans fetched, status⟩
            · apply Task.wp_mono (ih middle _ total)
              · rintro next after ⟨rest, last⟩
                refine ⟨?_, last.trans status⟩
                rw [rest, same, fetched, List.append_assoc]
              · exact fun _ _ failed => failed
          · exact fun _ _ failed => failed
      · exact fun _ _ failed => failed
    · rw [if_neg room, Backend.visited_idle (Nat.le_of_not_lt room), List.append_nil]
      exact ⟨rfl, rfl⟩

private theorem reads_failure {returns : RunStats → ReconcileLog → Prop} (hindered : ¬ certain) :
    Reads backend certain (do
      failRun runKey message
      throw error : ReconcileTask RunStats) returns log := by
  apply Task.wp_bind
  apply Task.wp_bind
  apply Task.wp_perform
  intro answer after _
  apply Task.wp_ofExcept
  · intro _ _
    exact hindered
  · intro _ _
    exact hindered

private theorem reads_execution (positive : 1 ≤ settings.batchSize) :
    Reads backend certain (executeRun settings runKey mode runId)
      (fun stats after => fetchedTrades after = fetchedTrades log ++
        backend.visited settings.batchSize settings.maxTradesPerRun ∧ stats.status = .completed) log := by
  apply Task.wp_tryCatch
  apply Task.wp_bind
  apply Task.wp_mono (reads_pages positive ⟨runKey, mode, .completed, 0, 0, noCounts, none⟩ 0 rfl)
  · rintro stats swept ⟨pages, status⟩
    apply Task.wp_bind
    apply Task.wp_mono reads_complete
    · intro _ after same
      exact ⟨same.trans pages, status⟩
    · exact fun _ _ hindered => reads_failure hindered
  · exact fun _ _ hindered => reads_failure hindered

private theorem reads_creation : Reads backend certain (createRun runKey mode)
    (fun created after => fetchedTrades after = fetchedTrades log ∧ (certain → ∃ row, created = (some row, true))) log := by
  apply Task.wp_bind
  apply Task.wp_perform
  rintro answer after ⟨⟨_, unhindered⟩, rfl⟩
  apply Task.wp_bind
  apply Task.wp_ofExcept
  · rintro inserted rfl
    cases inserted with
    | some row => exact ⟨fetchedTrades_other rfl, fun _ => ⟨row, rfl⟩⟩
    | none =>
      have stale : ¬ certain := by
        intro sure
        obtain ⟨row, created⟩ := unhindered sure
        cases created
      apply Task.wp_bind
      apply Task.wp_perform
      rintro answer after ⟨_, rfl⟩
      apply Task.wp_bind
      apply Task.wp_ofExcept
      · intro row _
        exact ⟨(fetchedTrades_other rfl).trans (fetchedTrades_other rfl), fun sure => absurd sure stale⟩
      · exact fun _ _ => stale
  · intro error failed sure
    obtain ⟨row, created⟩ := unhindered sure
    cases failed.symm.trans created

/-- A run that completes fetches the pages of one traversal, and where nothing hinders it, it completes. -/
theorem reads_once (positive : 1 ≤ settings.batchSize) :
    Reads backend certain (reconcileOnce settings mode runKeyOverride)
      (fun stats after => (stats.status = .completed → fetchedTrades after =
        backend.visited settings.batchSize settings.maxTradesPerRun) ∧ (certain → stats.status = .completed)) [] := by
  have resolves : Reads backend certain (resolveRunKey mode runKeyOverride)
      (fun _ after => fetchedTrades after = []) [] := by
    unfold resolveRunKey
    split
    · exact rfl
    · apply Task.wp_perform
      rintro answer after ⟨_, rfl⟩
      exact fetchedTrades_other rfl
  apply Task.wp_bind
  apply Task.wp_mono resolves
  · intro runKey begun none
    apply Task.wp_bind
    apply Task.wp_mono reads_creation
    · rintro created between ⟨same, fresh⟩
      unfold continueRun
      split
      · intro sure
        obtain ⟨row, absurdly⟩ := fresh sure
        cases absurdly
      · rename_i row made
        have skips (reason : String) (old : (!made) = true) :
            ((skipped runKey mode row reason).status = .completed → fetchedTrades between =
              backend.visited settings.batchSize settings.maxTradesPerRun) ∧
              (certain → (skipped runKey mode row reason).status = .completed) := by
          constructor
          · intro completed
            cases completed
          · intro sure
            obtain ⟨_, absurdly⟩ := fresh sure
            cases absurdly
            cases old
        split
        · rename_i done
          exact skips _ (Bool.and_eq_true_iff.mp done).1
        · split
          · rename_i busy
            exact skips _ (Bool.and_eq_true_iff.mp busy).1
          · apply Task.wp_mono (reads_execution positive)
            · rintro stats after ⟨pages, status⟩
              refine ⟨fun _ => ?_, fun _ => status⟩
              rw [pages, same, none, List.nil_append]
            · exact fun _ _ failed => failed
    · exact fun _ _ failed => failed
  · exact fun _ _ failed => failed

/-- Every run that completes has fetched every trade, and none twice. -/
def ReconcilesOnce (settings : ReconcileSettings) (rows : List IndexedTradeRecord) : Prop :=
  ∀ (backend : Backend IndexedTradeRecord.createdAt rows) (mode : ReconcileMode) (runKeyOverride : Option String)
    (calls log : ReconcileLog) (stats : RunStats),
    Program.Execution (recording (Pages backend)) (reconcileOnce settings mode runKeyOverride).run [] calls
      (.done (.ok stats)) log → stats.status = .completed → VisitsOnce rows (fetchedTrades log)

/-- The row of a new run. -/
def newRun (runKey : String) (mode : ReconcileMode) : ReconcileRunRow :=
  ⟨1, runKey, mode, .running, 0, 0, noCounts, none⟩

/-- Nothing hinders a run, and the escrow cannot be read. -/
def unhindered (backend : Backend IndexedTradeRecord.createdAt rows) :
    (effect : ReconcileEffect) → ReconcileAnswer effect
  | .generateRunKey mode => runKeyOf mode ""
  | .insertRun runKey mode => .ok (some (newRun runKey mode))
  | .selectRun _ => .ok none
  | .fetchTrades limit offset => .ok (backend.page limit offset)
  | .getTrade _ => .error connectionLost
  | .notify _ _ => .ok true
  | .upsertRunTradeScope _ _ _ => .ok ()
  | .upsertDrift _ _ _ => .ok ()
  | .completeRun _ => .ok ()
  | .failRun _ _ => .ok ()

private theorem unhindered_replies (backend : Backend IndexedTradeRecord.createdAt rows) (effect : ReconcileEffect) :
    Replies backend True ⟨effect, unhindered backend effect⟩ := by
  cases effect with
  | generateRunKey mode => exact ⟨trivial, fun _ => trivial⟩
  | insertRun runKey mode => exact ⟨trivial, fun _ => ⟨_, rfl⟩⟩
  | selectRun runKey => exact ⟨trivial, fun _ => trivial⟩
  | fetchTrades limit offset => exact ⟨rfl, fun _ => ⟨_, rfl⟩⟩
  | getTrade tradeId => exact ⟨trivial, fun _ => ⟨_, rfl⟩⟩
  | notify runKey finding => exact ⟨trivial, fun _ => ⟨_, rfl⟩⟩
  | upsertRunTradeScope runId runKey tradeId => exact ⟨trivial, fun _ => rfl⟩
  | upsertDrift runId runKey finding => exact ⟨trivial, fun _ => rfl⟩
  | completeRun stats => exact ⟨trivial, fun _ => rfl⟩
  | failRun runKey message => exact ⟨trivial, fun _ => trivial⟩

/-- Every backend has a run that completes. -/
theorem reconcile_ends (positive : 1 ≤ settings.batchSize) (backend : Backend IndexedTradeRecord.createdAt rows)
    (mode : ReconcileMode) (runKeyOverride : Option String) :
    ∃ calls log stats, Program.Execution (recording (Pages backend)) (reconcileOnce settings mode runKeyOverride).run []
      calls (.done (.ok stats)) log ∧ stats.status = .completed ∧
        fetchedTrades log = backend.visited settings.batchSize settings.maxTradesPerRun := by
  obtain ⟨calls, result, log, execution⟩ := Program.recorded_finishes (unhindered backend) (unhindered_replies backend)
    (reconcileOnce settings mode runKeyOverride).run []
  have ended := Program.wp_sound (reads_once positive) execution
  cases result with
  | error error => exact absurd trivial ended
  | ok stats =>
    have completed := ended.2 trivial
    exact ⟨calls, log, stats, execution.widen fun _ answered => answered.1, completed, ended.1 completed⟩

/-- Runs fetch every trade once just where no time is on both sides of a page's end. -/
theorem reconcilesOnce_iff (distinct : rows.Nodup) (positive : 1 ≤ settings.batchSize)
    (unlimited : rows.length ≤ settings.maxTradesPerRun) :
    ReconcilesOnce settings rows ↔ Separated IndexedTradeRecord.createdAt settings.batchSize rows := by
  rw [← visitsOnce_iff distinct positive unlimited]
  constructor
  · intro once backend
    obtain ⟨calls, log, stats, execution, completed, fetched⟩ := reconcile_ends positive backend .once none
    rw [← fetched]
    exact once backend .once none calls log stats execution completed
  · intro visits backend mode runKeyOverride calls log stats execution completed
    have answered := execution.widen (fun _ paged => ⟨paged, False.elim⟩ : ∀ event, _ → Replies backend False event)
    have fetched := (Program.wp_sound (reads_once positive) answered).1 completed
    rw [fetched]
    exact visits backend

/-- Fee events are ingested, and trades are reconciled, each once by every traversal, just where no block and no
time is on both sides of a page's end. -/
theorem traversals_once_iff {events : List IndexerTradeEvent} {trades : List IndexedTradeRecord}
    (apart : events.Nodup) (ingestBatch : 1 ≤ config.ingestBatchSize)
    (allEvents : events.length ≤ config.ingestMaxEvents) (distinct : trades.Nodup) (batch : 1 ≤ settings.batchSize)
    (allTrades : trades.length ≤ settings.maxTradesPerRun) :
    (IngestsOnce config events ↔ Separated IndexerTradeEvent.blockNumber config.ingestBatchSize events) ∧
      (ReconcilesOnce settings trades ↔ Separated IndexedTradeRecord.createdAt settings.batchSize trades) :=
  ⟨ingestsOnce_iff apart ingestBatch allEvents, reconcilesOnce_iff distinct batch allTrades⟩

section Examples

/-- The logistics fee of a trade, released in a block. -/
def feeEvent (id : String) (blockNumber : Int) : IndexerTradeEvent where
  id := id
  tradeId := "1"
  eventName := "FundsReleasedStage1"
  txHash := some "0xaa"
  extrinsicHash := none
  blockNumber := blockNumber
  timestamp := 1700000000000
  releasedLogisticsAmount := some "100"
  paidPlatformFees := none

/-- A locked trade. -/
def lockedTrade (tradeId : String) (createdAt : Int) : IndexedTradeRecord where
  tradeId := tradeId
  buyer := "0x1111111111111111111111111111111111111111"
  supplier := "0x2222222222222222222222222222222222222222"
  status := "LOCKED"
  totalAmountLocked := 1000
  logisticsAmount := 100
  platformFeesAmount := 50
  supplierFirstTranche := 350
  supplierSecondTranche := 500
  ricardianHash := "0xab"
  createdAt := createdAt
  arrivalTimestamp := none

/-- Pages of one event. -/
def singly : IngestConfig :=
  ⟨1, 100⟩

/-- Pages of one trade. -/
def tradesSingly : ReconcileSettings :=
  ⟨1, 100, fun _ => none⟩

end Examples

/-- Events of two blocks and trades of two times are visited once. -/
theorem blocks_apart : IngestsOnce singly [feeEvent "a" 1, feeEvent "b" 2] ∧
    ReconcilesOnce tradesSingly [lockedTrade "1" 1000, lockedTrade "2" 2000] := by
  have both : (IngestsOnce singly [feeEvent "a" 1, feeEvent "b" 2] ↔ _) ∧
      (ReconcilesOnce tradesSingly [lockedTrade "1" 1000, lockedTrade "2" 2000] ↔ _) :=
    traversals_once_iff (by decide) (by decide) (by decide) (by decide) (by decide) (by decide)
  exact ⟨both.1.mpr (by decide +kernel), both.2.mpr (by decide +kernel)⟩

/-- Two events of one block, a page for each: one may come twice, and the other never. -/
theorem block_shared : ¬ ((∀ (config : IngestConfig) (events : List IndexerTradeEvent), events.Nodup →
    1 ≤ config.ingestBatchSize → events.length ≤ config.ingestMaxEvents → IngestsOnce config events) ∧
      ∀ (settings : ReconcileSettings) (trades : List IndexedTradeRecord), trades.Nodup → 1 ≤ settings.batchSize →
        trades.length ≤ settings.maxTradesPerRun → ReconcilesOnce settings trades) := by
  rintro ⟨ingests, _⟩
  have once := ingests singly [feeEvent "a" 1, feeEvent "b" 1] (by decide) (by decide) (by decide)
  rw [ingestsOnce_iff (by decide) (by decide) (by decide)] at once
  revert once
  decide +kernel

end Traversal

end Agroasys.Reconciliation
