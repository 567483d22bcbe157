import Agroasys.Foundation.Contracts
import Agroasys.Foundation.OffsetPaging
import Agroasys.Reconciliation.Service

/-! What runs without a finding say of the indexer and the escrow: they speak of the
trades on the pages they fetch, and of no others. -/

namespace Agroasys.Reconciliation

open Function Agroasys.Foundation

variable {settings : ReconcileSettings} {world before after : ReconcileWorld} {allowed : ReconcileChoice → Prop}

/-- The record agrees with its trade on chain. -/
def Clean (settings : ReconcileSettings) (chain : ChainState) (record : IndexedTradeRecord) : Prop :=
  ∃ trade, chain.getTrade record.tradeId = .ok trade ∧ Agrees settings.getAddress record trade

/-- Every statement is acknowledged. -/
def Certain (allowed : ReconcileChoice → Prop) : Prop :=
  ∀ choice, allowed choice → choice.fate = .acknowledged

/-- Neither the indexer nor the chain moved. -/
def Still (before after : ReconcileWorld) : Prop :=
  after.indexer = before.indexer ∧ after.chain = before.chain

section Pages

variable {indexer : IndexerState}

/-- The records on the pages of a run, from an offset on. -/
def visitedFrom (settings : ReconcileSettings) (indexer : IndexerState) : Nat → Nat → List IndexedTradeRecord
  | 0, _ => []
  | fuel + 1, offset =>
    let records := indexer.trades (min settings.batchSize (settings.maxTradesPerRun - offset)) offset
    records ++ visitedFrom settings indexer fuel (offset + records.length)

/-- The records on the pages of a run. -/
def visited (settings : ReconcileSettings) (indexer : IndexerState) : List IndexedTradeRecord :=
  visitedFrom settings indexer settings.maxTradesPerRun 0

/-- The indexer as a table that is read by pages. -/
def IndexerState.backend (indexer : IndexerState) : Backend IndexedTradeRecord.createdAt indexer.records :=
  ⟨indexer.order, indexer.complete, indexer.sorted⟩

theorem visited_backend (settings : ReconcileSettings) (indexer : IndexerState) (fuel offset : Nat) :
    visitedFrom settings indexer fuel offset =
      indexer.backend.visitedFrom settings.batchSize settings.maxTradesPerRun fuel offset := by
  induction fuel generalizing offset with
  | zero => rfl
  | succ fuel ih =>
    rw [visitedFrom, Backend.visitedFrom, ih]
    rfl

/-- Nothing is on the pages behind the last record. -/
theorem visited_end (past : indexer.records.length ≤ offset) : visitedFrom settings indexer fuel offset = [] := by
  rw [visited_backend]
  exact Backend.visited_empty fun limit => Backend.page_end past

/-- Nothing is on the pages after the last trade of a run. -/
theorem visited_idle (idle : settings.maxTradesPerRun ≤ offset) : visitedFrom settings indexer fuel offset = [] := by
  rw [visited_backend]
  exact Backend.visited_idle idle

/-- Nothing is on the pages after one that is not full. -/
theorem visited_short (short : (indexer.trades limit offset).length < limit) :
    visitedFrom settings indexer fuel (offset + (indexer.trades limit offset).length) = [] := by
  rw [visited_backend]
  exact Backend.visited_short short

/-- An indexer with one order is visited up to the cap. -/
theorem visited_ordered (ordered : ∀ limit offset, indexer.order limit offset = indexer.records)
    (batch : 0 < settings.batchSize) : visited settings indexer = indexer.records.take settings.maxTradesPerRun := by
  have visits (fuel offset : Nat) (enough : settings.maxTradesPerRun - offset ≤ fuel) :
      visitedFrom settings indexer fuel offset =
        (indexer.records.drop offset).take (settings.maxTradesPerRun - offset) := by
    induction fuel generalizing offset with
    | zero =>
      rw [Nat.le_zero.mp enough, List.take_zero]
      rfl
    | succ fuel ih =>
      by_cases idle : settings.maxTradesPerRun ≤ offset
      · rw [visited_idle idle, Nat.sub_eq_zero_of_le idle, List.take_zero]
      by_cases past : indexer.records.length ≤ offset
      · rw [visited_end past, List.drop_eq_nil_of_le past, List.take_nil]
      rw [visitedFrom]
      rw [IndexerState.trades, ordered, page]
      generalize limited : min settings.batchSize (settings.maxTradesPerRun - offset) = limit
      have length : ((indexer.records.drop offset).take limit).length = min limit (indexer.records.length - offset) := by
        rw [List.length_take, List.length_drop]
      rw [length, ih _ (by omega), ← List.drop_drop]
      have remaining : settings.maxTradesPerRun - (offset + min limit (indexer.records.length - offset)) =
          settings.maxTradesPerRun - offset - min limit (indexer.records.length - offset) := by omega
      have taken : (indexer.records.drop offset).take limit =
          (indexer.records.drop offset).take (min limit (indexer.records.length - offset)) := by
        rw [List.take_eq_take_min, List.length_drop]
      rw [remaining, taken, ← List.take_add]
      congr 1
      omega
  rw [visited, visits _ _ (Nat.sub_le _ _), List.drop_zero, Nat.sub_zero]

end Pages

section Answers

/-- No call of a run moves the indexer or the chain. -/
theorem served_still (served : reconcileServing.under allowed before event after) : Still before after := by
  obtain ⟨choice, _, executed⟩ := served
  obtain ⟨effect, answer⟩ := event
  cases effect with
  | generateRunKey mode =>
    cases executed
    exact ⟨rfl, rfl⟩
  | insertRun runKey mode =>
    rcases Fate.executed executed with ⟨_, done, _⟩ | ⟨rfl, _⟩
    · have written : (before.insertRun runKey mode).2 = after := congrArg Prod.snd (Except.ok.inj done)
      rw [← written]
      unfold ReconcileWorld.insertRun
      split <;> exact ⟨rfl, rfl⟩
    · exact ⟨rfl, rfl⟩
  | selectRun runKey => exact (Fate.executed_read executed).1 ▸ ⟨rfl, rfl⟩
  | fetchTrades limit offset => exact (Fate.executed_read executed).1 ▸ ⟨rfl, rfl⟩
  | getTrade tradeId =>
    rcases Fate.executed executed with ⟨_, done, _⟩ | ⟨rfl, _⟩
    · cases found : before.chain.getTrade tradeId with
      | error error =>
        rw [found] at done
        cases done
      | ok trade =>
        rw [found] at done
        cases done
        exact ⟨rfl, rfl⟩
    · exact ⟨rfl, rfl⟩
  | notify runKey finding => exact (Fate.executed_read executed).1 ▸ ⟨rfl, rfl⟩
  | upsertRunTradeScope runId runKey tradeId =>
    rcases Fate.executed executed with ⟨_, done, _⟩ | ⟨rfl, _⟩
    · cases done
      unfold ReconcileWorld.upsertRunTradeScope
      split <;> exact ⟨rfl, rfl⟩
    · exact ⟨rfl, rfl⟩
  | upsertDrift runId runKey finding =>
    rcases Fate.executed executed with ⟨_, done, _⟩ | ⟨rfl, _⟩
    · cases done
      unfold ReconcileWorld.upsertDrift
      split <;> exact ⟨rfl, rfl⟩
    · exact ⟨rfl, rfl⟩
  | completeRun stats =>
    rcases Fate.executed executed with ⟨_, done, _⟩ | ⟨rfl, _⟩
    · cases done
      exact ⟨rfl, rfl⟩
    · exact ⟨rfl, rfl⟩
  | failRun runKey message =>
    rcases Fate.executed executed with ⟨_, done, _⟩ | ⟨rfl, _⟩
    · cases done
      exact ⟨rfl, rfl⟩
    · exact ⟨rfl, rfl⟩

theorem Still.trans (first : Still before middle) (second : Still middle after) : Still before after :=
  ⟨second.1.trans first.1, second.2.trans first.2⟩

/-- A statement that is acknowledged gives its answer. -/
theorem answered_ok {Value : Type} {value : Value} {answer : Except String Value} (certain : Certain allowed)
    (chosen : allowed choice)
    (executed : choice.fate.execute connectionLost (.ok (value, next)) world = (answer, after)) :
    answer = .ok value := by
  rw [certain choice chosen] at executed
  cases executed
  rfl

end Answers

section Specs

/-- The contract of a task that runs beside nothing else. -/
abbrev Runs {α : Type} (allowed : ReconcileChoice → Prop) (task : ReconcileTask α) (returns : α → ReconcileWorld → Prop)
    (throws : Prop) (world : ReconcileWorld) : Prop :=
  Task.wp (reconcileServing.under allowed) task returns (fun _ _ => throws) world

private theorem runs_scope : Runs allowed (upsertRunTradeScope runId runKey tradeId) (fun _ after => Still world after)
    (¬ Certain allowed) world := by
  apply Task.wp_bind
  apply Task.wp_perform
  intro answer after served
  have still := served_still served
  obtain ⟨choice, chosen, executed⟩ := served
  apply Task.wp_ofExcept
  · intro _ _
    exact still
  · intro error failed certain
    cases failed.symm.trans (answered_ok certain chosen executed)

private theorem runs_drift : Runs allowed (upsertDrift runId runKey finding) (fun _ after => Still world after)
    (¬ Certain allowed) world := by
  apply Task.wp_bind
  apply Task.wp_perform
  intro answer after served
  have still := served_still served
  obtain ⟨choice, chosen, executed⟩ := served
  apply Task.wp_ofExcept
  · intro _ _
    exact still
  · intro error failed certain
    cases failed.symm.trans (answered_ok certain chosen executed)

private theorem runs_notify : Runs allowed (notifyCriticalDrift runKey finding) (fun _ after => Still world after)
    (¬ Certain allowed) world := by
  unfold notifyCriticalDrift
  split
  · exact ⟨rfl, rfl⟩
  · apply Task.wp_bind
    apply Task.wp_perform
    intro answer after served
    have still := served_still served
    obtain ⟨choice, chosen, executed⟩ := served
    apply Task.wp_bind
    apply Task.wp_ofExcept
    · intro _ _
      exact still
    · intro error failed certain
      cases failed.symm.trans (answered_ok certain chosen executed)

private theorem runs_complete : Runs allowed (completeRun stats) (fun _ _ => True) (¬ Certain allowed) world := by
  apply Task.wp_bind
  apply Task.wp_perform
  intro answer after served
  obtain ⟨choice, chosen, executed⟩ := served
  apply Task.wp_ofExcept
  · intro _ _
    trivial
  · intro error failed certain
    cases failed.symm.trans (answered_ok certain chosen executed)

private theorem runs_fetch : Runs allowed (fetchTrades limit offset)
    (fun records after => Still world after ∧ records = world.indexer.trades limit offset)
    (¬ Certain allowed) world := by
  apply Task.wp_bind
  apply Task.wp_perform
  intro answer after served
  have still := served_still served
  obtain ⟨choice, chosen, executed⟩ := served
  apply Task.wp_ofExcept
  · intro records found
    refine ⟨still, ?_⟩
    rcases (Fate.executed_read executed).2 with same | lost
    · exact Except.ok.inj (found.symm.trans same)
    · cases found.symm.trans lost
  · intro error failed certain
    cases failed.symm.trans (answered_ok certain chosen executed)

/-- A trade is read, or some error is; where all is acknowledged, the error is the chain's. -/
theorem runs_read : Runs allowed (readTrade tradeId)
    (fun result after => Still world after ∧ match result with
      | .ok trade => world.chain.getTrade tradeId = .ok trade
      | .error error => error ≠ "" ∧ (Certain allowed → ∀ trade, world.chain.getTrade tradeId ≠ .ok trade))
    False world := by
  apply Task.wp_tryCatch
  apply Task.wp_bind
  apply Task.wp_bind
  apply Task.wp_perform
  intro answer after served
  have still := served_still served
  obtain ⟨choice, chosen, executed⟩ := served
  apply Task.wp_ofExcept
  · intro trade found
    refine ⟨still, ?_⟩
    subst found
    have done := Fate.executed_ok executed
    cases read : world.chain.getTrade tradeId with
    | error error =>
      rw [read] at done
      cases done
    | ok stored =>
      rw [read] at done
      cases done
      rfl
  · intro error failed
    refine ⟨still, ?_, ?_⟩
    · split
      · simp
      · assumption
    · intro certain trade read
      dsimp only [reconcileServing] at executed
      rw [read] at executed
      cases failed.symm.trans (answered_ok certain chosen executed)

private theorem runs_findings : Runs allowed (recordFindings runId findings stats)
    (fun next after => Still world after ∧ next.runKey = stats.runKey ∧ next.status = stats.status ∧
      next.totalTrades = stats.totalTrades ∧ next.driftCount = stats.driftCount + findings.length)
    (¬ Certain allowed) world := by
  induction findings generalizing stats world with
  | nil => exact ⟨⟨rfl, rfl⟩, rfl, rfl, rfl, rfl⟩
  | cons finding findings ih =>
    apply Task.wp_bind
    apply Task.wp_mono runs_drift
    · intro _ drifted still
      apply Task.wp_bind
      apply Task.wp_mono runs_notify
      · intro _ notified further
        apply Task.wp_mono ih
        · intro next after ended
          obtain ⟨rest, key, status, total, count⟩ := ended
          refine ⟨(still.trans further).trans rest, key, status, total, ?_⟩
          rw [count, List.length_cons]
          dsimp only
          omega
        · exact fun _ _ failed => failed
      · exact fun _ _ failed => failed
    · exact fun _ _ failed => failed

/-- What a part of a run has counted: at least what it found, and nothing where the
records are clean. -/
structure Counted (settings : ReconcileSettings) (allowed : ReconcileChoice → Prop) (world : ReconcileWorld)
    (records : List IndexedTradeRecord) (stats next : RunStats) : Prop where
  key : next.runKey = stats.runKey
  status : next.status = stats.status
  total : next.totalTrades = stats.totalTrades + records.length
  counts : stats.driftCount ≤ next.driftCount
  clean : next.driftCount = stats.driftCount → ∀ record ∈ records, Clean settings world.chain record
  quiet : Certain allowed → (∀ record ∈ records, Clean settings world.chain record) →
    next.driftCount = stats.driftCount

/-- Where all is acknowledged, only a record that is not clean stops a run. -/
def Stops (settings : ReconcileSettings) (allowed : ReconcileChoice → Prop) (world : ReconcileWorld)
    (records : List IndexedTradeRecord) : Prop :=
  Certain allowed → ¬ ∀ record ∈ records, Clean settings world.chain record

/-- The comparison of a record with what was read of its trade. -/
def compared (settings : ReconcileSettings) (record : IndexedTradeRecord) :
    Except String Trade → Except String (List DriftFinding)
  | .ok onchainTrade => classifyDrifts settings.getAddress record (some onchainTrade) none
  | .error error => classifyDrifts settings.getAddress record none (some error)

private theorem compared_clean (settings : ReconcileSettings) {result : Except String Trade} (read : match result with
      | .ok trade => world.chain.getTrade record.tradeId = .ok trade
      | .error error => error ≠ "" ∧ (Certain allowed → ∀ trade, world.chain.getTrade record.tradeId ≠ .ok trade)) :
    (compared settings record result = .ok [] → Clean settings world.chain record) ∧
      (Certain allowed → Clean settings world.chain record → compared settings record result = .ok []) := by
  cases result with
  | ok trade =>
    constructor
    · intro empty
      exact ⟨trade, read, (classifyDrifts_nil trade).mp empty⟩
    · intro _ clean
      obtain ⟨stored, again, agrees⟩ := clean
      cases Except.ok.inj (read.symm.trans again)
      exact (classifyDrifts_nil trade).mpr agrees
  | error error =>
    constructor
    · intro empty
      rw [compared, classifyDrifts_error read.1] at empty
      cases empty
    · intro certain clean
      obtain ⟨stored, again, _⟩ := clean
      exact absurd again (read.2 certain stored)

private theorem runs_trade : Runs allowed (reconcileTrade settings runId record stats)
    (fun next after => Still world after ∧ Counted settings allowed world [record] stats next)
    (Stops settings allowed world [record]) world := by
  have uncertain (failed : ¬ Certain allowed) : Stops settings allowed world [record] :=
    fun certain _ => failed certain
  apply Task.wp_bind
  apply Task.wp_mono runs_scope
  · intro _ listed still
    apply Task.wp_bind
    apply Task.wp_mono runs_read
    · intro result read ended
      obtain ⟨further, found⟩ := ended
      rw [still.2] at found
      obtain ⟨whenEmpty, whenClean⟩ := compared_clean settings found
      apply Task.wp_bind
      change Runs allowed (Task.ofExcept (compared settings record result)) _ _ _
      apply Task.wp_ofExcept
      · intro findings given
        apply Task.wp_mono runs_findings
        · intro next after ended
          obtain ⟨rest, key, status, total, count⟩ := ended
          refine ⟨(still.trans further).trans rest, key, status, total, ?_, ?_, ?_⟩
          · rw [count]
            exact Nat.le_add_right _ _
          · intro same other member
            rw [List.mem_singleton.mp member]
            apply whenEmpty
            rw [given, List.eq_nil_of_length_eq_zero (l := findings) (by rw [count] at same; exact Nat.add_left_cancel same)]
          · intro certain clean
            have empty := given.symm.trans (whenClean certain (clean record List.mem_cons_self))
            cases empty
            exact count
        · exact fun _ _ failed => uncertain failed
      · intro error given certain clean
        cases given.symm.trans (whenClean certain (clean record List.mem_cons_self))
    · exact fun _ _ failed => failed.elim
  · exact fun _ _ failed => uncertain failed

private theorem Counted.refl : Counted settings allowed world [] stats stats :=
  ⟨rfl, rfl, rfl, Nat.le_refl _, fun _ _ absent => (nomatch absent), fun _ _ => rfl⟩

/-- Two parts of a run, one after the other. -/
theorem Counted.append {stats middle next : RunStats} (first : Counted settings allowed world records stats middle)
    (second : Counted settings allowed world others middle next) :
    Counted settings allowed world (records ++ others) stats next := by
  refine ⟨second.key.trans first.key, second.status.trans first.status, ?_, first.counts.trans second.counts, ?_, ?_⟩
  · rw [second.total, first.total, List.length_append, Nat.add_assoc]
  · intro same record member
    have before : middle.driftCount = stats.driftCount :=
      Nat.le_antisymm (same ▸ second.counts) first.counts
    rcases List.mem_append.mp member with early | late
    · exact first.clean before record early
    · exact second.clean (same.trans before.symm) record late
  · intro certain clean
    rw [second.quiet certain fun record late => clean record (List.mem_append_right _ late),
      first.quiet certain fun record early => clean record (List.mem_append_left _ early)]

private theorem Counted.still {stats next : RunStats} (counted : Counted settings allowed after records stats next)
    (still : Still world after) : Counted settings allowed world records stats next :=
  ⟨counted.key, counted.status, counted.total, counted.counts, still.2 ▸ counted.clean, still.2 ▸ counted.quiet⟩

/-- What stops a part of a run stops the run. -/
theorem Stops.part (stops : Stops settings allowed after records) (still : Still world after)
    (part : ∀ record ∈ records, record ∈ others) : Stops settings allowed world others := by
  intro certain clean
  apply stops certain
  intro record member
  rw [still.2]
  exact clean record (part record member)

private theorem runs_trades : Runs allowed (reconcileTrades settings runId records stats)
    (fun next after => Still world after ∧ Counted settings allowed world records stats next)
    (Stops settings allowed world records) world := by
  induction records generalizing stats world with
  | nil => exact ⟨⟨rfl, rfl⟩, .refl⟩
  | cons record records ih =>
    apply Task.wp_bind
    apply Task.wp_mono runs_trade
    · intro middle between ended
      obtain ⟨still, counted⟩ := ended
      apply Task.wp_mono ih
      · intro next after ended
        obtain ⟨further, rest⟩ := ended
        exact ⟨still.trans further, counted.append (rest.still still)⟩
      · intro _ _ stops
        exact stops.part still fun _ member => List.mem_cons_of_mem _ member
    · intro _ _ stops
      exact stops.part ⟨rfl, rfl⟩ fun other member => List.mem_singleton.mp member ▸ List.mem_cons_self

private theorem runs_pages (stats : RunStats) (offset : Nat) (batch : 0 < settings.batchSize)
    (place : stats.totalTrades = offset) :
    Runs allowed (reconcilePages settings runId fuel offset stats)
      (fun next after => Still world after ∧
        Counted settings allowed world (visitedFrom settings world.indexer fuel offset) stats next)
      (Stops settings allowed world (visitedFrom settings world.indexer fuel offset)) world := by
  induction fuel generalizing offset stats world with
  | zero => exact ⟨⟨rfl, rfl⟩, .refl⟩
  | succ fuel ih =>
    subst place
    unfold reconcilePages
    by_cases room : stats.totalTrades < settings.maxTradesPerRun
    · rw [if_pos room]
      apply Task.wp_bind
      apply Task.wp_mono runs_fetch
      · intro records fetched ended
        obtain ⟨still, same⟩ := ended
        subst same
        generalize limited : min settings.batchSize (settings.maxTradesPerRun - stats.totalTrades) = limit
        have pages : visitedFrom settings world.indexer (fuel + 1) stats.totalTrades =
            world.indexer.trades limit stats.totalTrades ++ visitedFrom settings world.indexer fuel
              (stats.totalTrades + (world.indexer.trades limit stats.totalTrades).length) := by
          rw [visitedFrom, limited]
        have positive : 0 < limit := by omega
        rw [pages]
        split
        · rename_i empty
          rw [visited_short (empty ▸ positive), List.eq_nil_of_length_eq_zero empty]
          exact ⟨still, .refl⟩
        · apply Task.wp_bind
          apply Task.wp_mono runs_trades
          · intro middle between ended
            obtain ⟨further, counted⟩ := ended
            have moved := still.trans further
            have first := counted.still still
            split
            · rename_i short
              rw [visited_short short, List.append_nil]
              exact ⟨moved, first⟩
            · apply Task.wp_mono (ih _ _ first.total)
              · intro next after ended
                obtain ⟨rest, later⟩ := ended
                rw [moved.1] at later
                exact ⟨moved.trans rest, first.append (later.still moved)⟩
              · intro _ _ stops
                rw [moved.1] at stops
                exact stops.part moved fun _ member => List.mem_append_right _ member
          · intro _ _ stops
            exact stops.part still fun _ member => List.mem_append_left _ member
      · exact fun _ _ failed certain _ => failed certain
    · rw [if_neg room, visited_idle (Nat.le_of_not_lt room)]
      exact ⟨⟨rfl, rfl⟩, .refl⟩

/-- A run without a finding has met clean records only, and where all is acknowledged a
run over clean records is without one. -/
def Swept (settings : ReconcileSettings) (allowed : ReconcileChoice → Prop) (world : ReconcileWorld)
    (stats : RunStats) : Prop :=
  (stats.driftCount = 0 → ∀ record ∈ visited settings world.indexer, Clean settings world.chain record) ∧
    (Certain allowed → (∀ record ∈ visited settings world.indexer, Clean settings world.chain record) →
      stats.driftCount = 0)

private theorem runs_fail {returns : RunStats → ReconcileWorld → Prop} {stops : Prop} (stopped : stops) :
    Runs allowed (do
      failRun runKey message
      throw error : ReconcileTask RunStats) returns stops world := by
  apply Task.wp_bind
  apply Task.wp_bind
  apply Task.wp_perform
  intro answer after _
  apply Task.wp_ofExcept
  · intro _ _
    exact stopped
  · intro _ _
    exact stopped

private theorem runs_execute (batch : 0 < settings.batchSize) :
    Runs allowed (executeRun settings runKey mode runId)
      (fun stats _ => stats.status = .completed ∧ Swept settings allowed world stats)
      (Stops settings allowed world (visited settings world.indexer)) world := by
  apply Task.wp_tryCatch
  apply Task.wp_bind
  apply Task.wp_mono (runs_pages ⟨runKey, mode, .completed, 0, 0, noCounts, none⟩ 0 batch rfl)
  · intro stats after ended
    obtain ⟨still, counted⟩ := ended
    apply Task.wp_bind
    apply Task.wp_mono runs_complete
    · intro _ _ _
      exact ⟨counted.status, counted.clean, counted.quiet⟩
    · intro error later failed
      exact runs_fail fun certain _ => failed certain
  · intro error later stops
    exact runs_fail stops

/-- Fresh run keys have no row yet. -/
def Fresh (world : ReconcileWorld) : Prop :=
  ∀ runKey, world.runs runKey = none

private theorem runs_create : Runs allowed (createRun runKey mode)
    (fun created after => Still world after ∧ (Fresh world → ∃ row, created = (some row, true)))
    (¬ Certain allowed) world := by
  apply Task.wp_bind
  apply Task.wp_perform
  intro answer after served
  have still := served_still served
  obtain ⟨choice, chosen, executed⟩ := served
  apply Task.wp_bind
  apply Task.wp_ofExcept
  · intro inserted given
    have created : Fresh world → ∃ row, inserted = some row := by
      intro fresh
      subst given
      have done := congrArg Prod.fst (Except.ok.inj (Fate.executed_ok executed))
      rw [ReconcileWorld.insertRun, fresh runKey] at done
      exact ⟨_, done.symm⟩
    cases inserted with
    | some row => exact ⟨still, fun _ => ⟨row, rfl⟩⟩
    | none =>
      apply Task.wp_bind
      apply Task.wp_perform
      intro answer later served
      have further := served_still served
      obtain ⟨choice, chosen, executed⟩ := served
      apply Task.wp_bind
      apply Task.wp_ofExcept
      · intro row _
        refine ⟨still.trans further, ?_⟩
        intro fresh
        obtain ⟨row, absurdly⟩ := created fresh
        cases absurdly
      · intro error failed certain
        cases failed.symm.trans (answered_ok certain chosen executed)
  · intro error failed certain
    cases failed.symm.trans (answered_ok certain chosen executed)

theorem Swept.still {stats : RunStats} (swept : Swept settings allowed after stats) (still : Still world after) :
    Swept settings allowed world stats := by
  unfold Swept at swept
  rw [still.1, still.2] at swept
  exact swept

theorem runs_resolve : Runs allowed (resolveRunKey mode runKeyOverride) (fun _ after => after = world) False world := by
  unfold resolveRunKey
  split
  · rfl
  · apply Task.wp_perform
    intro answer after served
    obtain ⟨choice, _, executed⟩ := served
    cases executed
    rfl

private theorem runs_once (batch : 0 < settings.batchSize) : Runs allowed (reconcileOnce settings mode runKeyOverride)
    (fun stats _ => (stats.status = .completed → Swept settings allowed world stats) ∧
      (Fresh world → stats.status = .completed))
    (Stops settings allowed world (visited settings world.indexer) ∨ ¬ Fresh world) world := by
  apply Task.wp_bind
  apply Task.wp_mono runs_resolve
  · intro runKey start same
    subst same
    apply Task.wp_bind
    apply Task.wp_mono runs_create
    · intro created between ended
      obtain ⟨still, fresh⟩ := ended
      unfold continueRun
      split
      · refine .inr ?_
        intro free
        obtain ⟨row, absurdly⟩ := fresh free
        cases absurdly
      · rename_i row made
        have skips (reason : String) (old : (!made) = true) :
            ((skipped runKey mode row reason).status = .completed →
              Swept settings allowed start (skipped runKey mode row reason)) ∧
              (Fresh start → (skipped runKey mode row reason).status = .completed) := by
          constructor
          · intro completed
            cases completed
          · intro free
            obtain ⟨_, absurdly⟩ := fresh free
            cases absurdly
            cases old
        split
        · rename_i done
          exact skips _ (Bool.and_eq_true_iff.mp done).1
        · split
          · rename_i busy
            exact skips _ (Bool.and_eq_true_iff.mp busy).1
          · apply Task.wp_mono (runs_execute batch)
            · intro stats after ended
              exact ⟨fun _ => ended.2.still still, fun _ => ended.1⟩
            · intro _ _ stops
              rw [still.1] at stops
              exact .inl (stops.part still fun _ member => member)
    · exact fun _ _ failed => .inl fun certain _ => failed certain
  · exact fun _ _ failed => failed.elim

end Specs

/-- Consecutive runs under fresh keys, each completed without a finding. -/
inductive Sweeps (settings : ReconcileSettings) : Nat → ReconcileWorld → ReconcileWorld → Prop where
  | none (start : ReconcileWorld) : Sweeps settings 0 start start
  | next (ran : Program.Execution reconcileServing.serves (reconcileOnce settings mode runKeyOverride).run start
        events (.done (.ok stats)) middle)
      (fresh : start.runs stats.runKey = .none) (completed : stats.status = .completed) (quiet : stats.driftCount = 0)
      (rest : Sweeps settings count middle last) : Sweeps settings (count + 1) start last

/-- Every trade of the escrow has a record that agrees with it. -/
def Reconciled (settings : ReconcileSettings) (indexer : IndexerState) (chain : ChainState) : Prop :=
  ∀ id < chain.tradeCounter, ∃ record ∈ indexer.records,
    record.tradeId = toString id ∧ Clean settings chain record

/-- A record that runs fetch disagrees, or every trade of the escrow is on a page they
fetch or agrees all the same. -/
def Covering (settings : ReconcileSettings) (indexer : IndexerState) (chain : ChainState) : Prop :=
  (∃ record ∈ visited settings indexer, ¬ Clean settings chain record) ∨
    ∀ id < chain.tradeCounter, ∃ record ∈ indexer.records, record.tradeId = toString id ∧
      (record ∈ visited settings indexer ∨ Clean settings chain record)

private theorem sweeps_clean (batch : 0 < settings.batchSize) (positive : 0 < count)
    (sweeps : Sweeps settings count before after) :
    ∀ record ∈ visited settings before.indexer, Clean settings before.chain record := by
  cases sweeps with
  | none => cases positive
  | next ran _ completed quiet _ =>
    have certified := ran.mono fun _ _ _ served => Serving.serves_under served
    exact ((Program.wp_sound (runs_once batch) certified).1 completed).1 quiet

/-- Tables without a row. -/
def emptyTables (indexer : IndexerState) (chain : ChainState) : ReconcileWorld :=
  ⟨indexer, chain, fun _ => none, [], [], 1⟩

/-- A run over clean records, nothing failing, completes without a finding. -/
theorem sweep_exists (batch : 0 < settings.batchSize) {indexer : IndexerState} {chain : ChainState}
    (clean : ∀ record ∈ visited settings indexer, Clean settings chain record) :
    ∃ after, Sweeps settings 1 (emptyTables indexer chain) after := by
  have chosen : (⟨.acknowledged, "", true⟩ : ReconcileChoice).fate = .acknowledged := rfl
  obtain ⟨events, result, after, execution⟩ := Program.finishes reconcileServing
    (fun choice => choice.fate = .acknowledged) chosen
    (reconcileOnce settings .once (some "run")).run (emptyTables indexer chain)
  have contract := Program.wp_sound (runs_once batch) execution
  have certain : Certain fun choice : ReconcileChoice => choice.fate = .acknowledged := fun _ chosen => chosen
  have fresh : Fresh (emptyTables indexer chain) := fun _ => rfl
  cases result with
  | ok stats =>
    have completed := contract.2 fresh
    exact ⟨after, .next (execution.mono fun _ _ _ under => Serving.under_serves under) (fresh _) completed
      ((contract.1 completed).2 certain clean) (.none after)⟩
  | error error =>
    rcases contract with stops | stale
    · exact absurd clean (stops certain)
    · exact absurd fresh stale

/-- Consecutive runs without a finding mean that everything is reconciled, exactly where
the pages of a run cover the escrow's trades or hold a record that disagrees. -/
theorem reconciliation_complete_iff (batch : 0 < settings.batchSize) (indexer : IndexerState) (chain : ChainState) :
    (∀ (count : Nat) (before after : ReconcileWorld), 0 < count → before.indexer = indexer → before.chain = chain →
      Sweeps settings count before after → Reconciled settings indexer chain) ↔
        Covering settings indexer chain := by
  constructor
  · intro complete
    by_cases clean : ∀ record ∈ visited settings indexer, Clean settings chain record
    · obtain ⟨after, sweeps⟩ := sweep_exists batch clean
      refine .inr ?_
      intro id below
      obtain ⟨record, member, named, agrees⟩ := complete 1 _ after Nat.one_pos rfl rfl sweeps id below
      exact ⟨record, member, named, .inr agrees⟩
    · push Not at clean
      exact .inl clean
  · intro covering count before after positive sameIndexer sameChain sweeps id below
    have clean := sweeps_clean batch positive sweeps
    rw [sameIndexer, sameChain] at clean
    rcases covering with ⟨record, member, dirty⟩ | covered
    · exact absurd (clean record member) dirty
    · obtain ⟨record, member, named, found | agrees⟩ := covered id below
      · exact ⟨record, member, named, clean record found⟩
      · exact ⟨record, member, named, agrees⟩

section Examples

/-- Checksums change digits only where they are letters. -/
def plainAddress (value : String) : Option String :=
  if value.toList.take 2 = ['0', 'x'] ∧ value.toList.length = 42 ∧ (value.toList.drop 2).all Char.isDigit then
    some value
  else none

def onePage : ReconcileSettings :=
  ⟨1, 1, plainAddress⟩

def firstTrade : Trade where
  tradeId := "0"
  buyer := "0x1111111111111111111111111111111111111111"
  supplier := "0x2222222222222222222222222222222222222222"
  status := 0
  totalAmountLocked := 1000
  logisticsAmount := 100
  platformFeesAmount := 50
  supplierFirstTranche := 350
  supplierSecondTranche := 500
  ricardianHash := "0xab"
  createdAt := some 0
  arrivalTimestamp := none

def firstRecord : IndexedTradeRecord where
  tradeId := "0"
  buyer := "0x1111111111111111111111111111111111111111"
  supplier := "0x2222222222222222222222222222222222222222"
  status := "LOCKED"
  totalAmountLocked := 1000
  logisticsAmount := 100
  platformFeesAmount := 50
  supplierFirstTranche := 350
  supplierSecondTranche := 500
  ricardianHash := "0xAB"
  createdAt := 0
  arrivalTimestamp := none

/-- An indexer that lists its records in this order. -/
def listing (records : List IndexedTradeRecord)
    (sorted : records.Pairwise fun record later => record.createdAt ≤ later.createdAt) : IndexerState :=
  ⟨records, fun _ _ => records, fun _ _ => .refl _, fun _ _ => sorted⟩

def oneRecord : IndexerState :=
  listing [firstRecord] (by simp)

/-- An escrow with one trade. -/
def oneTrade : ChainState :=
  ⟨1, fun tradeId => if tradeId = "0" then .ok firstTrade else .error "Failed to get trade"⟩

private theorem firstRecord_clean : Clean onePage oneTrade firstRecord :=
  ⟨firstTrade, rfl, (classifyDrifts_nil firstTrade).mp (by decide +kernel)⟩

private theorem oneRecord_visited : visited onePage oneRecord = [firstRecord] :=
  visited_ordered (fun _ _ => rfl) (by decide)

end Examples

/-- The only trade is indexed: runs find nothing, and nothing is missing. -/
theorem indexed_trade_reconciled : (∃ after, Sweeps onePage 1 (emptyTables oneRecord oneTrade) after) ∧
    ∀ (count : Nat) (before after : ReconcileWorld), 0 < count → before.indexer = oneRecord →
      before.chain = oneTrade → Sweeps onePage count before after → Reconciled onePage oneRecord oneTrade := by
  constructor
  · apply sweep_exists (by decide)
    rw [oneRecord_visited]
    intro record member
    rw [List.mem_singleton.mp member]
    exact firstRecord_clean
  · refine (reconciliation_complete_iff (by decide) _ _).mpr (.inr ?_)
    intro id below
    have single : id = 0 := Nat.lt_one_iff.mp below
    subst single
    exact ⟨firstRecord, List.mem_cons_self, rfl, .inl (by simp [oneRecord_visited])⟩

/-- The indexer has missed the only trade of the escrow, and a run finds nothing. -/
theorem missing_trade_unnoticed : ¬ ∀ (settings : ReconcileSettings) (indexer : IndexerState) (chain : ChainState),
    0 < settings.batchSize → 0 < settings.maxTradesPerRun →
      ∀ (count : Nat) (before after : ReconcileWorld), 0 < count → before.indexer = indexer → before.chain = chain →
        Sweeps settings count before after → Reconciled settings indexer chain := by
  intro complete
  have clean : ∀ record ∈ visited onePage (listing [] .nil), Clean onePage oneTrade record := by
    intro record member
    cases member
  obtain ⟨after, sweeps⟩ := sweep_exists (by decide) clean
  obtain ⟨record, member, _⟩ := complete onePage (listing [] .nil) oneTrade (by decide) (by decide) 1 _ after
    Nat.one_pos rfl rfl sweeps 0 Nat.one_pos
  cases member

end Agroasys.Reconciliation
