import Agroasys.Foundation.Contracts
import Agroasys.Foundation.OffsetPaging
import Agroasys.Treasury.Service

namespace Agroasys.Treasury

open Agroasys.Foundation

section Traversal

/-- The calls of a run, newest first. -/
abbrev TreasuryLog :=
  List (Event TreasuryEffect TreasuryAnswer)

/-- The events that an answer brings. -/
def queried : Event TreasuryEffect TreasuryAnswer → List IndexerTradeEvent
  | ⟨.tradeEvents _ _, .ok events⟩ => events
  | _ => []

/-- The events on the pages of a record, newest call first. -/
def fetchedEvents (log : TreasuryLog) : List IndexerTradeEvent :=
  log.reverse.flatMap queried

variable {rows : List IndexerTradeEvent}

/-- The indexer answers with pages of the events, and the run is the first one. -/
def Genuine (backend : Backend IndexerTradeEvent.blockNumber rows) : Event TreasuryEffect TreasuryAnswer → Prop
  | ⟨.tradeEvents limit offset, .ok events⟩ => events = backend.page limit offset
  | ⟨.selectOffset, .ok (some nextOffset)⟩ => nextOffset = 0
  | _ => True

/-- The calls of a run that do not fail. -/
def Succeeds : Event TreasuryEffect TreasuryAnswer → Prop
  | ⟨.tradeEvents _ _, answer⟩ => ∃ events, answer = .ok events
  | ⟨.selectOffset, answer⟩ => ∃ nextOffset, answer = .ok nextOffset
  | ⟨.insertOffset, answer⟩ => answer = .ok ()
  | ⟨.setOffset _, answer⟩ => answer = .ok ()
  | ⟨.upsertEntry _, answer⟩ => ∃ entry, answer = .ok entry
  | _ => True

/-- What is answered to a run, and `certain` where nothing fails. -/
def Answers (backend : Backend IndexerTradeEvent.blockNumber rows) (certain : Prop)
    (event : Event TreasuryEffect TreasuryAnswer) : Prop :=
  Genuine backend event ∧ (certain → Succeeds event)

variable {backend : Backend IndexerTradeEvent.blockNumber rows} {certain : Prop}
  {log : TreasuryLog}

/-- The contract of a part of a run. -/
abbrev Fetches (backend : Backend IndexerTradeEvent.blockNumber rows) (certain : Prop) (task : TreasuryTask α)
    (returns : α → TreasuryLog → Prop) (log : TreasuryLog) :
    Prop :=
  Task.wp (recording (Answers backend certain)) task returns (fun _ _ => ¬ certain) log

private theorem fetched_cons (event : Event TreasuryEffect TreasuryAnswer) (log : TreasuryLog) :
    fetchedEvents (event :: log) = fetchedEvents log ++ queried event := by
  rw [fetchedEvents, List.reverse_cons, List.flatMap_append, List.flatMap_singleton]
  rfl

/-- A call that asks for no page. -/
theorem fetched_other (other : queried event = []) : fetchedEvents (event :: log) = fetchedEvents log := by
  rw [fetched_cons, other, List.append_nil]

private theorem fetches_component (event : IndexerTradeEvent) (component : TreasuryComponent) (inserted : Nat) :
    Fetches backend certain (ingestComponent event component inserted)
      (fun _ after => fetchedEvents after = fetchedEvents log) log := by
  unfold ingestComponent
  split
  · exact rfl
  · split
    · exact rfl
    · apply Task.wp_bind
      apply Task.wp_bind
      apply Task.wp_perform
      rintro answer after ⟨⟨_, succeeds⟩, rfl⟩
      apply Task.wp_ofExcept
      · intro entry _
        exact fetched_other rfl
      · intro error failed sure
        obtain ⟨entry, stored⟩ := succeeds sure
        cases failed.symm.trans stored

private theorem fetches_event (event : IndexerTradeEvent) (inserted : Nat) :
    Fetches backend certain (ingestEvent event inserted) (fun _ after => fetchedEvents after = fetchedEvents log) log := by
  unfold ingestEvent
  apply Task.wp_bind
  apply Task.wp_mono (fetches_component event .logistics inserted)
  · intro logistics between same
    cases logistics with
    | none => exact same
    | some inserted =>
      apply Task.wp_bind
      apply Task.wp_mono (fetches_component event .platformFee inserted)
      · intro fee after further
        cases fee with
        | none => exact further.trans same
        | some inserted => exact further.trans same
      · exact fun _ _ failed => failed
  · exact fun _ _ failed => failed

private theorem fetches_events (events : List IndexerTradeEvent) (inserted : Nat) :
    Fetches backend certain (ingestEvents events inserted) (fun _ after => fetchedEvents after = fetchedEvents log) log := by
  induction events generalizing inserted log with
  | nil => exact rfl
  | cons event events ih =>
    rw [ingestEvents]
    apply Task.wp_bind
    apply Task.wp_mono (fetches_event event inserted)
    · intro next between same
      apply Task.wp_mono (ih next)
      · exact fun _ _ further => further.trans same
      · exact fun _ _ failed => failed
    · exact fun _ _ failed => failed

private theorem fetches_page (limit offset : Nat) :
    Fetches backend certain (fetchTreasuryEvents limit offset)
      (fun events after => events.length = (backend.page limit offset).length ∧
        fetchedEvents after = fetchedEvents log ++ backend.page limit offset) log := by
  unfold fetchTreasuryEvents
  apply Task.wp_bind
  apply Task.wp_perform
  rintro answer after ⟨⟨genuine, succeeds⟩, rfl⟩
  apply Task.wp_bind
  apply Task.wp_ofExcept
  · rintro events rfl
    have same : events = backend.page limit offset := genuine
    refine ⟨?_, ?_⟩
    · rw [List.length_map, same]
    · rw [fetched_cons, ← same]
      rfl
  · intro error failed sure
    obtain ⟨events, read⟩ := succeeds sure
    cases failed.symm.trans read

private theorem fetches_pages (positive : 1 ≤ config.ingestBatchSize) (progress : IngestProgress)
    (place : progress.fetched = progress.offset) :
    Fetches backend certain (ingestPages config fuel progress)
      (fun _ after => fetchedEvents after = fetchedEvents log ++
        backend.visitedFrom config.ingestBatchSize config.ingestMaxEvents fuel progress.offset) log := by
  induction fuel generalizing progress log with
  | zero => exact (List.append_nil _).symm
  | succ fuel ih =>
    unfold ingestPages
    by_cases room : progress.fetched < config.ingestMaxEvents
    · rw [if_pos room]
      apply Task.wp_bind
      rw [place]
      generalize limited : min config.ingestBatchSize (config.ingestMaxEvents - progress.offset) = limit
      have pages : backend.visitedFrom config.ingestBatchSize config.ingestMaxEvents (fuel + 1) progress.offset =
          backend.page limit progress.offset ++ backend.visitedFrom config.ingestBatchSize config.ingestMaxEvents fuel
            (progress.offset + (backend.page limit progress.offset).length) := by
        rw [Backend.visitedFrom, limited]
      have asked : 0 < limit := by omega
      apply Task.wp_mono (fetches_page limit progress.offset)
      · rintro events between ⟨length, fetched⟩
        rw [length, pages]
        split
        · rename_i empty
          rw [Backend.visited_short (empty ▸ asked), List.append_nil]
          exact fetched
        · apply Task.wp_bind
          apply Task.wp_mono (fetches_events events progress.inserted)
          · intro inserted further same
            split
            · rename_i short
              rw [Backend.visited_short short, List.append_nil]
              exact same.trans fetched
            · apply Task.wp_mono (ih _ ?_)
              · intro _ after rest
                rw [rest, same, fetched, List.append_assoc]
              · exact fun _ _ failed => failed
              · rfl
          · exact fun _ _ failed => failed
      · exact fun _ _ failed => failed
    · rw [if_neg room, Backend.visited_idle (place ▸ Nat.le_of_not_lt room), List.append_nil]
      exact rfl

private theorem fetches_offset : Fetches backend certain getIngestionOffset
    (fun offset after => offset = 0 ∧ fetchedEvents after = fetchedEvents log) log := by
  unfold getIngestionOffset
  apply Task.wp_bind
  apply Task.wp_perform
  rintro answer after ⟨⟨genuine, succeeds⟩, rfl⟩
  apply Task.wp_bind
  apply Task.wp_ofExcept
  · rintro stored rfl
    cases stored with
    | some nextOffset => exact ⟨genuine, fetched_other rfl⟩
    | none =>
      apply Task.wp_bind
      apply Task.wp_perform
      rintro answer after ⟨⟨_, succeeds⟩, rfl⟩
      apply Task.wp_bind
      apply Task.wp_ofExcept
      · intro _ _
        exact ⟨rfl, (fetched_other rfl).trans (fetched_other rfl)⟩
      · intro error failed sure
        cases failed.symm.trans (succeeds sure)
  · intro error failed sure
    obtain ⟨stored, read⟩ := succeeds sure
    cases failed.symm.trans read

/-- A run fetches the pages of one traversal. -/
theorem fetches_once (positive : 1 ≤ config.ingestBatchSize) :
    Fetches backend certain (ingestOnce config)
      (fun _ after => fetchedEvents after = backend.visited config.ingestBatchSize config.ingestMaxEvents) [] := by
  unfold ingestOnce
  apply Task.wp_bind
  apply Task.wp_mono fetches_offset
  · rintro offset begun ⟨rfl, start⟩
    apply Task.wp_bind
    apply Task.wp_mono (fetches_pages positive ⟨0, 0, 0⟩ rfl)
    · intro progress between pages
      apply Task.wp_bind
      unfold setIngestionOffset
      apply Task.wp_bind
      apply Task.wp_perform
      rintro answer after ⟨⟨_, succeeds⟩, rfl⟩
      apply Task.wp_ofExcept
      · intro _ _
        refine (fetched_other rfl).trans ?_
        rw [pages, start]
        rfl
      · intro error failed sure
        cases failed.symm.trans (succeeds sure)
    · exact fun _ _ failed => failed
  · exact fun _ _ failed => failed

/-- Every first run of the ingestion that ends well has fetched every event, and none twice. -/
def IngestsOnce (config : IngestConfig) (rows : List IndexerTradeEvent) : Prop :=
  ∀ (backend : Backend IndexerTradeEvent.blockNumber rows) (calls log : TreasuryLog)
    (response : TreasuryResponse),
    Program.Execution (recording (Genuine backend)) (ingestOnce config).run [] calls (.done (.ok response)) log →
      VisitsOnce rows (fetchedEvents log)

/-- Some ledger entry. -/
def storedEntry (data : LedgerEntryData) : LedgerEntry :=
  ⟨data, 1, 0⟩

/-- A service whose calls all succeed. -/
def obliging (backend : Backend IndexerTradeEvent.blockNumber rows) : (effect : TreasuryEffect) → TreasuryAnswer effect
  | .tradeEvents limit offset => .ok (backend.page limit offset)
  | .selectOffset => .ok none
  | .insertOffset => .ok ()
  | .setOffset _ => .ok ()
  | .upsertEntry data => .ok (storedEntry data, true)
  | .selectEntry _ => .ok none
  | .selectLatestPayout _ => .ok none
  | .insertPayout _ _ _ _ => .error connectionLost

private theorem obliging_answers (backend : Backend IndexerTradeEvent.blockNumber rows) (effect : TreasuryEffect) :
    Answers backend True ⟨effect, obliging backend effect⟩ := by
  cases effect with
  | tradeEvents limit offset => exact ⟨rfl, fun _ => ⟨_, rfl⟩⟩
  | selectOffset => exact ⟨trivial, fun _ => ⟨_, rfl⟩⟩
  | insertOffset => exact ⟨trivial, fun _ => rfl⟩
  | setOffset nextOffset => exact ⟨trivial, fun _ => rfl⟩
  | upsertEntry data => exact ⟨trivial, fun _ => ⟨_, rfl⟩⟩
  | selectEntry entryId => exact ⟨trivial, fun _ => trivial⟩
  | selectLatestPayout entryId => exact ⟨trivial, fun _ => trivial⟩
  | insertPayout entryId state note actor => exact ⟨trivial, fun _ => trivial⟩

/-- Every backend has a run that ends well. -/
theorem ingest_ends (positive : 1 ≤ config.ingestBatchSize) (backend : Backend IndexerTradeEvent.blockNumber rows) :
    ∃ calls log response,
      Program.Execution (recording (Genuine backend)) (ingestOnce config).run [] calls (.done (.ok response)) log ∧
        fetchedEvents log = backend.visited config.ingestBatchSize config.ingestMaxEvents := by
  obtain ⟨calls, result, log, execution⟩ := Program.recorded_finishes (obliging backend) (obliging_answers backend)
    (ingestOnce config).run []
  have ended := Program.wp_sound (fetches_once positive) execution
  cases result with
  | error error => exact absurd trivial ended
  | ok response =>
    exact ⟨calls, log, response, execution.widen fun _ answered => answered.1, ended⟩

/-- Runs of the ingestion fetch every event once just where no block is on both sides of a page's end. -/
theorem ingestsOnce_iff (distinct : rows.Nodup) (positive : 1 ≤ config.ingestBatchSize)
    (unlimited : rows.length ≤ config.ingestMaxEvents) :
    IngestsOnce config rows ↔ Separated IndexerTradeEvent.blockNumber config.ingestBatchSize rows := by
  rw [← visitsOnce_iff distinct positive unlimited]
  constructor
  · intro once backend
    obtain ⟨calls, log, response, execution, fetched⟩ := ingest_ends positive backend
    rw [← fetched]
    exact once backend calls log response execution
  · intro visits backend calls log response execution
    have answered := execution.widen (fun _ genuine => ⟨genuine, False.elim⟩ : ∀ event, _ → Answers backend False event)
    have fetched := Program.wp_sound (fetches_once positive) answered
    change fetchedEvents log = _ at fetched
    rw [fetched]
    exact visits backend

end Traversal

end Agroasys.Treasury
