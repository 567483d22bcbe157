import Agroasys.Treasury.Tables

/-! The payout states of an entry in the order of its latest state: two requests may
both read a state and both move on from it, and then the history is no legal path. -/

namespace Agroasys.Treasury

open Agroasys.Foundation

abbrev TreasuryPool := Pool TreasuryEffect TreasuryAnswer (Except String TreasuryResponse) TreasuryWorld

abbrev TreasuryHistory := History TreasuryPool (Move TreasuryCall TreasuryEffect TreasuryAnswer)

abbrev TreasuryEntry := Transition TreasuryPool (Move TreasuryCall TreasuryEffect TreasuryAnswer)

/-- What the payout states are meant to go through. -/
def payoutCycle : Lifecycle PayoutState where
  first := .pendingReview
  follows current next := next ∈ allowedTransitions current

section Order

variable {world : TreasuryWorld} {gap : Nat} {now entryId : Int} {state : PayoutState} {note actor : Option String}

instance : Std.Total PayoutLifecycleEvent.upTo where
  total payout other := by
    unfold PayoutLifecycleEvent.upTo
    omega

instance : IsTrans PayoutLifecycleEvent PayoutLifecycleEvent.upTo where
  trans first second third := by
    unfold PayoutLifecycleEvent.upTo
    omega

/-- No payout event of an entry is stamped after its latest one. -/
theorem latest_bounds (latest : world.latestPayout entryId = some last) :
    ∀ payout ∈ world.payoutsOf entryId, payout.createdAt ≤ last.createdAt := by
  intro payout member
  have sorted := List.pairwise_insertionSort PayoutLifecycleEvent.upTo (world.payoutsOf entryId)
  unfold TreasuryWorld.latestPayout TreasuryWorld.orderedPayouts at latest
  have listed := (List.mem_insertionSort PayoutLifecycleEvent.upTo).mpr member
  cases ordered : (world.payoutsOf entryId).insertionSort PayoutLifecycleEvent.upTo with
  | nil =>
    rw [ordered] at listed
    cases listed
  | cons head rest =>
    rw [ordered] at listed latest sorted
    cases latest
    rcases List.mem_cons.mp listed with rfl | inside
    · exact Int.le_refl _
    · rcases (List.pairwise_cons.mp sorted).1 payout inside with before | tied
      · exact Int.le_of_lt before
      · exact Int.le_of_eq tied.1.symm

/-- An event stamped no earlier than the others becomes the latest. -/
theorem payoutHistory_insert (sound : world.Sound)
    (latest : ∀ last ∈ world.latestPayout entryId, last.createdAt ≤ now) :
    (world.insertPayout gap now entryId state note actor).2.payoutHistory entryId =
      world.payoutHistory entryId ++ [state] := by
  have newest : ∀ payout ∈ world.payoutsOf entryId,
      PayoutLifecycleEvent.upTo (world.insertPayout gap now entryId state note actor).1 payout := by
    intro payout member
    have numbered := sound.numbered payout (List.mem_filter.mp member).1
    have stamped : payout.createdAt ≤ now := by
      cases found : world.latestPayout entryId with
      | none =>
        have empty : world.orderedPayouts entryId = [] := List.head?_eq_none_iff.mp found
        have listed := (List.mem_insertionSort PayoutLifecycleEvent.upTo).mpr member
        rw [TreasuryWorld.orderedPayouts] at empty
        rw [empty] at listed
        cases listed
      | some last => exact Int.le_trans (latest_bounds found payout member) (latest last found)
    rcases Int.lt_or_eq_of_le stamped with before | tied
    · exact .inl before
    · refine .inr ⟨tied.symm, ?_⟩
      dsimp only [TreasuryWorld.insertPayout]
      omega
  unfold TreasuryWorld.payoutHistory TreasuryWorld.orderedPayouts
  rw [payoutsOf_insert, List.insertionSort_cons_of_forall_rel _ newest, List.map_cons, List.reverse_cons]
  rfl

private theorem payoutHistory_other (different : other ≠ entryId) :
    (world.insertPayout gap now entryId state note actor).2.payoutHistory other = world.payoutHistory other := by
  unfold TreasuryWorld.payoutHistory TreasuryWorld.orderedPayouts
  rw [payoutsOf_other different]

/-- The latest state ends the history. -/
theorem payoutHistory_last : (world.payoutHistory entryId).getLast? =
    (world.latestPayout entryId).map (·.state) := by
  rw [TreasuryWorld.payoutHistory, List.getLast?_reverse, List.head?_map]
  rfl

private theorem history_current (legal : payoutCycle.Legal (world.payoutHistory entryId)) :
    (world.payoutHistory entryId).getLast? = some (currentState (world.latestPayout entryId)) := by
  rw [payoutHistory_last]
  cases found : world.latestPayout entryId with
  | none =>
    have empty : (world.payoutHistory entryId).getLast? = none := by
      rw [payoutHistory_last, found]
      rfl
    rw [List.getLast?_eq_none_iff.mp empty] at legal
    cases legal.1
  | some last => rfl

end Order

section Requests

variable {config : IngestConfig} {history : TreasuryHistory} {pool next : TreasuryPool}

/-- A request moves on from the state it has read. -/
theorem reviewing_read {origin duty : Duty} {events : List (Event TreasuryEffect TreasuryAnswer)}
    (traced : treasuryDuties.Traced origin events duty)
    (read : ⟨.selectLatestPayout entryId, .ok latest⟩ ∈ events) :
    duty = .settled ∨ ∃ found, duty = .reviewing found (currentState latest) := by
  induction traced with
  | start => cases read
  | @next events duty event earlier permitted ih =>
    rcases List.mem_cons.mp read with same | before
    · subst same
      cases duty with
      | found asked => exact .inr ⟨asked, rfl⟩
      | ingesting reach pending => cases pending <;> cases permitted
      | _ => cases permitted
    · rcases ih before with rfl | ⟨found, rfl⟩
      · cases permitted
      · obtain ⟨effect, answer⟩ := event
        cases effect with
        | insertPayout => exact .inl rfl
        | _ => cases permitted

/-- An append finds the latest state of its entry the one that its request has read,
and is stamped no earlier. -/
def Timely (earlier : TreasuryHistory) (step : TreasuryEntry) : Prop :=
  ∀ pid entryId state note actor answer row,
    step.label = .perform pid ⟨.insertPayout entryId state note actor, answer⟩ →
    step.after.world.payouts = row :: step.before.world.payouts →
      (∃ latest, Made earlier pid ⟨.selectLatestPayout entryId, .ok latest⟩ ∧
        currentState latest = currentState (step.before.world.latestPayout entryId)) ∧
      ∀ last ∈ step.before.world.latestPayout entryId, last.createdAt ≤ row.createdAt

/-- Every entry's history is a legal path. -/
def TreasuryWorld.Legal (world : TreasuryWorld) : Prop :=
  ∀ entry ∈ world.entries, payoutCycle.Legal (world.payoutHistory entry.id)

private theorem TreasuryWorld.Legal.upsert {world : TreasuryWorld} (sound : world.Sound) (legal : world.Legal) :
    (world.upsertWithInitialState gap now data).2.Legal := by
  intro entry member
  rcases upsert_cases sound with ⟨_, _, _, refreshed⟩ | ⟨_, opened⟩
  · rw [refreshed] at member ⊢
    obtain ⟨old, listed, rfl⟩ := List.mem_map.mp member
    rw [refresh_id]
    exact legal old listed
  · rw [opened] at member ⊢
    rcases List.mem_cons.mp member with rfl | listed
    · have unborn : (world.listed gap now data).payoutsOf (world.nextEntryId + gap) = [] := by
        refine List.filter_eq_nil_iff.mpr ?_
        intro payout inside
        obtain ⟨owner, listed, named⟩ := sound.owned payout inside
        have bound := sound.fresh owner listed
        simp only [decide_eq_true_eq]
        omega
      have single : ((world.listed gap now data).insertPayout gap now (world.nextEntryId + gap) .pendingReview
          (some "Auto-created from indexer ingestion") (some "system:indexer-ingest")).2.payoutHistory
            (world.nextEntryId + gap) = [.pendingReview] := by
        unfold TreasuryWorld.payoutHistory TreasuryWorld.orderedPayouts
        rw [payoutsOf_insert, unborn]
        rfl
      exact single ▸ Lifecycle.legal_first
    · have bound := sound.fresh entry listed
      rw [payoutHistory_other (by omega)]
      exact legal entry listed

/-- An append in time extends a legal path. -/
theorem TreasuryWorld.Legal.append {world : TreasuryWorld} (sound : world.Sound) (legal : world.Legal)
    (stamped : ∀ last ∈ world.latestPayout entryId, last.createdAt ≤ now)
    (allowed : state ∈ allowedTransitions (currentState (world.latestPayout entryId))) :
    (world.insertPayout gap now entryId state note actor).2.Legal := by
  intro entry member
  by_cases same : entry.id = entryId
  · subst same
    rw [payoutHistory_insert sound stamped]
    have path := legal entry member
    exact path.extend (history_current path) allowed
  · rw [payoutHistory_other same]
    exact legal entry member

end Requests

/-- Where every append is timely, the states of an entry are a legal path: it starts in
review, follows the allowed transitions, is paid at most once, and ends where nothing
is allowed. -/
theorem payout_history_legal {config : IngestConfig} (run : (treasuryServer config).system.Run history pool)
    (timely : Throughout Timely history) : ∀ entry ∈ pool.world.entries,
      payoutCycle.Legal (pool.world.payoutHistory entry.id) ∧
      (pool.world.payoutHistory entry.id).count .paid ≤ 1 ∧
      ∀ earlier state later, pool.world.payoutHistory entry.id = earlier ++ state :: later →
        allowedTransitions state = [] → later = [] := by
  have legal : pool.world.Legal := by
    apply Server.run_kept (duties_follow config) ?_ ?_ ?_ ?_ run timely
    · intro pool initial entry member
      rw [initial.1.2.1] at member
      cases member
    · intro history pool pid call next _ _ _ taken legal
      rw [(Server.started taken).1]
      exact legal
    · intro history pool pid event duty next acts prompt legal
      obtain ⟨effect, answer⟩ := event
      have writes := served_writes acts.served
      have sound := run_sound acts.run
      generalize same : next.world = after at writes
      cases writes with
      | nothing => exact legal
      | seeded => exact legal
      | moved => exact legal
      | upserted gap now => exact TreasuryWorld.Legal.upsert sound legal
      | @appended entryId _ state note actor gap now present =>
        obtain ⟨⟨latest, read, current⟩, stamped⟩ := prompt pid _ _ _ _ _ _ rfl (by rw [same]; rfl)
        refine TreasuryWorld.Legal.append sound legal stamped ?_
        obtain ⟨call, _, traced⟩ := Server.casting_traced (duties_follow config) acts.run acts.assigned
        have permitted := acts.permitted
        rcases reviewing_read traced (made_iff.mp read) with rfl | ⟨found, rfl⟩
        · cases permitted
        · exact current ▸ permitted.2
    · intro history pool next _ _ drifted legal
      obtain ⟨event, _, same⟩ := drifted.1
      rw [same]
      exact legal
  intro entry member
  have path := legal entry member
  refine ⟨path, path.once ?_, ?_⟩
  · intro next follows
    cases follows
  · intro earlier state later split ends
    rw [split] at path
    apply path.ends
    intro next follows
    have named : next ∈ allowedTransitions state := follows
    rw [ends] at named
    cases named

section Examples

def releasedEvent : IndexerTradeEvent where
  id := "evt-1"
  tradeId := "trade-1"
  eventName := "FundsReleasedStage1"
  txHash := some "0xtx"
  extrinsicHash := none
  blockNumber := 1
  timestamp := 0
  releasedLogisticsAmount := some "100"
  paidPlatformFees := none

def newTreasury (events : List IndexerTradeEvent) : TreasuryWorld :=
  ⟨events, [], [], some 0, 1, 1⟩

def smallBatches : IngestConfig :=
  ⟨100, 2000⟩

/-- No statement fails and the clock goes forward. -/
def smooth (time : Nat) : TreasuryChoice :=
  ⟨.acknowledged, 0, time⟩

/-- `Timely`, checked. -/
def punctual (earlier : TreasuryHistory) (step : TreasuryEntry) : Bool :=
  match step.label with
  | .perform pid ⟨.insertPayout entryId _ _ _, _⟩ =>
    (earlier.any fun other =>
      match other.label with
      | .perform reader ⟨.selectLatestPayout asked, .ok latest⟩ =>
        reader = pid && asked = entryId &&
          currentState latest = currentState (step.before.world.latestPayout entryId)
      | _ => false) &&
    (step.before.world.latestPayout entryId).all fun last =>
      step.after.world.payouts.head?.all fun row => last.createdAt ≤ row.createdAt
  | _ => true

theorem timely_of_punctual (earlier : TreasuryHistory) (step : TreasuryEntry) (checked : punctual earlier step = true) :
    Timely earlier step := by
  intro pid entryId state note actor answer row label inserted
  unfold punctual at checked
  rw [label] at checked
  dsimp only at checked
  rw [inserted] at checked
  simp only [Bool.and_eq_true, List.any_eq_true, Option.all_eq_true_iff_get, List.head?_cons] at checked
  obtain ⟨⟨other, member, read⟩, stamped⟩ := checked
  constructor
  · split at read
    · rename_i reader asked latest made
      simp only [Bool.and_eq_true, decide_eq_true_eq] at read
      obtain ⟨⟨rfl, rfl⟩, current⟩ := read
      exact ⟨latest, ⟨other, member, made⟩, current⟩
    · cases read
  · intro last found
    rw [Option.mem_def.mp found] at stamped
    simpa using stamped

def approval : AppendStateRequest := ⟨"1", "READY_FOR_PAYOUT", none, some "ops"⟩

def cancellation : AppendStateRequest := ⟨"1", "CANCELLED", none, some "ops"⟩

end Examples

/-- An entry that is ingested and approved. -/
theorem approved_history_legal : ∃ (history : TreasuryHistory) (pool : TreasuryPool),
    (treasuryServer smallBatches).system.Run history pool ∧ Throughout Timely history ∧
      ∃ entry ∈ pool.world.entries, payoutCycle.Legal (pool.world.payoutHistory entry.id) := by
  obtain ⟨recording, run, checked⟩ := (treasuryServer smallBatches).record_run treasuryServing smooth
    (newTreasury [releasedEvent]) [.start 0 .ingest, .go 0 4, .start 1 (.appendState approval), .go 1 3]
    (fun recording => checkEach punctual recording.history &&
      decide (recording.pool.world.entries.map (·.id) = [1]))
    rfl ⟨by decide, rfl, rfl, rfl⟩ (by decide +kernel)
  simp only [Bool.and_eq_true, decide_eq_true_eq] at checked
  have timely := throughout_of_checkEach timely_of_punctual checked.1
  have listed : (1 : Int) ∈ recording.pool.world.entries.map (·.id) := by simp [checked.2]
  obtain ⟨entry, member, _⟩ := List.mem_map.mp listed
  exact ⟨_, _, run, timely, entry, member, (payout_history_legal run timely entry member).1⟩

/-- Two requests read the review state; one cancels the entry and the other approves it. -/
theorem cancelled_then_approved : ¬ ∀ (config : IngestConfig) (history : TreasuryHistory) (pool : TreasuryPool),
    (treasuryServer config).system.Run history pool →
      ∀ entry ∈ pool.world.entries, payoutCycle.Legal (pool.world.payoutHistory entry.id) := by
  intro legal
  obtain ⟨recording, run, checked⟩ := (treasuryServer smallBatches).record_run treasuryServing smooth
    (newTreasury [releasedEvent]) [.start 0 .ingest, .go 0 4, .start 1 (.appendState approval), .go 1 2,
      .start 2 (.appendState cancellation), .go 2 3, .go 1 1]
    (fun recording => recording.pool.world.entries.any fun entry =>
      decide (recording.pool.world.payoutHistory entry.id = [.pendingReview, .cancelled, .readyForPayout]))
    rfl ⟨by decide, rfl, rfl, rfl⟩ (by decide +kernel)
  obtain ⟨entry, member, states⟩ := List.any_eq_true.mp checked
  have path := legal _ _ _ run entry member
  rw [of_decide_eq_true states] at path
  have split : payoutCycle.Legal ([.pendingReview] ++ .cancelled :: [.readyForPayout]) := path
  cases split.ends fun next follows => nomatch follows

end Agroasys.Treasury
